import BuildMonitor.Host.Basic
import BuildMonitor.Text.Lines

/-!
# The build log

The log keeps the most recent entries in memory and copies every entry to a durable file. Readers
are served from memory. Only when nothing has been kept, as after a restart of the monitor, do they
get the last lines of the file.

Trouble with the file never reaches the entries in memory: an entry that could not be copied is kept
all the same.

Main definitions: `LogSink`, `LogSink.append`, `LogSink.reset`, `LogSink.snapshot`.
-/

namespace BuildMonitor

open BuildMonitor.Text

namespace Log

/-- The last `count` elements of a list, in their order. -/
def lastOf {α : Type} (count : Nat) (elements : List α) : List α :=
  elements.drop (elements.length - count)

end Log

open Log

/-- A bounded log with a durable copy. -/
structure LogSink where
  /-- The path of the durable copy. -/
  path : String
  /-- The number of entries kept in memory. -/
  capacity : Nat
  /-- There is room for one entry at least. -/
  positive : 0 < capacity
  /-- The entries kept, oldest first. -/
  entries : List String
  deriving DecidableEq, Repr

namespace LogSink

/-- An empty log. A capacity of zero counts as one. -/
def create (path : String) (capacity : Nat) : LogSink :=
  { path := path, capacity := max capacity 1, positive := by omega, entries := [] }

/-- The number of entries kept. -/
def size (sink : LogSink) : Nat := sink.entries.length

/-- Keeps an entry in memory; the oldest makes room when there is none left. -/
def push (sink : LogSink) (entry : String) : LogSink :=
  let kept := if sink.capacity ≤ sink.entries.length then sink.entries.drop 1 else sink.entries
  { sink with entries := kept ++ [entry] }

/-- Forgets the entries in memory. The durable copy stays. -/
def clear (sink : LogSink) : LogSink := { sink with entries := [] }

/-- Adds an entry: first to the durable copy, then in memory. A failed copy is passed over. -/
def append (sink : LogSink) (host : Host) (entry : String) : LogSink × Host :=
  let copied := host.appendDurably sink.path (Utf8.encode entry)
  (sink.push entry, copied.2)

/-- Removes the durable copy. That there is none is no failure. -/
def removeCopy (sink : LogSink) (host : Host) : Except Host.IoError Unit × Host :=
  let removed := host.removeDurably sink.path
  match removed.1 with
  | .ok () => (.ok (), removed.2)
  | .error error => (if error.isNotFound then .ok () else .error error, removed.2)

/-- Starts the log anew: forgets the entries in memory and removes the durable copy. -/
def reset (sink : LogSink) (host : Host) : Except Host.IoError Unit × LogSink × Host :=
  let removed := sink.removeCopy host
  (removed.1, sink.clear, removed.2)

/-- The last lines of the durable copy, read leniently; none if it cannot be read. -/
def tailOfCopy (sink : LogSink) (host : Host) (count : Nat) : List String :=
  match host.read sink.path with
  | .ok content => lastOf count (splitLines (Utf8.decodeLossy content.toList))
  | .error _ => []

/-- The most recent lines, oldest first, at most `count` and never more than the log keeps. -/
def snapshot (sink : LogSink) (host : Host) (count : Nat) : List String :=
  let wanted := min count sink.capacity
  if wanted = 0 then []
  else if sink.entries.isEmpty then sink.tailOfCopy host wanted
  else lastOf wanted sink.entries

end LogSink

end BuildMonitor
