import BuildMonitor.Host.Files
import BuildMonitor.Host.Processes
import BuildMonitor.Text.Utf8

/-!
# The host

All that lies outside the monitor and that it looks at or changes: files, processes, the time, and
the directory that relative paths start from.

The log has a durable copy on disk, and disks fail. A host carries a plan of *faults*, one for each
operation on that copy still to come; where the plan ends no operation is disturbed.

A host can listen on the addresses of its network interfaces, which are none unless they are given,
and on those that every host has in common.

Main definitions: `Host`, `Host.appendDurably`, `Host.removeDurably`.
-/

namespace BuildMonitor

open BuildMonitor.Text

namespace Host

/-- What goes wrong in one operation on the durable log. -/
inductive Fault where
  /-- Nothing. -/
  | none
  /-- The operation is refused before anything is changed. -/
  | refused (cause : IoError)
  /-- A write ends early, with the given number of bytes written. -/
  | cutShort (kept : Nat) (cause : IoError)
  deriving DecidableEq, Repr

end Host

open Host in
/-- The surroundings of the monitor. -/
structure Host where
  files : Files
  processes : Processes
  directory : Location
  now : Instant
  faults : List Fault
  /-- The addresses of its network interfaces, by their octets or groups. -/
  addresses : List (List Nat) := []
  deriving Repr

namespace Host

/-- A host with nothing in it, under a signal policy, with the given working directory. -/
def bare (policy : SignalPolicy) (directory : Location) (now : Instant) : Host :=
  ⟨Files.empty, Processes.empty policy, directory, now, [], []⟩

/-- The path of the working directory. -/
def workingDirectory (host : Host) : String :=
  "/" ++ joinTexts "/" host.directory

/-- The current time as a text. -/
def timestamp (host : Host) : String := host.now.timestamp

/-- The fault of the next durable operation, and the host with the rest of the plan. -/
def nextFault (host : Host) : Fault × Host :=
  match host.faults with
  | [] => (.none, host)
  | fault :: rest => (fault, { host with faults := rest })

/-- Puts the outcome of an operation on files into the host; the files stay if it failed. -/
def settle (host : Host) (outcome : Except IoError Files) : Except IoError Unit × Host :=
  match outcome with
  | .ok files => (.ok (), { host with files := files })
  | .error error => (.error error, host)

/-- Adds bytes at the end of the durable log. -/
def appendDurably (host : Host) (path : String) (bytes : List UInt8) :
    Except IoError Unit × Host :=
  match host.nextFault with
  | (.none, host) => host.settle (host.files.appendTo host.directory path host.now bytes)
  | (.refused cause, host) => (.error cause, host)
  | (.cutShort kept cause, host) =>
    let written := host.settle (host.files.appendTo host.directory path host.now (bytes.take kept))
    (.error cause, written.2)

/-- Removes the durable log. -/
def removeDurably (host : Host) (path : String) : Except IoError Unit × Host :=
  match host.nextFault with
  | (.none, host) => host.settle (host.files.unlink host.directory path)
  | (.refused cause, host) => (.error cause, host)
  | (.cutShort _ cause, host) => (.error cause, host)

/-- Reads the content of a file. -/
def read (host : Host) (path : String) : Except IoError Blob :=
  host.files.read host.directory path

/-- Reads the content of a file that must hold text. -/
def readText (host : Host) (path : String) : Except IoError String :=
  match host.read path with
  | .error error => .error error
  | .ok content =>
    match Utf8.decode? content.toList with
    | some text => .ok text
    | none => .error .notText

/-- Removes a file. -/
def remove (host : Host) (path : String) : Except IoError Unit × Host :=
  host.settle (host.files.unlink host.directory path)

/-- The absolute form of a path, from the working directory. -/
def absolute (host : Host) (path : String) : Except IoError String :=
  Path.absolute host.workingDirectory path

end Host

end BuildMonitor
