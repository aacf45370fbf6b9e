import BuildMonitor.Log.Sink

/-!
# The log as a window on its history

What a log keeps in memory is the end of the list of all entries added to it. `lastOf` is that end;
adding an entry to the log adds it to the history and leaves the log a window on it: `push_window`,
`foldl_push_window`. What is shown of a log is the end of the lines that there are to show:
`snapshot_eq_lastOf_available`.

Main definitions: `LogSink.available`, `LogSink.appendAll`.
-/

namespace BuildMonitor

namespace Log

variable {α β : Type} {count other : Nat} {elements : List α}

/-- The end of a list is as long as is asked for, if the list is. -/
@[simp] theorem length_lastOf : (lastOf count elements).length = min count elements.length := by
  simp only [lastOf, List.length_drop]
  omega

/-- The end of no length is empty. -/
@[simp] theorem lastOf_zero : lastOf 0 elements = [] := by simp [lastOf]

/-- An empty list has an empty end. -/
@[simp] theorem lastOf_nil : lastOf count ([] : List α) = [] := by simp [lastOf]

/-- A list that is short enough is its own end. -/
theorem lastOf_of_length_le (short : elements.length ≤ count) :
    lastOf count elements = elements := by
  rw [lastOf, Nat.sub_eq_zero_of_le short, List.drop_zero]

/-- More elements than there are makes no difference. -/
theorem lastOf_min_length :
    lastOf (min count elements.length) elements = lastOf count elements := by
  simp only [lastOf]
  congr 1
  omega

/-- The end of an end is the end of the list. -/
theorem lastOf_lastOf :
    lastOf count (lastOf other elements) = lastOf (min count other) elements := by
  simp only [lastOf, List.length_drop, List.drop_drop]
  congr 1
  omega

/-- The end of a list is a suffix of it. -/
theorem lastOf_suffix (count : Nat) (elements : List α) : lastOf count elements <:+ elements :=
  List.drop_suffix _ _

/-- Of two ends of a list the shorter one is the end of the other. -/
theorem lastOf_suffix_lastOf_iff : lastOf count elements <:+ lastOf other elements ↔
    min count elements.length ≤ min other elements.length := by
  constructor
  · intro suffix
    simpa only [length_lastOf] using suffix.length_le
  · intro shorter
    refine List.suffix_of_suffix_length_le (lastOf_suffix count elements)
      (lastOf_suffix other elements) ?_
    simpa only [length_lastOf] using shorter

/-- An end with some length is empty only of an empty list. -/
theorem lastOf_eq_nil_iff (some : count ≠ 0) : lastOf count elements = [] ↔ elements = [] := by
  rw [← List.length_eq_zero_iff, length_lastOf, ← List.length_eq_zero_iff]
  omega

/-- The end of a list that has grown by one element. -/
theorem lastOf_concat (count : Nat) (elements : List α) (element : α) :
    lastOf (count + 1) (elements ++ [element]) = lastOf count elements ++ [element] := by
  simp only [lastOf, List.length_append, List.length_singleton]
  rw [List.drop_append_of_le_length (by omega)]
  congr 2
  omega

end Log

open Log Text

namespace LogSink

variable {sink : LogSink} {host : Host} {entry : String} {history : List String}

/-- A log that is a window on a history is one on the history with the entry added to both. -/
theorem push_window (kept : sink.entries = lastOf sink.capacity history) :
    (sink.push entry).entries = lastOf sink.capacity (history ++ [entry]) := by
  obtain ⟨room, capacity⟩ : ∃ room, sink.capacity = room + 1 :=
    Nat.exists_eq_add_one.mpr sink.positive
  have grown := lastOf_concat room history entry
  have shortened : (if sink.capacity ≤ sink.entries.length then sink.entries.drop 1
      else sink.entries) = lastOf room history := by
    rw [kept, capacity, length_lastOf]
    split
    · next full =>
      simp only [lastOf, List.drop_drop]
      congr 1
      omega
    · next free =>
      rw [lastOf_of_length_le (by omega), lastOf_of_length_le (by omega)]
  rw [capacity, grown]
  exact congrArg (· ++ [entry]) shortened

/-- What is read from memory. -/
theorem snapshot_eq_lastOf (kept : sink.entries ≠ []) (host : Host) (count : Nat) :
    sink.snapshot host count = lastOf (min count sink.capacity) sink.entries := by
  have some : sink.entries.isEmpty = false := by simpa using kept
  rw [snapshot, some]
  by_cases none : min count sink.capacity = 0 <;> simp [none]

/-- The lines that readers are shown the end of: the entries in memory, and where there are none the
lines of the durable copy. -/
def available (sink : LogSink) (host : Host) : List String :=
  if sink.entries = [] then
    match host.read sink.path with
    | .ok content => splitLines (Utf8.decodeLossy content.toList)
    | .error _ => []
  else sink.entries

/-- Whatever there is to read, its end is read. -/
theorem snapshot_eq_lastOf_available (sink : LogSink) (host : Host) (count : Nat) :
    sink.snapshot host count = lastOf (min count sink.capacity) (sink.available host) := by
  by_cases kept : sink.entries = []
  · rw [snapshot, tailOfCopy, available, if_pos kept, kept, List.isEmpty_nil, if_pos rfl]
    cases host.read sink.path with
    | error => simp
    | ok content => by_cases none : min count sink.capacity = 0 <;> simp [none]
  · rw [snapshot_eq_lastOf kept, available, if_neg kept]

/-- Where no entry is in memory, the end of the durable copy is read. -/
theorem snapshot_of_read {content : Host.Blob} (empty : sink.entries = [])
    (read : host.read sink.path = .ok content) (count : Nat) :
    sink.snapshot host count =
      lastOf (min count sink.capacity) (splitLines (Utf8.decodeLossy content.toList)) := by
  rw [snapshot_eq_lastOf_available, available, if_pos empty, read]

/-- Adds entries one after the other. -/
def appendAll (sink : LogSink) (host : Host) (entries : List String) : LogSink × Host :=
  entries.foldl (fun state entry => state.1.append state.2 entry) (sink, host)

/-- Entries may be added in two parts. -/
theorem appendAll_append (before after : List String) :
    sink.appendAll host (before ++ after) =
      (sink.appendAll host before).1.appendAll (sink.appendAll host before).2 after :=
  List.foldl_append

/-- Entries in memory leave the path of the log as it is. -/
@[simp] theorem foldl_push_path (entries : List String) (sink : LogSink) :
    (entries.foldl push sink).path = sink.path := by
  induction entries generalizing sink with
  | nil => rfl
  | cons entry rest inductionHypothesis => exact inductionHypothesis (sink.push entry)

/-- Entries in memory leave the room for them as it is. -/
@[simp] theorem foldl_push_capacity (entries : List String) (sink : LogSink) :
    (entries.foldl push sink).capacity = sink.capacity := by
  induction entries generalizing sink with
  | nil => rfl
  | cons entry rest inductionHypothesis => exact inductionHypothesis (sink.push entry)

/-- No entry that is added leaves fewer entries. -/
theorem size_le_foldl_push (entries : List String) (sink : LogSink) :
    sink.size ≤ (entries.foldl push sink).size := by
  have pushed (sink : LogSink) (entry : String) : sink.size ≤ (sink.push entry).size := by
    have room := sink.positive
    simp only [size, push, List.length_append, List.length_singleton]
    split
    · simp only [List.length_drop]
      omega
    · exact Nat.le_succ _
  induction entries generalizing sink with
  | nil => exact Nat.le_refl _
  | cons entry rest inductionHypothesis =>
    exact Nat.le_trans (pushed sink entry) (inductionHypothesis (sink.push entry))

/-- The window after entries were added one by one. -/
theorem foldl_push_window (entries : List String)
    (kept : sink.entries = lastOf sink.capacity history) :
    (entries.foldl push sink).entries = lastOf sink.capacity (history ++ entries) := by
  induction entries generalizing sink history with
  | nil => rw [List.append_nil]; exact kept
  | cons entry rest inductionHypothesis =>
    have pushed : (sink.push entry).entries =
        lastOf (sink.push entry).capacity (history ++ [entry]) := push_window kept
    rw [← List.singleton_append, ← List.append_assoc]
    exact inductionHypothesis pushed

end LogSink

end BuildMonitor
