import BuildMonitor.Proofs.Log.Window
import BuildMonitor.Proofs.Monitor.Requests

/-!
# What readers see of an entry that is added

Readers of a log that has entries in memory see an entry that is added behind what they saw before,
as far as it fits the window. The lines that are read from the durable copy are another matter: they
are shown only as long as nothing has been kept, and the first entry takes the place of all of them.
When the two agree all the same is said exactly in `snapshot_append`.

So the first entry after a restart hides the lines of the build that is under way, also if it is the
entry for a request to stop: `first_stop_hides_lines`.
-/

namespace BuildMonitor

namespace Log

variable {α : Type} {window : Nat} {element : α}

/-- Of what stands before an element that is added, only the window counts. -/
theorem lastOf_concat_lastOf (window : Nat) (elements : List α) (element : α) :
    lastOf window (lastOf window elements ++ [element]) =
      lastOf window (elements ++ [element]) := by
  cases window with
  | zero => rw [lastOf_zero, lastOf_zero]
  | succ room =>
    have shorter : min room (room + 1) = room := by omega
    rw [lastOf_concat, lastOf_concat, lastOf_lastOf, shorter]

/-- A window with no room for more than the element that is added shows just that. -/
theorem lastOf_concat_eq_singleton_iff {elements : List α} (room : 1 ≤ window) :
    lastOf window (elements ++ [element]) = [element] ↔ elements = [] ∨ window = 1 := by
  obtain ⟨earlier, rfl⟩ : ∃ earlier, window = earlier + 1 := Nat.exists_eq_add_one.mpr room
  rw [lastOf_concat, List.append_left_eq_self, lastOf, List.drop_eq_nil_iff,
    ← List.length_eq_zero_iff]
  omega

end Log

open Host Log

namespace LogSink

variable {sink : LogSink} {host : Host} {entry : String} {count : Nat}

/-- What is read from memory after an entry was added. -/
theorem snapshot_append_eq_lastOf :
    (sink.append host entry).1.snapshot (sink.append host entry).2 count =
      lastOf (min count sink.capacity) ((sink.push entry).entries) := by
  have kept : (sink.push entry).entries ≠ [] := List.append_ne_nil_of_right_ne_nil _ (by simp)
  exact snapshot_eq_lastOf kept (sink.append host entry).2 count

/-- The entry that makes room for another was outside every window that the other leaves. -/
theorem lastOf_push (sink : LogSink) (entry : String) {window : Nat}
    (within : window ≤ sink.capacity) :
    lastOf window (sink.push entry).entries = lastOf window (sink.entries ++ [entry]) := by
  simp only [push]
  split
  · next full =>
    cases window with
    | zero => rw [lastOf_zero, lastOf_zero]
    | succ room =>
      rw [lastOf_concat, lastOf_concat]
      simp only [lastOf, List.length_drop, List.drop_drop]
      congr 2
      omega
  · rfl

/-- An entry that is added stands behind what readers saw before, if that was read from memory. If
it was read from the durable copy, the entry stands alone; the lines that were seen are gone then,
unless there were none or the window has no room for them. -/
theorem snapshot_append (sink : LogSink) (host : Host) (entry : String) (count : Nat)
    (some : 1 ≤ count) :
    let window := min count sink.capacity
    let before := sink.snapshot host count
    let after := (sink.append host entry).1.snapshot (sink.append host entry).2 count
    (sink.entries ≠ [] → after = lastOf window (before ++ [entry])) ∧
      (sink.entries = [] → after = [entry]) ∧
      (after = lastOf window (before ++ [entry]) ↔
        sink.entries ≠ [] ∨ before = [] ∨ window = 1) := by
  intro window before after
  have room : 1 ≤ window := Nat.le_min.mpr ⟨some, sink.positive⟩
  have shown : after = lastOf window (sink.entries ++ [entry]) := by
    rw [← lastOf_push sink entry (Nat.min_le_right count sink.capacity)]
    exact snapshot_append_eq_lastOf
  have behind (kept : sink.entries ≠ []) : after = lastOf window (before ++ [entry]) := by
    have seen : before = lastOf window sink.entries := snapshot_eq_lastOf kept host count
    rw [shown, seen, lastOf_concat_lastOf]
  have alone (empty : sink.entries = []) : after = [entry] := by
    rw [shown, lastOf_concat_eq_singleton_iff room]
    exact Or.inl empty
  refine ⟨behind, alone, ?_⟩
  by_cases empty : sink.entries = []
  · rw [alone empty, eq_comm, lastOf_concat_eq_singleton_iff room]
    simp [empty]
  · exact ⟨fun _ => Or.inl empty, fun _ => behind empty⟩

end LogSink

/-- A monitor that was started again while a build is under way. -/
def rejoined : Monitor where
  host :=
    { files := ⟨[(["m"], .file ⟨.ofList [55, 10], false, ⟨0, 0⟩⟩),
        (["l"], .file ⟨.ofList [97, 10, 98, 10], false, ⟨0, 0⟩⟩)]⟩
      processes := ⟨.recorded, [7], []⟩
      directory := []
      now := ⟨0, 0⟩
      faults := [] }
  markerPath := "/m"
  outputDirectory := "/out"
  command := ⟨"/build", "/", []⟩
  sink := LogSink.create "/l" 50
  tasks := []

/-- In memory an entry is shown behind the others; over the durable copy it is shown alone. -/
theorem snapshot_append_of_rejoined :
    ({ rejoined.sink with entries := ["x\n"] }.append rejoined.host "c\n").1.snapshot
        ({ rejoined.sink with entries := ["x\n"] }.append rejoined.host "c\n").2 5 =
      ["x\n", "c\n"] ∧
    (rejoined.sink.append rejoined.host "c\n").1.snapshot
        (rejoined.sink.append rejoined.host "c\n").2 5 = ["c\n"] :=
  ⟨(LogSink.snapshot_append { rejoined.sink with entries := ["x\n"] } rejoined.host "c\n" 5
      (by decide)).1 (by simp),
    (LogSink.snapshot_append rejoined.sink rejoined.host "c\n" 5 (by decide)).2.1 rfl⟩

/-- The entry for the first request to stop takes the place of the lines that were shown before. -/
theorem first_stop_hides_lines :
    rejoined.sink.snapshot rejoined.host 10 = ["a\n", "b\n"] ∧
      rejoined.stop.1 = .ok 7 ∧
      rejoined.stop.2.sink.snapshot rejoined.stop.2.host 10 =
        [Monitor.stopEntry rejoined.host.timestamp 7] ∧
      lastOf (min 10 rejoined.sink.capacity)
          (["a\n", "b\n"] ++ [Monitor.stopEntry rejoined.host.timestamp 7]) ≠
        [Monitor.stopEntry rejoined.host.timestamp 7] := by
  have marker : NamesInRoot "/m" "m" := by decide
  have log : NamesInRoot "/l" "l" := by decide
  have running : rejoined.check = .running 7 := by
    have read : rejoined.host.readText rejoined.markerPath = .ok "7\n" :=
      marker.readText_eq rfl (by decide)
    rw [Monitor.check, Marker.check, read]
    decide
  have stopped := stop_of_running running rfl
  refine ⟨?_, congrArg Prod.fst stopped, ?_, by decide⟩
  · have held : rejoined.host.files.get? ["l"] = some (.file _) := rfl
    have read : rejoined.host.read rejoined.sink.path = .ok (.ofList [97, 10, 98, 10]) :=
      log.read_of_file held
    rw [LogSink.snapshot_of_read rfl read]
    decide
  · rw [stopped]
    exact (LogSink.snapshot_append rejoined.sink _ _ 10 (by decide)).2.1 rfl

end BuildMonitor
