import BuildMonitor.Proofs.Build.Step
import BuildMonitor.Proofs.Monitor.Requests

/-!
# The tasks of a monitor

What a task is told changes the task and adds entries to the log: `Monitor.advance_eq`. So it spares
the marker, and it makes no task wait for its script that did not wait before; the tasks that do are
counted by `Monitor.launching`.
-/

namespace BuildMonitor

/-- Adds entries one after the other. -/
def Monitor.appendAll (monitor : Monitor) (entries : List String) : Monitor :=
  entries.foldl Monitor.append monitor

/-- Adding entries changes the log and its durable copy, and nothing else. -/
theorem Monitor.appendAll_eq (monitor : Monitor) (entries : List String) :
    monitor.appendAll entries =
      { monitor with
        sink := (monitor.sink.appendAll monitor.host entries).1
        host := (monitor.sink.appendAll monitor.host entries).2 } := by
  induction entries generalizing monitor with
  | nil => rfl
  | cons entry rest inductionHypothesis => exact inductionHypothesis (monitor.append entry)

/-- Adding entries spares the marker. -/
theorem spares_appendAll {monitor : Monitor} (separate : monitor.Separate) (entries : List String) :
    Spares (monitor.appendAll entries) monitor := by
  induction entries generalizing monitor with
  | nil => exact Spares.refl separate
  | cons entry rest inductionHypothesis =>
    have first := spares_append separate entry
    exact (inductionHypothesis first.separate).trans first

/-- What a task is told changes that task and adds entries to the log. -/
theorem Monitor.advance_eq {monitor : Monitor} {number : Nat} {task : Build.Task}
    (found : monitor.tasks[number]? = some task) (event : Build.Event) :
    monitor.advance number event =
      { monitor.appendAll (task.additions monitor.host.timestamp event) with
        tasks := monitor.tasks.set number (task.step monitor.sink monitor.host event).1 } := by
  rw [appendAll_eq, ← task.step_snd]
  simp [advance, found]

/-- What is told to no task changes nothing. -/
theorem Monitor.advance_of_none {monitor : Monitor} {number : Nat}
    (missing : monitor.tasks[number]? = none) (event : Build.Event) :
    monitor.advance number event = monitor := by
  simp [advance, missing]

/-- A task that is told something spares the marker. -/
theorem spares_advance {monitor : Monitor} (separate : monitor.Separate) (number : Nat)
    (event : Build.Event) : Spares (monitor.advance number event) monitor := by
  cases found : monitor.tasks[number]? with
  | none =>
    rw [Monitor.advance_of_none found]
    exact Spares.refl separate
  | some task =>
    rw [Monitor.advance_eq found]
    obtain ⟨marker, log, live, separate', node⟩ :=
      spares_appendAll separate (task.additions monitor.host.timestamp event)
    exact ⟨marker, log, live, separate', node⟩

/-- What a task is told makes no task wait for its script that did not before. -/
theorem isLaunching_of_advance {monitor : Monitor} {number other : Nat} {event : Build.Event}
    {task : Build.Task} (found : (monitor.advance number event).tasks[other]? = some task) :
    ∃ earlier, monitor.tasks[other]? = some earlier ∧
      (task.isLaunching = true → earlier.isLaunching = true) := by
  cases there : monitor.tasks[number]? with
  | none =>
    rw [Monitor.advance_of_none there] at found
    exact ⟨task, found, id⟩
  | some stepped =>
    rw [Monitor.advance_eq there] at found
    simp only [List.getElem?_set] at found
    split at found
    · next same =>
      split at found
      · cases found
        exact ⟨stepped, same ▸ there, Build.Task.isLaunching_step⟩
      · cases found
    · exact ⟨task, found, id⟩

/-- The task that is told something takes the step. -/
theorem tasks_advance_self {monitor : Monitor} {number : Nat} {task : Build.Task}
    (found : monitor.tasks[number]? = some task) (event : Build.Event) :
    (monitor.advance number event).tasks[number]? =
      some (task.step monitor.sink monitor.host event).1 := by
  obtain ⟨inside, rfl⟩ := List.getElem?_eq_some_iff.mp found
  simp [Monitor.advance, inside]

/-- No task comes or goes when one is told something. -/
theorem length_tasks_advance (monitor : Monitor) (number : Nat) (event : Build.Event) :
    (monitor.advance number event).tasks.length = monitor.tasks.length := by
  cases found : monitor.tasks[number]? with
  | none => rw [Monitor.advance_of_none found]
  | some task =>
    rw [Monitor.advance_eq found]
    exact List.length_set

/-- The number of tasks whose script is still to be started. -/
def Monitor.launching (monitor : Monitor) : Nat := monitor.tasks.countP Build.Task.isLaunching

/-- Setting an element changes a count as the test of the element changes. -/
private theorem countP_set_add {α : Type} (test : α → Bool) {elements : List α} {index : Nat}
    (inside : index < elements.length) (element : α) :
    (elements.set index element).countP test + (test elements[index]).toNat =
      elements.countP test + (test element).toNat := by
  have counted : (if test elements[index] = true then 1 else 0) ≤ elements.countP test :=
    List.boole_getElem_le_countP inside
  rw [List.countP_set inside]
  cases old : test elements[index] <;> cases new : test element <;>
    simp only [old, if_true, Bool.false_eq_true, if_false, Bool.toNat_true, Bool.toNat_false]
      at counted ⊢ <;>
    omega

/-- The count changes as the task does that is told something. -/
theorem launching_advance {monitor : Monitor} {number : Nat} {task : Build.Task}
    (found : monitor.tasks[number]? = some task) (event : Build.Event) :
    (monitor.advance number event).launching + task.isLaunching.toNat =
      monitor.launching +
        (task.step monitor.sink monitor.host event).1.isLaunching.toNat := by
  rw [Monitor.launching, Monitor.launching, Monitor.advance_eq found]
  obtain ⟨inside, rfl⟩ := List.getElem?_eq_some_iff.mp found
  exact countP_set_add Build.Task.isLaunching inside _

/-- No more scripts are to be started after a task is told something. -/
theorem launching_advance_le (monitor : Monitor) (number : Nat) (event : Build.Event) :
    (monitor.advance number event).launching ≤ monitor.launching := by
  cases found : monitor.tasks[number]? with
  | none => simp [Monitor.advance, found]
  | some task =>
    have counted := launching_advance found event
    cases after : (task.step monitor.sink monitor.host event).1.isLaunching with
    | false => rw [after] at counted; simp at counted; omega
    | true =>
      rw [after, Build.Task.isLaunching_step after] at counted
      omega

end BuildMonitor
