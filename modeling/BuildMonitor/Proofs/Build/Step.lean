import BuildMonitor.Build.Task
import BuildMonitor.Proofs.Log.Window

/-!
# One step of a task

A step of a task either ends the build with an outcome, or it lets the task go on and forwards some
lines. Which of the two, and with what, depends on the task and the event alone and not on the log
or the host: `Task.verdict?`, `Task.onward` and `Task.printed` say it, and `Task.step_of_verdict`
and `Task.step_of_no_verdict` are the only places where a step is opened.

Main definition: `Task.Goes`.
-/

namespace BuildMonitor.Build

open BuildMonitor.Log

namespace Task

/-- How an event ends the build, if it does. -/
def verdict? (task : Task) (event : Event) : Option Outcome :=
  match task.phase, event with
  | .launching, .pipeFailed cause => some (outcomeOfFailure (.spawnFailure cause.message))
  | .launching, .spawnFailed cause =>
    some (outcomeOfFailure (.spawnFailure s!"{task.command.script}: {cause.message}"))
  | .waiting failure, .ended status =>
    some (match failure with
      | none => status.outcome
      | some failure => outcomeOfFailure failure)
  | .waiting _, .waitFailed cause => some (outcomeOfFailure (.streamFailure cause.message))
  | _, _ => none

/-- The lines that an event makes the task forward. -/
def printed (task : Task) (event : Event) : List (List UInt8) :=
  match task.phase, event with
  | .streaming feed, .output chunk => (feed.push chunk).1
  | .streaming feed, .outputEnded => feed.finish
  | _, _ => []

/-- The task after an event that does not end the build. -/
def onward (task : Task) (event : Event) : Task :=
  match task.phase, event with
  | .launching, .spawned => { task with phase := .streaming .start }
  | .streaming feed, .output chunk => { task with phase := .streaming (feed.push chunk).2 }
  | .streaming _, .outputEnded => { task with phase := .waiting none }
  | .streaming _, .outputFailed cause =>
    { task with phase := .waiting (some (.streamFailure cause.message)) }
  | _, _ => task

/-- Lines that are forwarded are added to the log one after the other. -/
theorem forward_eq_appendAll (sink : LogSink) (host : Host) (lines : List (List UInt8)) :
    forward sink host lines = sink.appendAll host (lines.map entryOfLine) := by
  rw [forward, LogSink.appendAll, List.foldl_map]

variable {task final : Task} {event : Event} {outcome : Outcome} {events : List Event}
  {lines : List (List UInt8)}

/-- A step that ends the build adds the last entry. -/
theorem step_of_verdict (sink : LogSink) (host : Host)
    (verdict : task.verdict? event = some outcome) :
    task.step sink host event =
      ({ task with phase := .finished outcome },
        sink.appendAll host [terminalEntry host.timestamp outcome]) := by
  obtain ⟨command, phase⟩ := task
  cases phase <;> cases event <;> simp only [verdict?] at verdict <;> cases verdict <;> rfl

/-- A step that does not end the build adds the lines that the event makes the task forward. -/
theorem step_of_no_verdict (sink : LogSink) (host : Host) (verdict : task.verdict? event = none) :
    task.step sink host event =
      (task.onward event, sink.appendAll host ((task.printed event).map entryOfLine)) := by
  rw [← forward_eq_appendAll]
  obtain ⟨command, phase⟩ := task
  cases phase <;> cases event <;> first | rfl | cases verdict

/-- The entries that a step adds at a time. -/
def additions (task : Task) (timestamp : String) (event : Event) : List String :=
  match task.verdict? event with
  | some outcome => [terminalEntry timestamp outcome]
  | none => (task.printed event).map entryOfLine

/-- A step adds entries to the log, and changes nothing else but the task. -/
theorem step_snd (task : Task) (sink : LogSink) (host : Host) (event : Event) :
    (task.step sink host event).2 = sink.appendAll host (task.additions host.timestamp event) := by
  cases verdict : task.verdict? event with
  | none => rw [step_of_no_verdict sink host verdict, additions, verdict]
  | some outcome => rw [step_of_verdict sink host verdict, additions, verdict]

/-- That the script runs adds nothing. -/
@[simp] theorem additions_spawned (task : Task) (timestamp : String) :
    task.additions timestamp .spawned = [] := by
  obtain ⟨command, phase⟩ := task
  cases phase <;> rfl

/-- What becomes of a task does not depend on the log or the host. -/
theorem step_fst_eq (task : Task) (sink sink' : LogSink) (host host' : Host) (event : Event) :
    (task.step sink host event).1 = (task.step sink' host' event).1 := by
  cases verdict : task.verdict? event with
  | none => rw [step_of_no_verdict _ _ verdict, step_of_no_verdict _ _ verdict]
  | some outcome => rw [step_of_verdict _ _ verdict, step_of_verdict _ _ verdict]

/-! ## Waiting for the script -/

/-- Whether the script is still to be started. -/
def isLaunching (task : Task) : Bool := task.phase == .launching

/-- No event takes a task back to before its script was started. -/
theorem isLaunching_onward (after : (task.onward event).isLaunching = true) :
    task.isLaunching = true := by
  obtain ⟨command, phase⟩ := task
  cases phase <;> first | rfl | (cases event <;> cases after)

/-- No step leads back to where the script is to be started. -/
theorem isLaunching_step {sink : LogSink} {host : Host}
    (after : (task.step sink host event).1.isLaunching = true) : task.isLaunching = true := by
  cases verdict : task.verdict? event with
  | none =>
    rw [step_of_no_verdict sink host verdict] at after
    exact isLaunching_onward after
  | some outcome =>
    rw [step_of_verdict sink host verdict] at after
    cases after

/-- A script is started once. -/
theorem isLaunching_step_spawned (task : Task) (sink : LogSink) (host : Host) :
    (task.step sink host .spawned).1.isLaunching = false := by
  obtain ⟨command, phase⟩ := task
  cases phase <;> rfl

/-! ## Going on -/

/-- The task takes the events without an end of the build, and forwards the lines. -/
inductive Goes : Task → List Event → Task → List (List UInt8) → Prop where
  | stay {task : Task} : Goes task [] task []
  | step {task final : Task} {event : Event} {events : List Event} {lines : List (List UInt8)}
      (verdict : task.verdict? event = none)
      (later : Goes (task.onward event) events final lines) :
      Goes task (event :: events) final (task.printed event ++ lines)

/-- Events that are taken in two parts are taken as a whole, and the lines of both parts are
forwarded. -/
theorem Goes.trans {middle : Task} {before after : List Event} {earlier later : List (List UInt8)}
    (first : Goes task before middle earlier) (second : Goes middle after final later) :
    Goes task (before ++ after) final (earlier ++ later) := by
  induction first with
  | stay => exact second
  | step verdict _ inductionHypothesis =>
    rw [List.cons_append, List.append_assoc]
    exact .step verdict (inductionHypothesis second)

/-- A single event that does not end the build is taken, and its lines are forwarded. -/
theorem Goes.one (verdict : task.verdict? event = none) :
    Goes task [event] (task.onward event) (task.printed event) := by
  have step := Goes.step verdict .stay
  rwa [List.append_nil] at step

/-- Takes events one after the other. -/
def follow (task : Task) (sink : LogSink) (host : Host) (events : List Event) :
    Task × LogSink × Host :=
  events.foldl (fun state event => state.1.step state.2.1 state.2.2 event) (task, sink, host)

/-- A task that goes on adds the lines as entries. -/
theorem Goes.follow_eq (goes : Goes task events final lines) (sink : LogSink) (host : Host) :
    task.follow sink host events = (final, sink.appendAll host (lines.map entryOfLine)) := by
  induction goes generalizing sink host with
  | stay => rfl
  | @step task event events final lines verdict _ inductionHypothesis =>
    rw [List.map_append, LogSink.appendAll_append, ← inductionHypothesis, follow, List.foldl_cons,
      step_of_no_verdict sink host verdict]
    rfl

end Task

end BuildMonitor.Build
