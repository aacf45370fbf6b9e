import BuildMonitor.Proofs.Build.Forwarding

/-!
# What a script can do

A build can come to its end in a handful of ways. There is no pipe for the output; the script
cannot be started; or it runs, prints some bytes, its output ends or breaks off, and it ends or
cannot be waited for. `Behaviour` lists them all, and for each of them `Behaviour.lines` are the
lines that are forwarded and
`Behaviour.outcome` is the outcome of the build. That a task does just that is `goes_opening`.

Main definitions: `Behaviour`, `Behaviour.opening`, `Behaviour.closing`, `Behaviour.outcome`.
-/

namespace BuildMonitor.Build

open BuildMonitor.Host BuildMonitor.Log BuildMonitor.Text

/-- What a script does, as its task sees it. -/
inductive Behaviour where
  /-- There was no pipe for its output. -/
  | noPipe (cause : IoError)
  /-- It could not be started. -/
  | notSpawned (cause : IoError)
  /-- It ran. Its output came in chunks, to its end unless a cause is given why it broke off; then
  the script ended, or could not be waited for. -/
  | ran (chunks : List (List UInt8)) (broken : Option IoError) (ending : Except IoError ExitStatus)

namespace Behaviour

/-- What the task is told up to the last event. -/
def opening : Behaviour → List Event
  | .noPipe _ | .notSpawned _ => []
  | .ran chunks none _ => .spawned :: (chunks.map .output ++ [.outputEnded])
  | .ran chunks (some cause) _ => .spawned :: (chunks.map .output ++ [.outputFailed cause])

/-- The last event. -/
def closing : Behaviour → Event
  | .noPipe cause => .pipeFailed cause
  | .notSpawned cause => .spawnFailed cause
  | .ran _ _ (.ok status) => .ended status
  | .ran _ _ (.error cause) => .waitFailed cause

/-- The lines of output that are forwarded: all of them, or those that were whole when the output
broke off. -/
def lines : Behaviour → List String
  | .noPipe _ | .notSpawned _ => []
  | .ran chunks none _ => splitLines (Utf8.decodeLossy chunks.flatten)
  | .ran chunks (some _) _ => (wholeLines chunks.flatten).map Utf8.decodeLossy

/-- The outcome of the build of a script. A failure to wait counts before a failure to read. -/
def outcome (script : String) : Behaviour → Outcome
  | .noPipe cause => .errored s!"Failed to launch build script: {cause.message}"
  | .notSpawned cause => .errored s!"Failed to launch build script: {script}: {cause.message}"
  | .ran _ _ (.error cause) => .errored s!"Failed to read build output: {cause.message}"
  | .ran _ (some cause) (.ok _) => .errored s!"Failed to read build output: {cause.message}"
  | .ran _ none (.ok (.exited code)) => if code = 0 then .succeeded else .failed code
  | .ran _ none (.ok (.signalled signal)) => .terminated signal
  | .ran _ none (.ok .unknown) => .errored "build exited without a status"

variable {behaviour : Behaviour} {script : String}

/-- A build succeeds exactly if its output is read to the end and the script exits with zero. -/
theorem outcome_eq_succeeded_iff : behaviour.outcome script = .succeeded ↔
    ∃ chunks, behaviour = .ran chunks none (.ok (.exited 0)) := by
  constructor
  · intro succeeded
    unfold outcome at succeeded
    split at succeeded
    case h_5 chunks code =>
      split at succeeded
      · next zero => exact ⟨chunks, by rw [zero]⟩
      · cases succeeded
    all_goals cases succeeded
  · rintro ⟨chunks, rfl⟩
    rfl

/-- A build fails with a code exactly if its output is read to the end and the script exits with
that code, which is not zero. -/
theorem outcome_eq_failed_iff {code : Int} : behaviour.outcome script = .failed code ↔
    code ≠ 0 ∧ ∃ chunks, behaviour = .ran chunks none (.ok (.exited code)) := by
  constructor
  · intro failed
    unfold outcome at failed
    split at failed
    case h_5 chunks code =>
      split at failed
      · cases failed
      · next some =>
        cases failed
        exact ⟨some, chunks, rfl⟩
    all_goals cases failed
  · rintro ⟨some, chunks, rfl⟩
    simp [outcome, some]

/-- A build is terminated by a signal exactly if its output is read to the end and the signal ends
the script. -/
theorem outcome_eq_terminated_iff {signal : Int} : behaviour.outcome script = .terminated signal ↔
    ∃ chunks, behaviour = .ran chunks none (.ok (.signalled signal)) := by
  constructor
  · intro terminated
    unfold outcome at terminated
    split at terminated
    case h_5 => split at terminated <;> cases terminated
    case h_6 chunks signal =>
      cases terminated
      exact ⟨chunks, rfl⟩
    all_goals cases terminated
  · rintro ⟨chunks, rfl⟩
    rfl

/-- A build fails with an error unless the script ran, its output was read to the end, and it ended
by itself or by a signal. -/
theorem outcome_eq_errored_iff : (∃ message, behaviour.outcome script = .errored message) ↔
    ∀ chunks status, behaviour = .ran chunks none (.ok status) → status = .unknown := by
  constructor
  · rintro ⟨message, errored⟩ chunks status rfl
    cases status with
    | exited code =>
      simp only [outcome] at errored
      split at errored <;> cases errored
    | signalled signal => cases errored
    | unknown => rfl
  · intro other
    unfold outcome
    split
    case h_5 chunks code => cases other chunks (.exited code) rfl
    case h_6 chunks signal => cases other chunks (.signalled signal) rfl
    all_goals exact ⟨_, rfl⟩

/-- A task takes all events but the last without an end of the build, forwards the lines, and ends
the build with the outcome at the last. -/
theorem goes_opening (behaviour : Behaviour) (command : Command) :
    ∃ (final : Task) (forwarded : List (List UInt8)),
      Task.Goes (.launch command) behaviour.opening final forwarded ∧
      forwarded.map entryOfLine = behaviour.lines ∧
      final.verdict? behaviour.closing = some (behaviour.outcome command.script) := by
  cases behaviour with
  | noPipe cause => exact ⟨_, [], .stay, rfl, rfl⟩
  | notSpawned cause => exact ⟨_, [], .stay, rfl, rfl⟩
  | ran chunks broken ending =>
    cases broken with
    | none =>
      refine ⟨_, _, .step rfl (goes_output_ended command chunks), ?_, ?_⟩
      · exact (splitLines_decodeLossy chunks.flatten).symm
      · cases ending with
        | error cause => rfl
        | ok status => cases status <;> rfl
    | some cause =>
      refine ⟨_, _, .step rfl (goes_output_failed command chunks cause), rfl, ?_⟩
      cases ending <;> rfl

end Behaviour

end BuildMonitor.Build
