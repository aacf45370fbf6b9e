import BuildMonitor.Build.Command
import BuildMonitor.Build.Outcome
import BuildMonitor.Log.LineFeed
import BuildMonitor.Log.Sink
import BuildMonitor.Monitor.Error

/-!
# The build task

Once a build is accepted, a task of its own follows the script: it starts it, forwards each line of
output to the log as it arrives, waits for the script to end, and writes one last entry that says
how the build ended. The task is told what happens by events and can be stopped at any point between
two of them.

The script is waited for also when its output could not be read to the end. A failure to wait counts
before a failure to read.

Main definitions: `Event`, `Task`, `Task.step`.
-/

namespace BuildMonitor.Build

open BuildMonitor.Host BuildMonitor.Log

/-- What happens to a script, as the task sees it. -/
inductive Event where
  /-- No pipe for the output could be made. -/
  | pipeFailed (cause : IoError)
  /-- The script runs. -/
  | spawned
  /-- The script could not be started. -/
  | spawnFailed (cause : IoError)
  /-- A chunk of output has arrived. -/
  | output (chunk : List UInt8)
  /-- The output has come to its end. -/
  | outputEnded
  /-- The output could not be read any further. -/
  | outputFailed (cause : IoError)
  /-- The script has ended. -/
  | ended (status : ExitStatus)
  /-- The end of the script could not be waited for. -/
  | waitFailed (cause : IoError)
  deriving DecidableEq, Repr

/-- How far a task has come. -/
inductive Phase where
  /-- The script is to be started. -/
  | launching
  /-- Output is being forwarded. -/
  | streaming (feed : LineFeed)
  /-- The script is waited for; its output was read to the end, or failed with a cause. -/
  | waiting (failure : Option MonitorError)
  /-- The build is over. -/
  | finished (outcome : Outcome)
  deriving DecidableEq, Repr

/-- A build that was accepted. -/
structure Task where
  command : Command
  phase : Phase
  deriving DecidableEq, Repr

namespace Task

/-- A task that has just been accepted. -/
def launch (command : Command) : Task := ⟨command, .launching⟩

/-- How the build ended, if it has. -/
def outcome? (task : Task) : Option Outcome :=
  match task.phase with
  | .finished outcome => some outcome
  | _ => none

/-- The outcome of a build that a failure ended. -/
def outcomeOfFailure (failure : MonitorError) : Outcome := .errored failure.message

/-- The last entry of a build. -/
def terminalEntry (timestamp : String) (outcome : Outcome) : String :=
  s!"\n[{timestamp}] {outcome.describe}\n"

/-- Adds lines of output to the log, one entry each. -/
def forward (sink : LogSink) (host : Host) (lines : List (List UInt8)) : LogSink × Host :=
  lines.foldl (fun state line => state.1.append state.2 (entryOfLine line)) (sink, host)

/-- Ends the build with an outcome and its last entry. -/
def conclude (task : Task) (sink : LogSink) (host : Host) (outcome : Outcome) :
    Task × LogSink × Host :=
  ({ task with phase := .finished outcome },
    sink.append host (terminalEntry host.timestamp outcome))

/-- Takes one event. An event that does not fit the phase changes nothing. -/
def step (task : Task) (sink : LogSink) (host : Host) (event : Event) : Task × LogSink × Host :=
  match task.phase, event with
  | .launching, .pipeFailed cause =>
    task.conclude sink host (outcomeOfFailure (.spawnFailure cause.message))
  | .launching, .spawned => ({ task with phase := .streaming .start }, sink, host)
  | .launching, .spawnFailed cause =>
    task.conclude sink host
      (outcomeOfFailure (.spawnFailure s!"{task.command.script}: {cause.message}"))
  | .streaming feed, .output chunk =>
    let pushed := feed.push chunk
    ({ task with phase := .streaming pushed.2 }, forward sink host pushed.1)
  | .streaming feed, .outputEnded =>
    ({ task with phase := .waiting none }, forward sink host feed.finish)
  | .streaming _, .outputFailed cause =>
    ({ task with phase := .waiting (some (.streamFailure cause.message)) }, sink, host)
  | .waiting failure, .ended status =>
    task.conclude sink host
      (match failure with
        | none => status.outcome
        | some failure => outcomeOfFailure failure)
  | .waiting _, .waitFailed cause =>
    task.conclude sink host (outcomeOfFailure (.streamFailure cause.message))
  | _, _ => (task, sink, host)

end Task

end BuildMonitor.Build
