/-!
# How a build ends

A build succeeds when its script was started, its output read to the end, and the script exited with
zero. Everything else is a failure of one of three kinds.

Main definitions: `ExitStatus`, `Outcome`, `Outcome.describe`.
-/

namespace BuildMonitor.Build

/-- What the operating system says of a process that has ended. -/
inductive ExitStatus where
  /-- It ended by itself with a code. -/
  | exited (code : Int)
  /-- A signal ended it. -/
  | signalled (signal : Int)
  /-- Neither is known. -/
  | unknown
  deriving DecidableEq, Repr

/-- How a build ended. -/
inductive Outcome where
  | succeeded
  | failed (code : Int)
  | terminated (signal : Int)
  /-- The script could not be started, or its output not be read. -/
  | errored (message : String)
  deriving DecidableEq, Repr

/-- The words for an outcome, as the last entry of the log shows them. -/
def Outcome.describe : Outcome → String
  | .succeeded => "Build completed successfully"
  | .failed code => s!"Build failed with exit code {code}"
  | .terminated signal => s!"Build terminated by signal {signal}"
  | .errored message => s!"Build error: {message}"

/-- The outcome of a script whose output was read to the end. -/
def ExitStatus.outcome : ExitStatus → Outcome
  | .exited code => if code = 0 then .succeeded else .failed code
  | .signalled signal => .terminated signal
  | .unknown => .errored "build exited without a status"

end BuildMonitor.Build
