import BuildMonitor.Host.IoError

/-!
# Refusals and failures

Every request to the monitor can be refused or fail. Each cause carries what its message needs, and
those that concern a known process carry its pid.

Main definitions: `MonitorError`, `MonitorError.message`, `MonitorError.pid?`.
-/

namespace BuildMonitor

/-- Why a request was refused or failed. -/
inductive MonitorError where
  /-- A build runs already. -/
  | alreadyRunning (pid : Nat)
  /-- The marker names a process that is gone. -/
  | staleLock (pid : Nat)
  /-- The marker says nothing useful. -/
  | markerUnreadable (detail : String)
  /-- There is nothing to stop. -/
  | noBuildRunning
  /-- The process was gone when it was to be stopped. -/
  | processNotFound (pid : Nat)
  /-- The process could not be signalled. -/
  | signalFailed (pid : Nat) (reason : String)
  /-- The marker belongs to a live process. -/
  | buildRunning (pid : Nat)
  /-- The marker could not be removed. -/
  | markerRemoval (detail : String)
  /-- The script could not be started. -/
  | spawnFailure (detail : String)
  /-- The output of the script could not be read. -/
  | streamFailure (detail : String)
  /-- There is no such artifact. -/
  | artifactNotFound (label : String)
  /-- The artifact cannot be served. -/
  | artifactUnreadable (detail : String)
  deriving DecidableEq, Repr

namespace MonitorError

/-- The words for a cause. -/
def message : MonitorError → String
  | .alreadyRunning _ => "A build is already running"
  | .staleLock _ => "Stale lock file detected. Please clean it manually."
  | .markerUnreadable detail => s!"Lock file unreadable: {detail}"
  | .noBuildRunning => "No build is currently running"
  | .processNotFound _ => "Build process not found"
  | .signalFailed _ reason => s!"Failed to stop build: {reason}"
  | .buildRunning _ => "Cannot clear lock while build is running"
  | .markerRemoval detail => s!"Failed to clear lock: {detail}"
  | .spawnFailure detail => s!"Failed to launch build script: {detail}"
  | .streamFailure detail => s!"Failed to read build output: {detail}"
  | .artifactNotFound label => s!"{label} not found"
  | .artifactUnreadable detail => s!"Failed to open artifact: {detail}"

/-- The process a cause concerns, where it is known. -/
def pid? : MonitorError → Option Nat
  | .alreadyRunning pid => some pid
  | .staleLock pid => some pid
  | .processNotFound pid => some pid
  | .signalFailed pid _ => some pid
  | .buildRunning pid => some pid
  | _ => none

end MonitorError

end BuildMonitor
