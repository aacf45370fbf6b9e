import BuildMonitor.Json.Value

/-!
# The state of the build

Whether a build runs is never stored. It is read off the marker each time: no marker, a marker that
names a live process, one that names a process that is gone, or one that says nothing useful.

Main definitions: `BuildState`, `BuildState.name`, `BuildState.tag`, `BuildState.toJson`.
-/

namespace BuildMonitor

open BuildMonitor.Json

/-- The state of the build. -/
inductive BuildState where
  /-- There is no marker. -/
  | idle
  /-- The marker names a live process. -/
  | running (pid : Nat)
  /-- The marker names a process that no longer exists. -/
  | stale (pid : Nat)
  /-- The marker cannot be read or understood. -/
  | error (message : String)
  deriving DecidableEq, Repr

namespace BuildState

/-- The name of a state, as reports show it. -/
def name : BuildState → String
  | .idle => "idle"
  | .running _ => "running"
  | .stale _ => "stale_lock"
  | .error _ => "error"

/-- Whether a build runs. -/
def isRunning : BuildState → Bool
  | .running _ => true
  | _ => false

/-- The process the marker names. -/
def pid? : BuildState → Option Nat
  | .running pid => some pid
  | .stale pid => some pid
  | _ => none

/-- The tag by which a document tells the states apart. -/
def tag : BuildState → String
  | .idle => "idle"
  | .running _ => "running"
  | .stale _ => "stale_lock"
  | .error _ => "error"

/-- The state as a member of a report. -/
def toJson (state : BuildState) : Value :=
  .object <| ("status", .text state.tag) :: match state with
    | .idle => []
    | .running pid => [("pid", .ofNat pid)]
    | .stale pid => [("pid", .ofNat pid)]
    | .error message => [("message", .text message)]

end BuildState

end BuildMonitor
