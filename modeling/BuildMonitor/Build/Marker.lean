import BuildMonitor.Build.State
import BuildMonitor.Host.Basic
import BuildMonitor.Text.Blank
import BuildMonitor.Text.Quoted

/-!
# The marker

While it runs, a build script keeps its pid in a file, the marker. The marker is evidence: the
monitor reads it each time it is asked, compares it with the processes that exist, and never writes
it. It is removed only on request.

The content is a decimal number with blanks around it. It names a process if the number is one that
a single process can have; zero and negative numbers would address groups of processes.

Main definitions: `Marker.pidOf`, `Marker.classify`, `Marker.check`, `Marker.clear`.
-/

namespace BuildMonitor.Marker

open BuildMonitor.Host BuildMonitor.Text

/-- Why a marker says nothing useful. -/
inductive Fault where
  /-- It cannot be read. -/
  | unreadable (path : String) (cause : IoError)
  /-- It holds no number. -/
  | notNumber (text : String) (cause : IntegerError)
  /-- It holds a number that no process can have. -/
  | notPid (value : Int)
  deriving DecidableEq, Repr

/-- The words for a fault. -/
def Fault.message : Fault → String
  | .unreadable path cause => s!"Failed to read lock file {path}: {cause.message}"
  | .notNumber text cause => s!"invalid pid {quoted text} in lock file: {cause.message}"
  | .notPid value => s!"invalid pid {value} in lock file"

/-- The pid that the content of a marker names. -/
def pidOf (content : String) : Except Fault Nat :=
  let trimmed := trim content
  match readSigned (maxSigned 64) trimmed.toList with
  | .error cause => .error (.notNumber trimmed cause)
  | .ok value =>
    if 0 < value ∧ value ≤ greatestPid then .ok value.toNat else .error (.notPid value)

/-- The state that a reading of the marker and the processes that exist make up. -/
def classify (path : String) (reading : Except IoError String) (isAlive : Nat → Bool) :
    BuildState :=
  match reading with
  | .error error =>
    if error.isNotFound then .idle else .error (Fault.unreadable path error).message
  | .ok content =>
    match pidOf content with
    | .error fault => .error fault.message
    | .ok pid => if isAlive pid then .running pid else .stale pid

/-- The state of the build, from the marker at a path. -/
def check (host : Host) (path : String) : BuildState :=
  classify path (host.readText path) host.processes.isAlive

/-- Removes the marker, and says whether there was one. -/
def clear (host : Host) (path : String) : Except IoError Bool × Host :=
  let removed := host.remove path
  match removed.1 with
  | .ok () => (.ok true, removed.2)
  | .error error => (if error.isNotFound then .ok false else .error error, removed.2)

end BuildMonitor.Marker
