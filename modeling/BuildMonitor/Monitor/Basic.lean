import BuildMonitor.Artifact.Inspect
import BuildMonitor.Build.Marker
import BuildMonitor.Build.Task
import BuildMonitor.Report.Status

/-!
# The monitor

The monitor owns the slot in which at most one build runs. It keeps the log and the tasks of the
builds it has started; the state of the build itself it reads off the marker each time.

Requests are answered in two kinds of steps, each atomic with respect to the surroundings: one looks
at the marker and the processes, the other changes one thing. A request that is refused changes
nothing.

Main definitions: `Monitor`, `Monitor.status`, `Monitor.logs`, `Monitor.start`, `Monitor.stop`,
`Monitor.clearLock`, `Monitor.artifact`, `Monitor.advance`.
-/

namespace BuildMonitor

open BuildMonitor.Host BuildMonitor.Artifact

/-- The monitor and its surroundings. -/
structure Monitor where
  host : Host
  markerPath : String
  outputDirectory : String
  command : Build.Command
  sink : LogSink
  /-- The builds that were accepted, oldest first. -/
  tasks : List Build.Task
  deriving Repr

/-- What became of a request to clear the marker. -/
inductive ClearOutcome where
  /-- The marker was removed. -/
  | cleared
  /-- There was none. -/
  | nothingToClear
  deriving DecidableEq, Repr

/-- The words for what became of the request. -/
def ClearOutcome.message : ClearOutcome → String
  | .cleared => "Lock file cleared successfully"
  | .nothingToClear => "No lock file to clear"

namespace Monitor

/-- The greatest number of lines that one request gets. -/
def lineLimit : Nat := 1000

/-! ## Reports -/

/-- The state of the build. -/
def check (monitor : Monitor) : BuildState := Marker.check monitor.host monitor.markerPath

/-- The state of the build and of the artifacts. -/
def status (monitor : Monitor) : StatusReport :=
  { build := monitor.check
    database := inspect monitor.host monitor.outputDirectory
    timestamp := monitor.host.timestamp }

/-- The number of lines that a request for `count` lines may get. -/
def admittedLines (monitor : Monitor) (count : Nat) : Nat :=
  min (min count monitor.sink.capacity) lineLimit

/-- The most recent lines of the log. -/
def logs (monitor : Monitor) (count : Nat) : LogReport :=
  { lines := monitor.sink.snapshot monitor.host (monitor.admittedLines count)
    totalLines := monitor.sink.size
    timestamp := monitor.host.timestamp }

/-- An artifact for download, named with the date of the day. -/
def artifact (monitor : Monitor) (kind : Kind) : Except MonitorError Download :=
  load monitor.host monitor.outputDirectory kind monitor.host.now.dateStamp

/-! ## The log -/

/-- Adds an entry to the log. -/
def append (monitor : Monitor) (entry : String) : Monitor :=
  let appended := monitor.sink.append monitor.host entry
  { monitor with sink := appended.1, host := appended.2 }

/-- Starts the log anew, whether or not its durable copy can be removed. -/
def resetLog (monitor : Monitor) : Monitor :=
  let reset := monitor.sink.reset monitor.host
  { monitor with sink := reset.2.1, host := reset.2.2 }

/-- The first entry of a build. -/
def startEntry (timestamp : String) : String := s!"[{timestamp}] Starting build process...\n"

/-- The entry for a request to stop that was delivered. -/
def stopEntry (timestamp : String) (pid : Nat) : String :=
  s!"\n[{timestamp}] Build stop requested (PID: {pid})\n"

/-! ## Starting, stopping and clearing -/

/-- Why a build may not start in a state, if it may not. -/
def refusal? : BuildState → Option MonitorError
  | .idle => none
  | .running pid => some (.alreadyRunning pid)
  | .stale pid => some (.staleLock pid)
  | .error message => some (.markerUnreadable message)

/-- Accepts a build: the log starts anew with the first entry, and a task is added. -/
def accept (monitor : Monitor) : Monitor :=
  let fresh := monitor.resetLog
  let opened := fresh.append (startEntry fresh.host.timestamp)
  { opened with tasks := opened.tasks ++ [.launch opened.command] }

/-- Starts a build, unless the marker speaks against it. The number of its task is given. -/
def start (monitor : Monitor) : Except MonitorError Nat × Monitor :=
  match refusal? monitor.check with
  | some error => (.error error, monitor)
  | none => (.ok monitor.tasks.length, monitor.accept)

/-- Asks the running build to end, and gives its pid. -/
def stop (monitor : Monitor) : Except MonitorError Nat × Monitor :=
  match monitor.check with
  | .running pid =>
    match monitor.host.processes.terminate pid with
    | .ok processes =>
      let signalled := { monitor with host := { monitor.host with processes := processes } }
      (.ok pid, signalled.append (stopEntry signalled.host.timestamp pid))
    | .error (.noSuchProcess pid) => (.error (.processNotFound pid), monitor)
    | .error (.refused pid reason) => (.error (.signalFailed pid reason), monitor)
  | _ => (.error .noBuildRunning, monitor)

/-- Removes the marker. -/
def removeMarker (monitor : Monitor) : Except MonitorError ClearOutcome × Monitor :=
  let cleared := Marker.clear monitor.host monitor.markerPath
  let after := { monitor with host := cleared.2 }
  match cleared.1 with
  | .ok true => (.ok .cleared, after)
  | .ok false => (.ok .nothingToClear, after)
  | .error error => (.error (.markerRemoval error.message), after)

/-- Removes the marker, unless it names a live process. -/
def clearLock (monitor : Monitor) : Except MonitorError ClearOutcome × Monitor :=
  match monitor.check with
  | .running pid => (.error (.buildRunning pid), monitor)
  | _ => monitor.removeMarker

/-! ## Builds under way -/

/-- Tells the task of a build what has happened to its script. -/
def advance (monitor : Monitor) (number : Nat) (event : Build.Event) : Monitor :=
  match monitor.tasks[number]? with
  | none => monitor
  | some task =>
    let stepped := task.step monitor.sink monitor.host event
    { monitor with
      tasks := monitor.tasks.set number stepped.1
      sink := stepped.2.1
      host := stepped.2.2 }

end Monitor

end BuildMonitor
