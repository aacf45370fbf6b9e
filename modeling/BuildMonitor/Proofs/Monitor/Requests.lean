import BuildMonitor.Monitor.Basic
import BuildMonitor.Proofs.Host.Apart

/-!
# What a request does

The requests to a monitor, what each finds in the marker, and what it leaves as it was. The
conditions under which a request is granted are read off the marker and stated once for each
request, in `start_cases`, `stop_cases` and `clearLock_cases`; nothing below them looks into a
request again. One that is refused leaves everything as it is: `start_of_error`, `stop_of_error` and
`clearLock_of_error`.

A monitor that *spares* the marker leaves it as it is, and with it the processes that exist.
Everything a monitor does by itself spares a marker that is apart from the log, save that a log
which is started anew may hide a marker in passing; a build is accepted only where there is none:
`spares_perform`.

Main definitions: `Request`, `Request.perform`, `Spares`.
-/

namespace BuildMonitor

open Host

/-- A request to a monitor. -/
inductive Request where
  | status
  | logs (count : Nat)
  | start
  | stop
  | clearLock
  | artifact (kind : Artifact.Kind)
  deriving DecidableEq, Repr

/-- The monitor after a request. -/
def Request.perform (monitor : Monitor) : Request → Monitor
  | .status | .logs _ | .artifact _ => monitor
  | .start => monitor.start.2
  | .stop => monitor.stop.2
  | .clearLock => monitor.clearLock.2

/-- The marker names a process. -/
def Marker.Names (host : Host) (path : String) (pid : Nat) : Prop :=
  ∃ content, host.readText path = .ok content ∧ Marker.pidOf content = .ok pid

/-- Reading the marker says that there is none. -/
def Marker.Missing (host : Host) (path : String) : Prop :=
  ∃ error, host.readText path = .error error ∧ error.isNotFound = true

variable {monitor before after : Monitor} {host changed : Host} {path : String} {pid : Nat}

/-! ## What the marker says -/

/-- The state is idle exactly if reading the marker says that there is none. -/
theorem Marker.check_eq_idle_iff : Marker.check host path = .idle ↔ Marker.Missing host path := by
  unfold Marker.check Marker.classify Marker.Missing
  constructor
  · intro idle
    split at idle
    · next error read =>
      split at idle
      · next missing => exact ⟨error, read, missing⟩
      · cases idle
    · split at idle
      · cases idle
      · split at idle <;> cases idle
  · rintro ⟨error, read, missing⟩
    rw [read]
    simp [missing]

/-- The pid that a marker names is one that a process can have. -/
theorem Marker.pidOf_bounds {content : String} (named : Marker.pidOf content = .ok pid) :
    0 < pid ∧ pid ≤ greatestPid := by
  unfold Marker.pidOf at named
  simp only at named
  split at named
  · cases named
  · next value _ =>
    split at named
    · next inRange =>
      cases named
      omega
    · cases named

/-- A marker that names a live process tells of a running build. -/
theorem Marker.Names.check_eq (names : Marker.Names host path pid)
    (live : pid ∈ host.processes.live) : Marker.check host path = .running pid := by
  obtain ⟨content, read, named⟩ := names
  obtain ⟨positive, small⟩ := Marker.pidOf_bounds named
  have alive : host.processes.isAlive pid = true := by
    unfold Processes.isAlive
    split
    · simp [Processes.rawTarget?, positive, small, live]
    · simpa using live
  simp only [Marker.check, Marker.classify, read, named, alive, if_true]

/-- A path whose reading says that there is nothing names nothing. -/
theorem Marker.Missing.node?_eq (missing : Marker.Missing host path) : host.node? path = none := by
  obtain ⟨error, read, notFound⟩ := missing
  obtain rfl : error = .os .noEntry := eq_of_beq notFound
  cases names : host.node? path with
  | none => rfl
  | some named =>
    exfalso
    rw [Host.readText, read_of_node? names] at read
    cases reading : named.2.reading with
    | ok content =>
      rw [reading] at read
      simp only at read
      split at read <;> cases read
    | error error =>
      rw [reading] at read
      cases read
      cases node : named.2 <;> rw [node] at reading <;> cases reading

/-- There is no marker at a free name in the root. -/
theorem Marker.missing_of_namesInRoot {name : String} (named : NamesInRoot path name)
    (free : host.files.get? [name] = none) : Marker.Missing host path :=
  ⟨.os .noEntry, by rw [Host.readText, named.read_eq free], rfl⟩

/-- What can be read is named. -/
theorem exists_node?_of_readText {text : String} (read : host.readText path = .ok text) :
    ∃ named, host.node? path = some named := by
  cases names : host.node? path with
  | some named => exact ⟨named, rfl⟩
  | none =>
    rw [Host.node?] at names
    cases led : host.files.node host.directory path with
    | error => rw [Host.readText, Host.read, Files.read, led] at read; cases read
    | ok => rw [led] at names; cases names

/-- What can be read depends on the node that the path names. -/
theorem readText_eq_ok_of_node?_eq {text : String} (same : changed.node? path = host.node? path)
    (read : host.readText path = .ok text) : changed.readText path = .ok text := by
  obtain ⟨named, names⟩ := exists_node?_of_readText read
  rw [Host.readText, read_of_node? names] at read
  rw [Host.readText, read_of_node? (same.trans names)]
  exact read

/-- A marker that stays where it is names the same process. -/
theorem Marker.Names.of_node?_eq (same : changed.node? path = host.node? path)
    (names : Marker.Names host path pid) : Marker.Names changed path pid := by
  obtain ⟨content, read, named⟩ := names
  exact ⟨content, readText_eq_ok_of_node?_eq same read, named⟩

/-! ## When a request is granted -/

/-- A build is accepted where there is no marker, and only there. -/
theorem start_cases (monitor : Monitor) :
    (Marker.Missing monitor.host monitor.markerPath ∧
      monitor.start = (.ok monitor.tasks.length, monitor.accept)) ∨
    ∃ error, Monitor.refusal? monitor.check = some error ∧
      monitor.start = (.error error, monitor) := by
  unfold Monitor.start
  cases refused : Monitor.refusal? monitor.check with
  | some error => exact Or.inr ⟨error, rfl, rfl⟩
  | none =>
    have idle : monitor.check = .idle := by
      cases seen : monitor.check <;> rw [seen] at refused <;> first | rfl | cases refused
    exact Or.inl ⟨Marker.check_eq_idle_iff.mp idle, rfl⟩

/-- Where there is no marker a request to start is accepted. -/
theorem start_of_idle (idle : monitor.check = .idle) :
    monitor.start = (.ok monitor.tasks.length, monitor.accept) := by
  rcases start_cases monitor with ⟨-, accepted⟩ | ⟨error, refused, -⟩
  · exact accepted
  · rw [idle] at refused
    cases refused

/-- A request to stop that is sent to a live process is logged. -/
theorem stop_of_running {pid : Nat} {processes : Processes}
    (running : monitor.check = .running pid)
    (sent : monitor.host.processes.terminate pid = .ok processes) :
    monitor.stop = (.ok pid,
      Monitor.append { monitor with host := { monitor.host with processes := processes } }
        (Monitor.stopEntry monitor.host.timestamp pid)) := by
  simp only [Monitor.stop, running, sent]
  rfl

/-- A request to stop reaches the process that the marker names, or changes nothing. -/
theorem stop_cases (monitor : Monitor) :
    (∃ pid processes, monitor.check = .running pid ∧
      monitor.host.processes.terminate pid = .ok processes ∧
      monitor.stop = (.ok pid,
        Monitor.append { monitor with host := { monitor.host with processes := processes } }
          (Monitor.stopEntry monitor.host.timestamp pid))) ∨
    ∃ error, monitor.stop = (.error error, monitor) := by
  cases seen : monitor.check with
  | idle | stale pid | error message =>
    right
    rw [Monitor.stop, seen]
    exact ⟨_, rfl⟩
  | running pid =>
    cases sent : monitor.host.processes.terminate pid with
    | ok processes => exact Or.inl ⟨pid, processes, rfl, sent, stop_of_running seen sent⟩
    | error failure =>
      right
      simp only [Monitor.stop, seen, sent]
      cases failure <;> exact ⟨_, rfl⟩

/-- The marker is removed unless it names a live process. -/
theorem clearLock_cases (monitor : Monitor) :
    (∃ pid, monitor.check = .running pid ∧
      monitor.clearLock = (.error (.buildRunning pid), monitor)) ∨
    (∀ pid, monitor.check ≠ .running pid) ∧
      monitor.clearLock.2 =
        { monitor with host := (monitor.host.remove monitor.markerPath).2 } := by
  have removed : monitor.removeMarker.2 =
      { monitor with host := (monitor.host.remove monitor.markerPath).2 } := by
    unfold Monitor.removeMarker Marker.clear
    simp only
    cases (monitor.host.remove monitor.markerPath).1 with
    | ok => rfl
    | error error => cases missing : error.isNotFound <;> simp [missing]
  unfold Monitor.clearLock
  cases seen : monitor.check with
  | running pid => exact Or.inl ⟨pid, rfl, rfl⟩
  | idle => exact Or.inr ⟨fun _ => nofun, removed⟩
  | stale pid => exact Or.inr ⟨fun _ => nofun, removed⟩
  | error message => exact Or.inr ⟨fun _ => nofun, removed⟩

/-! ## When a request is refused -/

/-- A request to start that is refused leaves everything as it is. -/
theorem start_of_error {error : MonitorError}
    (refused : monitor.start.1 = .error error) : monitor.start.2 = monitor := by
  rcases start_cases monitor with ⟨-, started⟩ | ⟨_, -, started⟩
  · rw [started] at refused
    cases refused
  · rw [started]

/-- A request to stop that is refused leaves everything as it is. -/
theorem stop_of_error {error : MonitorError}
    (refused : monitor.stop.1 = .error error) : monitor.stop.2 = monitor := by
  rcases stop_cases monitor with ⟨pid, processes, -, -, stopped⟩ | ⟨_, stopped⟩
  · rw [stopped] at refused
    cases refused
  · rw [stopped]

/-- A marker that cannot be removed stays, and so does everything else. -/
theorem removeMarker_of_error {error : MonitorError}
    (failed : monitor.removeMarker.1 = .error error) : monitor.removeMarker.2 = monitor := by
  unfold Monitor.removeMarker Marker.clear Host.remove Host.settle at failed ⊢
  cases removed : monitor.host.files.unlink monitor.host.directory monitor.markerPath with
  | ok files =>
    rw [removed] at failed
    cases failed
  | error cause => cases missing : cause.isNotFound <;> simp [missing]

/-- A request to clear the marker that is refused or fails leaves everything as it is. -/
theorem clearLock_of_error {error : MonitorError}
    (refused : monitor.clearLock.1 = .error error) : monitor.clearLock.2 = monitor := by
  unfold Monitor.clearLock at refused ⊢
  cases seen : monitor.check with
  | running pid => rfl
  | idle | stale | error =>
    simp only [seen] at refused ⊢
    exact removeMarker_of_error refused

/-! ## What is spared -/

/-- A request to end that is delivered is noted, and nothing else changes. -/
theorem eq_deliver_of_terminate {processes sent : Processes}
    (delivered : processes.terminate pid = .ok sent) :
    sent = processes.deliver pid := by
  unfold Processes.terminate at delivered
  split at delivered
  · split at delivered
    · cases delivered
    · split at delivered <;> cases delivered
      rfl
  · split at delivered <;> cases delivered
    rfl
  · cases delivered
  · cases delivered

/-- A delivered request leaves the processes that exist. -/
theorem live_of_terminate {processes sent : Processes}
    (delivered : processes.terminate pid = .ok sent) :
    sent.live = processes.live := by
  rw [eq_deliver_of_terminate delivered]
  rfl

/-- The marker is apart from the log. -/
def Monitor.Separate (monitor : Monitor) : Prop :=
  monitor.host.Apart monitor.markerPath monitor.sink.path

/-- The marker and the processes that exist are left as they are, and the marker stays apart from
the log. -/
structure Spares (after before : Monitor) : Prop where
  marker : after.markerPath = before.markerPath
  log : after.sink.path = before.sink.path
  live : after.host.processes.live = before.host.processes.live
  separate : after.Separate
  node : after.host.node? before.markerPath = before.host.node? before.markerPath

/-- Where nothing is changed, the marker is spared. -/
theorem Spares.refl (separate : monitor.Separate) : Spares monitor monitor :=
  ⟨rfl, rfl, rfl, separate, rfl⟩

/-- What is spared twice is spared. -/
theorem Spares.trans {middle : Monitor} (second : Spares after middle)
    (first : Spares middle before) : Spares after before := by
  refine ⟨second.marker.trans first.marker, second.log.trans first.log,
    second.live.trans first.live, second.separate, ?_⟩
  rw [← first.node, ← first.marker]
  exact second.node

/-- Adding an entry spares the marker. -/
theorem spares_append (separate : monitor.Separate) (entry : String) :
    Spares (monitor.append entry) monitor := by
  obtain ⟨only, -⟩ := monitor.host.appendDurably_snd monitor.sink.path (Text.Utf8.encode entry)
  exact ⟨rfl, rfl, congrArg Processes.live only.processes, apart_appendDurably separate,
    node?_appendDurably separate⟩

/-- Removing the durable copy does to the host what removing the file does. -/
theorem LogSink.removeCopy_snd (sink : LogSink) (host : Host) :
    (sink.removeCopy host).2 = (host.removeDurably sink.path).2 := by
  simp only [LogSink.removeCopy]
  cases (host.removeDurably sink.path).1 <;> rfl

/-- Starting the log anew does no more to the host than to remove the durable copy. -/
theorem Monitor.resetLog_host (monitor : Monitor) :
    monitor.resetLog.host = (monitor.host.removeDurably monitor.sink.path).2 :=
  monitor.sink.removeCopy_snd monitor.host

/-- Starting the log anew can hide a marker but not make one. -/
theorem spares_resetLog (separate : monitor.Separate)
    (absent : monitor.host.node? monitor.markerPath = none) : Spares monitor.resetLog monitor := by
  obtain ⟨only, -⟩ := monitor.host.removeDurably_snd monitor.sink.path
  have host := monitor.resetLog_host
  refine ⟨rfl, rfl, ?_, ?_, ?_⟩
  · rw [host, only.processes]
  · rw [Monitor.Separate, host]
    exact apart_removeDurably separate
  · rw [host, absent, Option.eq_none_iff_forall_not_mem]
    intro named names
    have old := node?_removeDurably separate names
    rw [absent] at old
    cases old

/-- Accepting a build spares a marker that is not there. -/
theorem spares_accept (separate : monitor.Separate)
    (absent : monitor.host.node? monitor.markerPath = none) : Spares monitor.accept monitor := by
  have reset := spares_resetLog separate absent
  have opened := spares_append reset.separate (Monitor.startEntry monitor.resetLog.host.timestamp)
  obtain ⟨marker, log, live, separate', node⟩ := opened.trans reset
  exact ⟨marker, log, live, separate', node⟩

/-- A request other than the one to clear the marker spares it. -/
theorem spares_perform (separate : monitor.Separate) {request : Request}
    (other : request ≠ .clearLock) : Spares (request.perform monitor) monitor := by
  cases request with
  | status | logs | artifact => exact Spares.refl separate
  | start =>
    show Spares monitor.start.2 monitor
    rcases start_cases monitor with ⟨missing, started⟩ | ⟨error, -, started⟩
    · rw [started]
      exact spares_accept separate missing.node?_eq
    · rw [started]
      exact Spares.refl separate
  | stop =>
    show Spares monitor.stop.2 monitor
    rcases stop_cases monitor with ⟨pid, processes, -, sent, stopped⟩ | ⟨error, stopped⟩
    · rw [stopped]
      have signalled : Spares { monitor with host := { monitor.host with processes := processes } }
          monitor := ⟨rfl, rfl, live_of_terminate sent, separate, rfl⟩
      exact (spares_append signalled.separate _).trans signalled
    · rw [stopped]
      exact Spares.refl separate
  | clearLock => exact absurd rfl other

end BuildMonitor
