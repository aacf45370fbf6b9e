import BuildMonitor.Proofs.Build.Marker
import BuildMonitor.Proofs.Monitor.Procedure
import BuildMonitor.Proofs.Monitor.Tasks

/-!
# Who is asked to end

A monitor asks a process to end only for a request to stop, after it has found in the marker that
the process runs, and once for one request. The process is the one whose pid the marker writes: no
other number that the marker may hold is taken for it, and none that addresses a group.

The requests that are delivered over a run are those that were answered with a pid, in their order;
`Action.accounts`, `Procedure.accounts` and `accounts_run` say so of an action, of a procedure and of
a run.

Main definitions: `Accounts`, `StopCourse`, `Signals.Event`. Main statement: `signals_accounted`.
-/

namespace BuildMonitor

open Host Text

/-! ## What is taken on the way -/

/-- The pid of the process that an action asks to end. -/
def Action.signal? {α : Type} : Action α → Option Nat
  | .terminate pid => some pid
  | _ => none

/-- The entry that an action adds to the log. -/
def Action.entry? {α : Type} : Action α → Option String
  | .append entry => some entry
  | _ => none

/-- The pid of the process that an action has asked to end, if the request was delivered. -/
def Action.delivered? {α : Type} : Action α → α → Option Nat
  | .terminate pid, .ok () => some pid
  | _, _ => none

/-- The pids of the processes that were asked to end. -/
def pidsSignalled (taken : List Taken) : List Nat :=
  taken.filterMap fun one => one.action.signal?

/-- The entries that were added to the log. -/
def entriesAdded (taken : List Taken) : List String :=
  taken.filterMap fun one => one.action.entry?

/-- The pids of the processes to which a request to end was delivered. -/
def pidsDelivered (taken : List Taken) : List Nat :=
  taken.filterMap fun one => one.action.delivered? one.lesson

/-- The record of one monitor is that of another with the given pids behind it. -/
def Accounts (after before : Monitor) (pids : List Nat) : Prop :=
  after.host.processes.delivered = before.host.processes.delivered ++ pids

variable {monitor before middle after : Monitor} {pid : Nat} {processes sent : Processes}

/-- Where the processes are the same, nothing was delivered. -/
theorem Accounts.of_processes_eq (same : after.host.processes = before.host.processes) :
    Accounts after before [] := by
  rw [Accounts, same, List.append_nil]

/-- What is delivered later stands behind what was delivered earlier. -/
theorem Accounts.trans {first second : List Nat} (later : Accounts after middle second)
    (earlier : Accounts middle before first) : Accounts after before (first ++ second) := by
  rw [Accounts, later, earlier, List.append_assoc]

/-- Adding an entry does nothing to processes. -/
theorem processes_append (monitor : Monitor) (entry : String) :
    (monitor.append entry).host.processes = monitor.host.processes :=
  (monitor.host.appendDurably_snd monitor.sink.path (Utf8.encode entry)).1.processes

/-- Starting the log anew does nothing to processes. -/
theorem processes_resetLog (monitor : Monitor) :
    monitor.resetLog.host.processes = monitor.host.processes := by
  rw [monitor.resetLog_host]
  exact (monitor.host.removeDurably_snd monitor.sink.path).1.processes

/-- Adding entries does nothing to processes. -/
theorem processes_appendAll (monitor : Monitor) (entries : List String) :
    (monitor.appendAll entries).host.processes = monitor.host.processes := by
  induction entries generalizing monitor with
  | nil => rfl
  | cons entry rest inductionHypothesis =>
    exact (inductionHypothesis (monitor.append entry)).trans (processes_append monitor entry)

/-- A task that is told something does nothing to processes. -/
theorem processes_advance (monitor : Monitor) (number : Nat) (event : Build.Event) :
    (monitor.advance number event).host.processes = monitor.host.processes := by
  cases found : monitor.tasks[number]? with
  | none => rw [Monitor.advance_of_none found]
  | some task =>
    rw [Monitor.advance_eq found]
    exact processes_appendAll monitor _

/-- What an action delivers is noted. -/
theorem Action.accounts {α : Type} (action : Action α) (monitor : Monitor) :
    Accounts (action.perform monitor).2 monitor
      (action.delivered? (action.perform monitor).1).toList := by
  cases action with
  | check | look | addTask => exact .of_processes_eq rfl
  | resetLog => exact .of_processes_eq (processes_resetLog monitor)
  | append entry => exact .of_processes_eq (processes_append monitor entry)
  | removeMarker =>
    refine .of_processes_eq ?_
    rw [Action.perform, Marker.clear_snd]
    exact (monitor.host.remove_snd monitor.markerPath).1.processes
  | terminate pid =>
    simp only [Action.perform]
    cases answered : monitor.host.processes.terminate pid with
    | ok processes =>
      rw [eq_deliver_of_terminate answered]
      rfl
    | error error => exact .of_processes_eq rfl

/-- What a procedure delivers is noted, in its order. -/
theorem Procedure.accounts {α : Type} (procedure : Procedure α) (monitor : Monitor) :
    Accounts (procedure.run monitor).after monitor (pidsDelivered (procedure.run monitor).taken) := by
  induction procedure generalizing monitor with
  | done reply => exact .of_processes_eq rfl
  | step action next inductionHypothesis =>
    have first := action.accounts monitor
    have later := inductionHypothesis (action.perform monitor).1 (action.perform monitor).2
    have whole := later.trans first
    simp only [Procedure.run, pidsDelivered, List.filterMap_cons]
    cases gave : action.delivered? (action.perform monitor).1 with
    | none => rw [gave] at whole; exact whole
    | some pid => rw [gave] at whole; exact whole

/-! ## Requests to stop -/

/-- The monitor once a request to end was delivered to a process. -/
def Monitor.delivering (monitor : Monitor) (pid : Nat) : Monitor :=
  { monitor with host := { monitor.host with processes := monitor.host.processes.deliver pid } }

/-- How a request to stop may go. -/
inductive StopCourse (monitor : Monitor) : Course (Except MonitorError Nat) → Prop where
  /-- The process has been reached, and the log says so. -/
  | reached {pid : Nat} (running : monitor.check = .running pid) :
      StopCourse monitor
        { taken :=
            [⟨.check, .running pid⟩, ⟨.terminate pid, .ok ()⟩,
              ⟨.look fun monitor => monitor.host.timestamp, monitor.host.timestamp⟩,
              ⟨.append (Monitor.stopEntry monitor.host.timestamp pid), ()⟩]
          reply := .ok pid
          after := (monitor.delivering pid).append
            (Monitor.stopEntry monitor.host.timestamp pid) }
  /-- The process could not be reached. -/
  | missed {pid : Nat} {failure : SignalError} {refusal : MonitorError}
      (running : monitor.check = .running pid) :
      StopCourse monitor
        { taken := [⟨.check, .running pid⟩, ⟨.terminate pid, .error failure⟩]
          reply := .error refusal
          after := monitor }
  /-- No build runs. -/
  | idle (free : ∀ pid, monitor.check ≠ .running pid) :
      StopCourse monitor
        { taken := [⟨.check, monitor.check⟩]
          reply := .error .noBuildRunning
          after := monitor }

/-- Every request to stop goes in one of these ways. -/
theorem stop_course (monitor : Monitor) : StopCourse monitor (Procedure.stop.run monitor) := by
  have quiet (free : ∀ pid, monitor.check ≠ .running pid) :
      StopCourse monitor ⟨[⟨.check, monitor.check⟩], .error .noBuildRunning, monitor⟩ := .idle free
  simp only [Procedure.stop, Procedure.run, Action.perform]
  cases seen : monitor.check with
  | idle | stale | error =>
    rw [seen] at quiet
    refine quiet ?_
    rintro pid ⟨⟩
  | running pid =>
    simp only [Procedure.run, Action.perform]
    cases answered : monitor.host.processes.terminate pid with
    | ok processes =>
      rw [eq_deliver_of_terminate answered]
      exact .reached seen
    | error failure => cases failure <;> exact .missed seen

/-- Only a request to stop asks a process to end. -/
theorem pidsSignalled_eq_nil {request : Request} (other : request ≠ .stop) (monitor : Monitor) :
    pidsSignalled (request.procedure.run monitor).taken = [] := by
  have may := (uses_procedure request).forall_taken monitor
  refine List.filterMap_eq_nil_iff.mpr fun one member => ?_
  obtain ⟨action, lesson⟩ := one
  have allowed := may _ member
  cases action with
  | terminate pid => exact absurd allowed other
  | check | look | removeMarker | resetLog | append | addTask => rfl

/-- Nothing is delivered where nobody is asked. -/
theorem pidsDelivered_eq_nil {taken : List Taken} (none : pidsSignalled taken = []) :
    pidsDelivered taken = [] := by
  refine List.filterMap_eq_nil_iff.mpr fun one member => ?_
  have quiet := List.filterMap_eq_nil_iff.mp none one member
  obtain ⟨action, lesson⟩ := one
  cases action with
  | terminate pid => cases quiet
  | check | look | removeMarker | resetLog | append | addTask => rfl

/-! ## Whole runs -/

namespace Signals

/-- What happens to a monitor. -/
inductive Event where
  /-- A request to the monitor is carried out. -/
  | request (request : Request)
  /-- A task is told what has happened to its script. -/
  | report (task : Nat) (event : Build.Event)
  /-- Anything else changes the surroundings, the marker and the processes among them. What the
  monitor has delivered stays on record. -/
  | surroundings (host : Host)

/-- The surroundings with the record of what the monitor has delivered. -/
def recorded (monitor : Monitor) (host : Host) : Host :=
  { host with
    processes := { host.processes with delivered := monitor.host.processes.delivered } }

/-- The monitor after an event. -/
def apply (monitor : Monitor) : Event → Monitor
  | .request request => request.perform monitor
  | .report task event => monitor.advance task event
  | .surroundings host => { monitor with host := recorded monitor host }

/-- The monitor after events. -/
def run (monitor : Monitor) (events : List Event) : Monitor := events.foldl apply monitor

/-- The pid that a request to stop is answered with. -/
def answered (monitor : Monitor) : Event → List Nat
  | .request .stop => monitor.stop.1.toOption.toList
  | _ => []

/-- The pids that the requests to stop are answered with over a run, in their order. -/
def allAnswered (monitor : Monitor) : List Event → List Nat
  | [] => []
  | event :: rest => answered monitor event ++ allAnswered (apply monitor event) rest

/-- Other requests are answered with no pid of a process that was stopped. -/
theorem answered_of_ne_stop {request : Request} (other : request ≠ .stop) (monitor : Monitor) :
    answered monitor (.request request) = [] := by
  cases request with
  | stop => exact absurd rfl other
  | status | logs | start | clearLock | artifact => rfl

/-- A request to stop delivers to the process that it is answered with, and no other request
delivers anything. -/
theorem pidsDelivered_eq_answered (monitor : Monitor) (request : Request) :
    pidsDelivered (request.procedure.run monitor).taken = answered monitor (.request request) := by
  by_cases stops : request = .stop
  · subst stops
    have reply : (Procedure.stop.run monitor).reply = monitor.stop.1 :=
      congrArg Prod.fst (run_procedure .stop monitor)
    have went := stop_course monitor
    rw [answered, ← reply, Request.procedure]
    generalize Procedure.stop.run monitor = course at went ⊢
    cases went <;> rfl
  · rw [answered_of_ne_stop stops, pidsDelivered_eq_nil (pidsSignalled_eq_nil stops monitor)]

/-- What an event delivers is what a request to stop is answered with. -/
theorem accounts_apply (monitor : Monitor) (event : Event) :
    Accounts (apply monitor event) monitor (answered monitor event) := by
  cases event with
  | surroundings host => exact (List.append_nil _).symm
  | report number event => exact .of_processes_eq (processes_advance monitor number event)
  | request request =>
    have noted := request.procedure.accounts monitor
    rwa [after_run_procedure, pidsDelivered_eq_answered] at noted

/-- What is delivered over a run is what requests to stop are answered with, in their order. -/
theorem accounts_run (monitor : Monitor) (events : List Event) :
    Accounts (run monitor events) monitor (allAnswered monitor events) := by
  induction events generalizing monitor with
  | nil => exact .of_processes_eq rfl
  | cons event rest inductionHypothesis =>
    exact (inductionHypothesis (apply monitor event)).trans (accounts_apply monitor event)

/-- The pid is a number that the marker writes, the only one, and by which one process is
addressed. -/
structure Targets (monitor : Monitor) (pid : Nat) : Prop where
  written : ∃ content, monitor.host.readText monitor.markerPath = .ok content ∧
    Denotes (trim content).toList pid ∧
      ∀ integer, Denotes (trim content).toList integer → integer = pid
  positive : 1 ≤ pid
  small : pid ≤ 2147483647
  raw : Processes.rawTarget? pid = some (pid : Int)

/-- A pid that is found to run is the one that the marker writes. -/
theorem targets_of_running (running : monitor.check = .running pid) : Targets monitor pid := by
  obtain ⟨content, read, writes, -⟩ := Marker.check_eq_running_iff.mp running
  have greatest : greatestPid = 2147483647 := rfl
  refine ⟨⟨content, read, writes.denotes, fun _ => writes.eq_of_denotes⟩, writes.positive,
    greatest ▸ writes.small, ?_⟩
  rw [Processes.rawTarget?, if_pos ⟨writes.positive, writes.small⟩]

/-- Whom the actions of a request to stop ask to end: the process that was found to run, once, right
after it was found, and nobody if none was found. -/
def StopDirected (monitor : Monitor) (taken : List Taken) : Prop :=
  match monitor.check with
  | .running pid =>
    Targets monitor pid ∧ ∃ sent rest,
      taken = ⟨.check, .running pid⟩ :: ⟨.terminate pid, sent⟩ :: rest ∧ pidsSignalled rest = []
  | state => taken = [⟨.check, state⟩]

/-- What a request to stop leaves behind, where it is answered with a pid and where it is refused. -/
def StopNoted (monitor : Monitor) (taken : List Taken) : Prop :=
  match monitor.stop with
  | (.ok pid, after) =>
    entriesAdded taken = [Monitor.stopEntry monitor.host.timestamp pid] ∧
      after = (monitor.delivering pid).append (Monitor.stopEntry monitor.host.timestamp pid)
  | (.error _, after) => entriesAdded taken = [] ∧ after = monitor

/-- A request to stop asks only the process to end that it has just found to run. -/
theorem stopDirected (monitor : Monitor) :
    StopDirected monitor (Procedure.stop.run monitor).taken := by
  have went := stop_course monitor
  rw [StopDirected]
  generalize Procedure.stop.run monitor = course at went ⊢
  cases went with
  | reached running | missed running =>
    rw [running]
    exact ⟨targets_of_running running, _, _, rfl, rfl⟩
  | idle free =>
    split
    · next pid running => exact absurd running (free pid)
    · rfl

/-- A request to stop leaves one entry behind if it is answered with a pid, and none if it is
refused. -/
theorem stopNoted (monitor : Monitor) :
    StopNoted monitor (Procedure.stop.run monitor).taken := by
  have stopped : ((Procedure.stop.run monitor).reply, (Procedure.stop.run monitor).after) =
      monitor.stop := run_procedure .stop monitor
  have went := stop_course monitor
  rw [StopNoted, ← stopped]
  generalize Procedure.stop.run monitor = course at went ⊢
  cases went <;> exact ⟨rfl, rfl⟩

/-- Over any run, and whatever happens in between, the requests to end that are delivered are those
that were answered with a pid. Each request to a monitor goes the way of its procedure. Only a
request to stop asks a process to end: once, right after it has found that the process runs whose pid
the marker writes. Where it reaches the process it adds one entry that says so, and otherwise it
changes nothing. -/
theorem signals_accounted (initial : Monitor) (events : List Event) :
    Accounts (run initial events) initial (allAnswered initial events) ∧
      ∀ earlier request later, events = earlier ++ .request request :: later →
        let monitor := run initial earlier
        let course := request.procedure.run monitor
        (course.reply, course.after) = request.carryOut monitor ∧
          (request ≠ .stop → pidsSignalled course.taken = []) ∧
          (request = .stop → StopDirected monitor course.taken ∧ StopNoted monitor course.taken) := by
  refine ⟨accounts_run initial events, ?_⟩
  intro earlier request later _ monitor course
  refine ⟨run_procedure request monitor, fun other => pidsSignalled_eq_nil other monitor, ?_⟩
  rintro rfl
  exact ⟨stopDirected monitor, stopNoted monitor⟩

/-- A monitor whose marker names the only process that exists. -/
def watchful : Monitor where
  host :=
    { files := ⟨[(["m"], .file ⟨Blob.ofList [55], false, ⟨0, 0⟩⟩)]⟩
      processes := ⟨.system, [7], []⟩
      directory := []
      now := ⟨0, 0⟩
      faults := [] }
  markerPath := "/m"
  outputDirectory := "/out"
  command := ⟨"/build", "/", []⟩
  sink := LogSink.create "/l" 10
  tasks := []

/-- The process is asked to end, and another request changes nothing about that. -/
theorem watchful_signals :
    allAnswered watchful [.request .stop, .request .status] = [7] ∧
      (run watchful [.request .stop, .request .status]).host.processes.delivered = [7] ∧
      Targets watchful 7 := by
  have marker : NamesInRoot "/m" "m" := by decide
  have running : watchful.check = .running 7 :=
    Marker.Names.check_eq ⟨"7", marker.readText_eq rfl rfl, rfl⟩ (by decide)
  have stopped : watchful.stop.1 = .ok 7 := by
    rw [Monitor.stop, running]
    rfl
  have answers : allAnswered watchful [.request .stop, .request .status] = [7] := by
    simp only [allAnswered, answered, stopped]
    rfl
  obtain ⟨noted, each⟩ := signals_accounted watchful [.request .stop, .request .status]
  obtain ⟨-, -, stops⟩ := each [] .stop [.request .status] rfl
  have directed := (stops rfl).1
  simp only [StopDirected, run, List.foldl_nil, running] at directed
  rw [Accounts, answers] at noted
  exact ⟨answers, noted, directed.1⟩

end Signals

end BuildMonitor
