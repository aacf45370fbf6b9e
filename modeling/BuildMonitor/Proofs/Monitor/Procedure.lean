import BuildMonitor.Proofs.Monitor.Requests

/-!
# Requests step by step

A request is not carried out at one stroke. It takes one action after the other, and each action
looks at one thing or changes one thing; between two of them anything else can happen. A procedure
is what is left to do for a request: it is over, or it takes an action and goes on with what it has
learnt from it.

Carried out without interruption, the procedure of a request is the request: `run_procedure`.

Main definitions: `Action`, `Procedure`, `Procedure.run`, `Request.procedure`.
-/

namespace BuildMonitor

open Host Log

/-- What a request does at one stroke, and what it learns from it. -/
inductive Action : Type → Type 1 where
  /-- The state of the build is read off the marker and the processes. -/
  | check : Action BuildState
  /-- Something else is looked at: the log, the artifacts or the clock. -/
  | look {α : Type} (view : Monitor → α) : Action α
  /-- A process is asked to end. -/
  | terminate (pid : Nat) : Action (Except SignalError Unit)
  /-- The marker is removed; what is learnt is whether there was one. -/
  | removeMarker : Action (Except IoError Bool)
  /-- The log is started anew. -/
  | resetLog : Action Unit
  /-- An entry is added to the log. -/
  | append (entry : String) : Action Unit
  /-- A task is added, and its number given. -/
  | addTask : Action Nat

/-- Takes an action. -/
def Action.perform {α : Type} (monitor : Monitor) : Action α → α × Monitor
  | .check => (monitor.check, monitor)
  | .look view => (view monitor, monitor)
  | .terminate pid =>
    match monitor.host.processes.terminate pid with
    | .ok processes =>
      (.ok (), { monitor with host := { monitor.host with processes := processes } })
    | .error error => (.error error, monitor)
  | .removeMarker =>
    let cleared := Marker.clear monitor.host monitor.markerPath
    (cleared.1, { monitor with host := cleared.2 })
  | .resetLog => ((), monitor.resetLog)
  | .append entry => ((), monitor.append entry)
  | .addTask =>
    (monitor.tasks.length, { monitor with tasks := monitor.tasks ++ [.launch monitor.command] })

/-- What is left to do for a request, up to its reply. -/
inductive Procedure (α : Type) : Type 1 where
  /-- The request is over. -/
  | done (reply : α)
  /-- An action is to be taken, and what follows depends on what is learnt from it. -/
  | step {β : Type} (action : Action β) (next : β → Procedure α)

/-- An action that was taken, with what was learnt from it. -/
structure Taken : Type 1 where
  {learnt : Type}
  action : Action learnt
  lesson : learnt

/-- How a procedure went: the actions in their order, the reply, and the monitor afterwards. -/
structure Course (α : Type) : Type 1 where
  taken : List Taken
  reply : α
  after : Monitor

namespace Procedure

variable {α : Type}

/-- Takes the next action. A procedure that is over stays over. -/
def act (monitor : Monitor) : Procedure α → Procedure α × Monitor
  | .done reply => (.done reply, monitor)
  | .step action next =>
    let performed := action.perform monitor
    (next performed.1, performed.2)

/-- Takes all actions without interruption. -/
def run : Procedure α → Monitor → Course α
  | .done reply, monitor => ⟨[], reply, monitor⟩
  | .step action next, monitor =>
    let performed := action.perform monitor
    let rest := (next performed.1).run performed.2
    { rest with taken := ⟨action, performed.1⟩ :: rest.taken }

/-- Every action that a procedure may ever take is one of the allowed. -/
def Uses (allowed : {β : Type} → Action β → Prop) : Procedure α → Prop
  | .done _ => True
  | .step action next => allowed action ∧ ∀ lesson, (next lesson).Uses allowed

/-- What is left after an action uses no more than before. -/
theorem Uses.act {allowed : {β : Type} → Action β → Prop} {procedure : Procedure α}
    (uses : procedure.Uses allowed) (monitor : Monitor) :
    (procedure.act monitor).1.Uses allowed := by
  cases procedure with
  | done => exact uses
  | step action next => exact uses.2 _

/-- Actions that are allowed may be allowed more widely. -/
theorem Uses.mono {allowed permitted : {β : Type} → Action β → Prop} {procedure : Procedure α}
    (uses : procedure.Uses allowed)
    (implies : ∀ {β : Type} (action : Action β), allowed action → permitted action) :
    procedure.Uses permitted := by
  induction procedure with
  | done => trivial
  | step action next inductionHypothesis =>
    exact ⟨implies action uses.1, fun lesson => inductionHypothesis lesson (uses.2 lesson)⟩

/-- What a procedure may never do it does not do. -/
theorem Uses.forall_taken {allowed : {β : Type} → Action β → Prop}
    {procedure : Procedure α} (uses : procedure.Uses allowed) (monitor : Monitor) :
    ∀ one ∈ (procedure.run monitor).taken, allowed one.action := by
  induction procedure generalizing monitor with
  | done reply => nofun
  | step action next inductionHypothesis =>
    rintro one (_ | ⟨_, later⟩)
    · exact uses.1
    · exact inductionHypothesis _ (uses.2 _) _ one later

/-! ## The procedures of requests -/

/-- Looks at the clock. -/
def timed (next : String → Procedure α) : Procedure α :=
  .step (.look fun monitor => monitor.host.timestamp) next

/-- The state of the build is looked at before the artifacts are. -/
def status : Procedure StatusReport :=
  .step .check fun build =>
  .step (.look fun monitor => Artifact.inspect monitor.host monitor.outputDirectory) fun database =>
  timed fun timestamp => .done { build, database, timestamp }

/-- The number of entries kept is looked at after the lines have been taken. -/
def report (lines : List String) : Procedure LogReport :=
  .step (.look fun monitor => monitor.sink.size) fun totalLines =>
  timed fun timestamp => .done { lines, totalLines, timestamp }

/-- The lines are taken from memory; only if there are none is the durable copy looked at. -/
def logs (count : Nat) : Procedure LogReport :=
  .step (.look fun monitor => (min (monitor.admittedLines count) monitor.sink.capacity,
    monitor.sink.entries)) fun (wanted, entries) =>
  if wanted = 0 then report []
  else if entries.isEmpty then
    .step (.look fun monitor => monitor.sink.tailOfCopy monitor.host wanted) report
  else report (lastOf wanted entries)

/-- What is left of a request to start once there is known to be no marker. -/
def accept : Procedure (Except MonitorError Nat) :=
  .step .resetLog fun _ =>
  timed fun timestamp =>
  .step (.append (Monitor.startEntry timestamp)) fun _ =>
  .step .addTask fun number => .done (.ok number)

/-- A request to start looks at the marker and is refused, or goes on to be accepted. -/
def start : Procedure (Except MonitorError Nat) :=
  .step .check fun state =>
  match Monitor.refusal? state with
  | some error => .done (.error error)
  | none => accept

/-- A request to stop looks at the marker, asks the process to end, and notes that in the log. -/
def stop : Procedure (Except MonitorError Nat) :=
  .step .check fun state =>
  match state with
  | .running pid =>
    .step (.terminate pid) fun sent =>
    match sent with
    | .ok () =>
      timed fun timestamp =>
      .step (.append (Monitor.stopEntry timestamp pid)) fun _ => .done (.ok pid)
    | .error (.noSuchProcess pid) => .done (.error (.processNotFound pid))
    | .error (.refused pid reason) => .done (.error (.signalFailed pid reason))
  | _ => .done (.error .noBuildRunning)

/-- What is left of a request to clear the marker once no build is known to run. -/
def removeMarker : Procedure (Except MonitorError ClearOutcome) :=
  .step .removeMarker fun removed =>
  match removed with
  | .ok true => .done (.ok .cleared)
  | .ok false => .done (.ok .nothingToClear)
  | .error error => .done (.error (.markerRemoval error.message))

/-- What was checked is not checked again before the marker is removed. -/
def clearLock : Procedure (Except MonitorError ClearOutcome) :=
  .step .check fun state =>
  match state with
  | .running pid => .done (.error (.buildRunning pid))
  | _ => removeMarker

/-- A request for an artifact looks at it once. -/
def artifact (kind : Artifact.Kind) : Procedure (Except MonitorError Artifact.Download) :=
  .step (.look fun monitor => monitor.artifact kind) .done

end Procedure

namespace Request

/-- What a request is answered with. -/
@[reducible]
def Reply : Request → Type
  | .status => StatusReport
  | .logs _ => LogReport
  | .start | .stop => Except MonitorError Nat
  | .clearLock => Except MonitorError ClearOutcome
  | .artifact _ => Except MonitorError Artifact.Download

/-- Carries out a request at one stroke. -/
def carryOut (monitor : Monitor) : (request : Request) → request.Reply × Monitor
  | .status => (monitor.status, monitor)
  | .logs count => (monitor.logs count, monitor)
  | .start => monitor.start
  | .stop => monitor.stop
  | .clearLock => monitor.clearLock
  | .artifact kind => (monitor.artifact kind, monitor)

/-- Carrying a request out does to the monitor what performing it does. -/
theorem carryOut_snd (monitor : Monitor) (request : Request) :
    (request.carryOut monitor).2 = request.perform monitor := by
  cases request <;> rfl

/-- What there is to do for a request. -/
def procedure : (request : Request) → Procedure request.Reply
  | .status => .status
  | .logs count => .logs count
  | .start => .start
  | .stop => .stop
  | .clearLock => .clearLock
  | .artifact kind => .artifact kind

end Request

/-- Without interruption, the procedure of a request carries out the request. -/
theorem run_procedure (request : Request) (monitor : Monitor) :
    ((request.procedure.run monitor).reply, (request.procedure.run monitor).after) =
      request.carryOut monitor := by
  cases request with
  | status | artifact => rfl
  | logs count =>
    simp only [Request.procedure, Request.carryOut, Procedure.logs, Procedure.run, Action.perform,
      Monitor.logs, LogSink.snapshot]
    by_cases none : min (monitor.admittedLines count) monitor.sink.capacity = 0
    · simp only [none, if_true]
      rfl
    · by_cases empty : monitor.sink.entries.isEmpty = true
      · simp only [none, empty, if_true, if_false]
        rfl
      · simp only [none, empty, if_false]
        rfl
  | start =>
    simp only [Request.procedure, Request.carryOut, Procedure.start, Procedure.run, Action.perform,
      Monitor.start]
    cases Monitor.refusal? monitor.check <;> rfl
  | stop =>
    simp only [Request.procedure, Request.carryOut, Procedure.stop, Procedure.run, Action.perform,
      Monitor.stop]
    cases monitor.check with
    | running pid =>
      simp only [Procedure.run, Action.perform]
      cases monitor.host.processes.terminate pid with
      | ok processes => rfl
      | error error => cases error <;> rfl
    | idle | stale | error => rfl
  | clearLock =>
    simp only [Request.procedure, Request.carryOut, Procedure.clearLock, Procedure.run,
      Action.perform, Monitor.clearLock]
    cases monitor.check with
    | running pid => rfl
    | idle | stale | error =>
      simp only [Procedure.removeMarker, Procedure.run, Action.perform]
      unfold Monitor.removeMarker
      generalize Marker.clear monitor.host monitor.markerPath = cleared
      obtain ⟨removed, host⟩ := cleared
      cases removed with
      | error error => rfl
      | ok present => cases present <;> rfl

/-- Without interruption, a request leaves the monitor as performing it does. -/
theorem after_run_procedure (request : Request) (monitor : Monitor) :
    (request.procedure.run monitor).after = request.perform monitor := by
  rw [← Request.carryOut_snd, ← run_procedure]

/-! ## What a request may do -/

/-- The actions that a request may take. Any request may look at things; each change is for requests
of one kind or two. -/
def Request.MayTake (request : Request) {α : Type} : Action α → Prop
  | .check | .look _ => True
  | .terminate _ => request = .stop
  | .removeMarker => request = .clearLock
  | .resetLog | .addTask => request = .start
  | .append _ => request = .start ∨ request = .stop

/-- A request takes no actions but its own. -/
theorem uses_procedure (request : Request) : request.procedure.Uses request.MayTake := by
  have timed {α : Type} {next : String → Procedure α}
      (rest : ∀ time, (next time).Uses request.MayTake) :
      (Procedure.timed next).Uses request.MayTake := ⟨trivial, rest⟩
  have report (lines : List String) : (Procedure.report lines).Uses request.MayTake :=
    ⟨trivial, fun _ => timed fun _ => trivial⟩
  cases request with
  | status => exact ⟨trivial, fun _ => ⟨trivial, fun _ => timed fun _ => trivial⟩⟩
  | artifact kind => exact ⟨trivial, fun _ => trivial⟩
  | logs count =>
    refine ⟨trivial, fun (wanted, entries) => ?_⟩
    dsimp only
    split
    · exact report _
    · split
      · exact ⟨trivial, report⟩
      · exact report _
  | start =>
    refine ⟨trivial, fun state => ?_⟩
    dsimp only
    split
    · trivial
    · exact ⟨rfl, fun _ => timed fun _ => ⟨Or.inl rfl, fun _ => ⟨rfl, fun _ => trivial⟩⟩⟩
  | stop =>
    refine ⟨trivial, fun state => ?_⟩
    dsimp only
    split
    · refine ⟨rfl, fun sent => ?_⟩
      dsimp only
      split
      · exact timed fun _ => ⟨Or.inr rfl, fun _ => trivial⟩
      · trivial
      · trivial
    · trivial
  | clearLock =>
    refine ⟨trivial, fun state => ?_⟩
    dsimp only
    split
    · trivial
    · refine ⟨rfl, fun removed => ?_⟩
      dsimp only
      split <;> trivial

end BuildMonitor
