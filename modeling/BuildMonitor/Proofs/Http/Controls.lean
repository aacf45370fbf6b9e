import BuildMonitor.Http.Router
import BuildMonitor.Proofs.Build.Marker
import BuildMonitor.Proofs.Json.RoundTrip
import BuildMonitor.Proofs.Monitor.Procedure

/-!
# Answers to controls

Three endpoints change something: a build is started, stopped, or its marker cleared. What such a
request is answered depends on nothing but what can be read of the marker, which processes are
alive, and how the signal to the process or the removal of the marker comes out. The status and the
report for each case are written down in `Control.verdict`, and the answers are just these:
`control_tells_verdict`.

The verdict is met however the surroundings behave: a signal and a removal need not come out as they
would on a host that has not changed since the check.

Main definitions: `Control`, `Surroundings`, `Control.verdict`, `Response.Tells`.
-/

namespace BuildMonitor

open Host Json

/-- The reply of a procedure that learns the given things. -/
def Procedure.replyWith {α : Type} (learn : {β : Type} → Action β → β) : Procedure α → α
  | .done reply => reply
  | .step action next => (next (learn action)).replyWith learn

/-- The report as it is read: the members in the order of their names, and the process only where it
is known. -/
def ActionReport.document (report : ActionReport) : Value :=
  .object <|
    [("message", .text report.message)] ++
      (match report.pid with
      | some pid => [("pid", .ofNat pid)]
      | none => []) ++
      [("success", .boolean report.success)]

/-- Sorted, a report is the document that is read. -/
theorem ActionReport.sorted_toJson (report : ActionReport) :
    report.toJson.sorted = report.document := by
  obtain ⟨success, message, pid⟩ := report
  have message_ne_success : "message" ≠ "success" := by decide
  have message_lt_success : "message" < "success" := by decide
  have pid_ne_message : "pid" ≠ "message" := by decide
  have not_pid_lt_message : ¬ "pid" < "message" := by decide
  have pid_ne_success : "pid" ≠ "success" := by decide
  have pid_lt_success : "pid" < "success" := by decide
  cases pid with
  | none =>
    simp only [toJson, document, Value.sorted, Value.sortedMembers, sortMembers, List.append_nil,
      List.cons_append, List.nil_append, List.foldl_cons, List.foldl_nil, insertMember,
      if_neg message_ne_success, if_pos message_lt_success]
  | some pid =>
    simp only [toJson, document, Value.sorted, Value.sortedMembers, sortMembers, Value.ofNat,
      List.cons_append, List.nil_append, List.foldl_cons, List.foldl_nil, insertMember,
      if_neg message_ne_success, if_pos message_lt_success, if_neg pid_ne_message,
      if_neg not_pid_lt_message, if_neg pid_ne_success, if_pos pid_lt_success]

/-- A report with a pid of one word can be read back. -/
theorem ActionReport.fits_toJson {report : ActionReport}
    (small : ∀ pid ∈ report.pid, pid ≤ wordLimit) : report.toJson.Fits depthLimit := by
  obtain ⟨success, message, pid⟩ := report
  cases pid with
  | none => exact ⟨by decide, trivial, trivial, trivial⟩
  | some pid => exact ⟨by decide, trivial, trivial, small pid rfl, trivial⟩

namespace Http

/-! ## What an answer depends on -/

/-- A request that changes something. -/
inductive Control where
  /-- A build is to be started. -/
  | build
  /-- The build that runs is to be stopped. -/
  | stop
  /-- The marker is to be removed. -/
  | clearLock
  deriving DecidableEq, Repr

/-- How a request to end comes out for the process it is sent to. -/
inductive SignalOutcome where
  | delivered
  /-- There is no such process. -/
  | vanished
  /-- The process exists, but the request was refused. -/
  | refused (reason : String)
  deriving DecidableEq, Repr

/-- What is learnt from a request to end, sent to a process. -/
def SignalOutcome.lesson (pid : Nat) : SignalOutcome → Except SignalError Unit
  | .delivered => .ok ()
  | .vanished => .error (.noSuchProcess pid)
  | .refused reason => .error (.refused pid reason)

/-- All that an answer depends on. -/
structure Surroundings where
  /-- The path of the marker. -/
  path : String
  /-- What is read of the marker. -/
  reading : Except IoError String
  /-- The processes that are alive. -/
  isAlive : Nat → Bool
  /-- How a request to end comes out for each process. -/
  signal : Nat → SignalOutcome
  /-- How the removal of the marker comes out. -/
  removal : Except IoError Unit

namespace Surroundings

/-- The state of the build. -/
def state (surroundings : Surroundings) : BuildState :=
  Marker.classify surroundings.path surroundings.reading surroundings.isAlive

/-- What is learnt from the removal of the marker: whether there was one. -/
def removed (surroundings : Surroundings) : Except IoError Bool :=
  match surroundings.removal with
  | .ok () => .ok true
  | .error error => if error.isNotFound then .ok false else .error error

/-- What is learnt from an action. Nothing that an answer depends on is learnt of the monitor. -/
def learn (surroundings : Surroundings) (monitor : Monitor) : {β : Type} → Action β → β
  | _, .check => surroundings.state
  | _, .terminate pid => (surroundings.signal pid).lesson pid
  | _, .removeMarker => surroundings.removed
  | _, action => (action.perform monitor).1

/-- The marker names the process. -/
def Names (surroundings : Surroundings) (pid : Nat) : Prop :=
  ∃ content, surroundings.reading = .ok content ∧ Marker.Writes content pid

/-- The surroundings of a monitor. -/
def of (monitor : Monitor) : Surroundings where
  path := monitor.markerPath
  reading := monitor.host.readText monitor.markerPath
  isAlive := monitor.host.processes.isAlive
  signal pid :=
    match monitor.host.processes.terminate pid with
    | .ok _ => .delivered
    | .error (.noSuchProcess _) => .vanished
    | .error (.refused _ reason) => .refused reason
  removal := (monitor.host.remove monitor.markerPath).1

end Surroundings

/-! ## Verdicts -/

/-- The status and the report of an answer. -/
structure Verdict where
  status : Nat
  report : ActionReport
  deriving DecidableEq, Repr

namespace Control

/-- What each control is answered in each case. -/
def verdict (surroundings : Surroundings) : Control → Verdict
  | .build =>
    match surroundings.state with
    | .idle => ⟨200, true, "Build started successfully", none⟩
    | .running pid => ⟨409, false, "A build is already running", some pid⟩
    | .stale pid => ⟨409, false, "Stale lock file detected. Please clean it manually.", some pid⟩
    | .error detail => ⟨409, false, s!"Lock file unreadable: {detail}", none⟩
  | .stop =>
    match surroundings.state with
    | .running pid =>
      match surroundings.signal pid with
      | .delivered => ⟨200, true, s!"Stop signal sent to build process (PID: {pid})", none⟩
      | .vanished => ⟨404, false, "Build process not found", some pid⟩
      | .refused reason => ⟨500, false, s!"Failed to stop build: {reason}", some pid⟩
    | _ => ⟨409, false, "No build is currently running", none⟩
  | .clearLock =>
    match surroundings.state with
    | .running pid => ⟨409, false, "Cannot clear lock while build is running", some pid⟩
    | _ =>
      match surroundings.removal with
      | .ok () => ⟨200, true, "Lock file cleared successfully", none⟩
      | .error error =>
        if error.isNotFound then ⟨200, true, "No lock file to clear", none⟩
        else ⟨500, false, s!"Failed to clear lock: {error.message}", none⟩

/-- The endpoint of a control. -/
def endpoint : Control → Endpoint
  | .build => .build
  | .stop => .stop
  | .clearLock => .clearLock

/-- The request for a control. -/
def request (control : Control) (query : Option String) : Request :=
  ⟨"POST", ⟨control.endpoint.path, query⟩⟩

/-- The response to what a control has come to. -/
def respond (learn : {β : Type} → Action β → β) : Control → Response
  | .build =>
    Endpoint.settled (Procedure.start.replyWith learn) fun _ =>
      .granted "Build started successfully"
  | .stop =>
    Endpoint.settled (Procedure.stop.replyWith learn) fun pid =>
      .granted s!"Stop signal sent to build process (PID: {pid})"
  | .clearLock =>
    Endpoint.settled (Procedure.clearLock.replyWith learn) fun outcome => .granted outcome.message

end Control

/-- The response has the status, and its body is read as the report. -/
structure Response.Tells (response : Response) (verdict : Verdict) : Prop where
  status : response.status = verdict.status
  typed : ("content-type", "application/json") ∈ response.headers
  body : Value.ofBytes? response.body.toList = some verdict.report.document

variable {surroundings : Surroundings} {monitor : Monitor} {response : Response} {verdict : Verdict}
  {control : Control} {pid : Nat}

namespace Response

/-- The response made of a report tells that report. -/
theorem tells_json {status : Nat} {report : ActionReport}
    (small : ∀ pid ∈ report.pid, pid ≤ wordLimit) :
    (Response.json status report.toJson).Tells ⟨status, report⟩ where
  status := rfl
  typed := List.mem_singleton.mpr rfl
  body := by
    simp only [json, bodyOf, Blob.toList_ofList]
    rw [Value.ofBytes?_compact (ActionReport.fits_toJson small), ActionReport.sorted_toJson]

/-- A header that is added leaves the body as it is told. -/
theorem Tells.withHeader (tells : response.Tells verdict) (name value : String) :
    (response.withHeader name value).Tells verdict where
  status := tells.status
  typed := List.mem_append_left _ tells.typed
  body := tells.body

/-- Saying how long the body is leaves it as it is told. -/
theorem Tells.measured (tells : response.Tells verdict) : response.measured.Tells verdict := by
  unfold Response.measured
  split
  · exact tells
  · exact tells.withHeader _ _

end Response

/-! ## The cases -/

/-- A process that an answer concerns is the one that the marker names. -/
theorem Control.names_of_verdict (known : (control.verdict surroundings).report.pid = some pid) :
    surroundings.Names pid := by
  refine Marker.pid?_classify_eq_some_iff.mp (?_ : surroundings.state.pid? = some pid)
  revert known
  cases control with
  | build =>
    unfold verdict
    cases surroundings.state <;> exact id
  | stop =>
    unfold verdict
    cases surroundings.state with
    | idle | stale | error => exact nofun
    | running other =>
      dsimp only
      cases surroundings.signal other with
      | delivered => exact nofun
      | vanished | refused => exact id
  | clearLock =>
    unfold verdict
    cases surroundings.state with
    | running other => exact id
    | idle | stale | error =>
      dsimp only
      split
      · exact nofun
      · split <;> exact nofun

/-- A control is answered with the verdict on it, as a document. -/
theorem Control.respond_eq_json (control : Control) (surroundings : Surroundings)
    (monitor : Monitor) :
    control.respond (surroundings.learn monitor) =
      .json (control.verdict surroundings).status (control.verdict surroundings).report.toJson := by
  cases control with
  | build =>
    simp only [respond, Procedure.start, Procedure.replyWith, Surroundings.learn, verdict]
    cases surroundings.state <;> rfl
  | stop =>
    simp only [respond, Procedure.stop, Procedure.replyWith, Surroundings.learn, verdict]
    cases surroundings.state with
    | idle | stale | error => rfl
    | running pid =>
      simp only [Procedure.replyWith, Surroundings.learn]
      cases surroundings.signal pid <;> rfl
  | clearLock =>
    simp only [respond, Procedure.clearLock, Procedure.replyWith, Surroundings.learn, verdict]
    cases surroundings.state with
    | running pid => rfl
    | idle | stale | error =>
      simp only [Procedure.removeMarker, Procedure.replyWith, Surroundings.learn,
        Surroundings.removed]
      cases surroundings.removal with
      | ok => rfl
      | error error =>
        cases missing : error.isNotFound with
        | true => simp [missing]; rfl
        | false => simp [missing]; rfl

/-- The answer to a control tells the verdict on it. -/
theorem Control.respond_tells (control : Control) (surroundings : Surroundings)
    (monitor : Monitor) :
    (control.respond (surroundings.learn monitor)).Tells (control.verdict surroundings) := by
  rw [respond_eq_json]
  refine Response.tells_json fun pid known => ?_
  obtain ⟨content, -, writes⟩ := names_of_verdict known
  have wide : greatestPid ≤ wordLimit := by decide
  exact Nat.le_trans writes.small wide

/-! ## The surroundings of a monitor -/

/-- A request to end that fails names the process it was sent to. -/
private theorem error_of_terminate {processes : Processes} {error : SignalError}
    (failed : processes.terminate pid = .error error) :
    error = .noSuchProcess pid ∨ ∃ reason, error = .refused pid reason := by
  unfold Processes.terminate at failed
  repeat' split at failed
  all_goals cases failed
  all_goals first | exact Or.inl rfl | exact Or.inr ⟨_, rfl⟩

private theorem terminate_eq_lesson (monitor : Monitor) (pid : Nat) :
    (monitor.host.processes.terminate pid).map (fun _ => ()) =
      ((Surroundings.of monitor).signal pid).lesson pid := by
  simp only [Surroundings.of]
  cases sent : monitor.host.processes.terminate pid with
  | ok => rfl
  | error error => rcases error_of_terminate sent with rfl | ⟨reason, rfl⟩ <;> rfl

private theorem start_eq_replyWith (monitor : Monitor) :
    monitor.start.1 = Procedure.start.replyWith ((Surroundings.of monitor).learn monitor) := by
  have check : (Surroundings.of monitor).state = monitor.check := rfl
  simp only [Procedure.start, Procedure.replyWith, Surroundings.learn, check, Monitor.start]
  cases Monitor.refusal? monitor.check <;> rfl

private theorem stop_eq_replyWith (monitor : Monitor) :
    monitor.stop.1 = Procedure.stop.replyWith ((Surroundings.of monitor).learn monitor) := by
  have check : (Surroundings.of monitor).state = monitor.check := rfl
  simp only [Procedure.stop, Procedure.replyWith, Surroundings.learn, check, Monitor.stop]
  cases monitor.check with
  | idle | stale | error => rfl
  | running pid =>
    simp only [Procedure.replyWith, Surroundings.learn, ← terminate_eq_lesson]
    cases monitor.host.processes.terminate pid with
    | ok => rfl
    | error error => cases error <;> rfl

private theorem removed_of (monitor : Monitor) :
    (Surroundings.of monitor).removed = (Marker.clear monitor.host monitor.markerPath).1 := by
  unfold Marker.clear Surroundings.removed Surroundings.of
  dsimp only
  generalize monitor.host.remove monitor.markerPath = result
  obtain ⟨outcome, after⟩ := result
  cases outcome <;> rfl

private theorem removeMarker_eq_replyWith (monitor : Monitor) :
    monitor.removeMarker.1 =
      Procedure.removeMarker.replyWith ((Surroundings.of monitor).learn monitor) := by
  simp only [Procedure.removeMarker, Procedure.replyWith, Surroundings.learn, removed_of]
  unfold Monitor.removeMarker
  generalize Marker.clear monitor.host monitor.markerPath = cleared
  obtain ⟨outcome, after⟩ := cleared
  rcases outcome with error | present
  · rfl
  · cases present <;> rfl

private theorem clearLock_eq_replyWith (monitor : Monitor) :
    monitor.clearLock.1 =
      Procedure.clearLock.replyWith ((Surroundings.of monitor).learn monitor) := by
  have check : (Surroundings.of monitor).state = monitor.check := rfl
  simp only [Procedure.clearLock, Procedure.replyWith, Surroundings.learn, check, Monitor.clearLock]
  cases monitor.check with
  | running pid => rfl
  | idle | stale | error => exact removeMarker_eq_replyWith monitor

/-- An endpoint answers a control by what its procedure learns of the surroundings. -/
theorem Control.answer_eq_respond (control : Control) (query : Option String) (monitor : Monitor) :
    (control.endpoint.answer query monitor).1 =
      control.respond ((Surroundings.of monitor).learn monitor) := by
  cases control with
  | build => rw [respond, ← start_eq_replyWith]; rfl
  | stop => rw [respond, ← stop_eq_replyWith]; rfl
  | clearLock => rw [respond, ← clearLock_eq_replyWith]; rfl

/-! ## Requests -/

/-- A request for a control is answered by its endpoint. -/
private theorem route_request (control : Control) (query : Option String) (monitor : Monitor) :
    (route (control.request query) monitor).1 =
      (control.endpoint.answer query monitor).1.measured := by
  have found : Endpoint.find? control.endpoint.path = some control.endpoint := by
    cases control <;> decide
  have fits : control.endpoint.methods.contains "POST" = true := by
    cases control <;> decide
  have whole : "POST" ≠ "HEAD" := by decide
  unfold Control.request route
  simp only [found]
  rw [if_pos fits, if_neg whole]

/-- That pages of any origin may read the response adds to its headers alone. -/
private theorem tells_handle (sharing : Bool) {query : Option String}
    (tells : (control.endpoint.answer query monitor).1.Tells verdict) :
    (handle sharing (control.request query) monitor).1.Tells verdict := by
  have routed : (route (control.request query) monitor).1.Tells verdict :=
    route_request control query monitor ▸ tells.measured
  cases sharing with
  | false => exact routed
  | true =>
    have posted : "POST" ≠ "OPTIONS" := by decide
    rw [handle, if_pos rfl, Control.request, if_neg posted]
    exact (routed.withHeader _ _).withHeader _ _

/-- The endpoints that change something answer as the state of the build dictates, with the status
and the report of the verdict for the surroundings, whatever there is to read of the marker,
whichever processes are alive, and however a signal and a removal come out. The pid in a report is
the one that the marker writes. -/
theorem control_tells_verdict (control : Control) (query : Option String) (sharing : Bool) :
    (∀ monitor, (handle sharing (control.request query) monitor).1.Tells
      (control.verdict (.of monitor))) ∧
    (∀ surroundings monitor, (control.respond (Surroundings.learn surroundings monitor)).Tells
      (control.verdict surroundings)) ∧
    ∀ surroundings pid, (control.verdict surroundings).report.pid = some pid →
      surroundings.Names pid := by
  refine ⟨fun monitor => tells_handle sharing ?_, control.respond_tells,
    fun _ _ => Control.names_of_verdict⟩
  rw [control.answer_eq_respond]
  exact control.respond_tells _ monitor

/-- The process that the marker names was alive when it was looked for, and gone when it was to be
stopped. -/
def vanishingProcess : Surroundings where
  path := "/m"
  reading := .ok " 42\n"
  isAlive pid := pid == 42
  signal _ := .vanished
  removal := .ok ()

/-- A process that is gone when it is to be stopped is reported as not found, with its pid. -/
theorem vanishingProcess_stop :
    Control.stop.verdict vanishingProcess = ⟨404, false, "Build process not found", some 42⟩ ∧
      vanishingProcess.Names 42 :=
  ⟨rfl, (control_tells_verdict .stop none false).2.2 vanishingProcess 42 rfl⟩

end Http

end BuildMonitor
