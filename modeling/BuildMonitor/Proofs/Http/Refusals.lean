import BuildMonitor.Http.Router
import BuildMonitor.Monitor.Deployment
import BuildMonitor.Proofs.Monitor.Requests

/-!
# Requests that are refused

A request over HTTP is refused when its path or method fits no endpoint, when its query cannot be
read, or when the monitor refuses what is asked for: `Refused`. Just those requests are answered with
a status that is no success, and they change nothing, whatever the monitor has come to before.
Neither does a request that only reports, refused or not.

Main definitions: `Refused`, `Unchanged`. Main statement: `refused_request_changes_nothing`.
-/

namespace BuildMonitor

open Host

namespace Http

variable {request : Request} {endpoint : Endpoint} {query : Option String} {monitor : Monitor}

/-! ## Answers that are no success -/

/-- Whether a response says that what was asked for is done. -/
def Response.isSuccess (response : Response) : Bool :=
  200 ≤ response.status && response.status < 300

/-- Leaving the body out makes no refusal and undoes none. -/
@[simp] theorem Response.isSuccess_withoutBody (response : Response) :
    response.withoutBody.isSuccess = response.isSuccess := rfl

/-- Saying how long the body is makes no refusal and undoes none. -/
@[simp] theorem Response.isSuccess_measured (response : Response) :
    response.measured.isSuccess = response.isSuccess := by
  unfold Response.measured
  split <;> rfl

/-- Letting pages of any origin read a response makes no refusal and undoes none. -/
@[simp] theorem isSuccess_shared (response : Response) :
    (shared response).isSuccess = response.isSuccess := rfl

/-- No refusal is sent as a success. -/
theorem Response.isSuccess_ofError (error : MonitorError) :
    (Response.ofError error).isSuccess = false := by
  cases error <;> rfl

/-- A response is no success if what was asked for was refused, and only then. -/
theorem isSuccess_settled_iff {α : Type} {outcome : Except MonitorError α} {respond : α → Response}
    (granted : ∀ value, (respond value).isSuccess = true) :
    (Endpoint.settled outcome respond).isSuccess = false ↔ ∃ error, outcome = .error error := by
  cases outcome with
  | ok value => simp [Endpoint.settled, granted]
  | error error => simp [Endpoint.settled, Response.isSuccess_ofError]

/-- What is asked of an endpoint is refused. -/
def Endpoint.Refuses (endpoint : Endpoint) (query : Option String) (monitor : Monitor) : Prop :=
  match endpoint with
  | .status | .health => False
  | .logs => ∃ error, linesParameter query = .error error
  | .build => ∃ error, monitor.start.1 = .error error
  | .stop => ∃ error, monitor.stop.1 = .error error
  | .clearLock => ∃ error, monitor.clearLock.1 = .error error
  | .download kind => ∃ error, monitor.artifact kind = .error error

/-- An endpoint answers with a failure exactly if it refuses what is asked. -/
theorem Endpoint.isSuccess_answer_iff (endpoint : Endpoint) (query : Option String)
    (monitor : Monitor) :
    (endpoint.answer query monitor).1.isSuccess = false ↔ endpoint.Refuses query monitor := by
  cases endpoint with
  | status | health => exact ⟨nofun, nofun⟩
  | logs =>
    rw [Endpoint.answer, Endpoint.Refuses]
    cases linesParameter query with
    | ok raw => exact ⟨nofun, nofun⟩
    | error error => exact ⟨fun _ => ⟨error, rfl⟩, fun _ => rfl⟩
  | build | stop | clearLock | download => exact isSuccess_settled_iff fun _ => rfl

/-- What is refused changes nothing. -/
theorem Endpoint.answer_of_refuses (refuses : endpoint.Refuses query monitor) :
    (endpoint.answer query monitor).2 = monitor := by
  cases endpoint with
  | status | health | download => rfl
  | logs =>
    rw [Endpoint.answer]
    cases linesParameter query <;> rfl
  | build => exact start_of_error refuses.choose_spec
  | stop => exact stop_of_error refuses.choose_spec
  | clearLock => exact clearLock_of_error refuses.choose_spec

/-- An endpoint that only reports changes nothing. -/
theorem Endpoint.answer_of_reports (reports : endpoint.changes = false) (query : Option String)
    (monitor : Monitor) : (endpoint.answer query monitor).2 = monitor := by
  cases endpoint with
  | status | health | download => rfl
  | logs =>
    rw [Endpoint.answer]
    cases linesParameter query <;> rfl
  | build | stop | clearLock => cases reports

/-! ## Requests -/

/-- The request fits no endpoint, or one that refuses it. -/
def Refused (request : Request) (monitor : Monitor) : Prop :=
  match Endpoint.find? request.target.path with
  | none => True
  | some endpoint =>
    request.method ∈ endpoint.methods → endpoint.Refuses request.target.query monitor

/-- A request that fits no endpoint is a failure. -/
theorem isSuccess_missing (target : Target) : (missing target).isSuccess = false := by
  unfold missing
  split
  · rfl
  · exact Response.isSuccess_measured _

/-- A request is answered with a failure exactly if it is refused. -/
theorem isSuccess_route_iff (request : Request) (monitor : Monitor) :
    (route request monitor).1.isSuccess = false ↔ Refused request monitor := by
  unfold route Refused
  cases Endpoint.find? request.target.path with
  | none => exact iff_of_true (isSuccess_missing request.target) trivial
  | some endpoint =>
    dsimp only
    by_cases fits : endpoint.methods.contains request.method = true
    · rw [if_pos fits]
      have asked : request.method ∈ endpoint.methods := List.contains_iff_mem.mp fits
      rw [forall_prop_of_true asked, ← endpoint.isSuccess_answer_iff]
      dsimp only
      split
      · rw [Response.isSuccess_withoutBody, Response.isSuccess_measured]
      · rw [Response.isSuccess_measured]
    · rw [if_neg fits]
      refine iff_of_true (Response.isSuccess_measured _) fun asked => ?_
      exact absurd (List.contains_iff_mem.mpr asked) fits

/-- A request that is refused leaves the monitor as it is. -/
theorem route_of_refused (refused : Refused request monitor) :
    (route request monitor).2 = monitor := by
  unfold route
  unfold Refused at refused
  cases found : Endpoint.find? request.target.path with
  | none => rfl
  | some endpoint =>
    rw [found] at refused
    dsimp only at refused ⊢
    split
    · next fits => exact Endpoint.answer_of_refuses (refused (List.contains_iff_mem.mp fits))
    · rfl

/-- The methods that only report are those of endpoints that do. -/
theorem route_of_reporting (reporting : request.method = "GET" ∨ request.method = "HEAD") :
    (route request monitor).2 = monitor := by
  unfold route
  cases Endpoint.find? request.target.path with
  | none => rfl
  | some endpoint =>
    dsimp only
    split
    · next fits =>
      refine Endpoint.answer_of_reports ?_ request.target.query monitor
      cases changes : endpoint.changes with
      | false => rfl
      | true =>
        have posted : request.method ∈ endpoint.methods := List.contains_iff_mem.mp fits
        rw [Endpoint.methods, if_pos changes, List.mem_singleton] at posted
        rcases reporting with get | head
        · rw [get] at posted
          revert posted
          decide
        · rw [head] at posted
          revert posted
          decide
    · rfl

/-- The request asks for the options of a path, where pages of any origin may do so. -/
def IsPreflight (sharing : Bool) (request : Request) : Prop :=
  sharing = true ∧ request.method = "OPTIONS"

/-- A question for the options of a path is granted and changes nothing. -/
theorem handle_of_preflight {sharing : Bool} (preflight : IsPreflight sharing request) :
    (handle sharing request monitor).1.isSuccess = true ∧
      (handle sharing request monitor).2 = monitor := by
  obtain ⟨shares, asks⟩ := preflight
  unfold handle
  rw [if_pos shares, if_pos asks]
  refine ⟨?_, rfl⟩
  rw [isSuccess_shared]
  unfold options
  split
  · exact Response.isSuccess_measured _
  · split
    · rfl
    · exact Response.isSuccess_measured _

/-- Any other request is routed; that pages of any origin may read the response makes no
difference to it. -/
theorem handle_of_not_preflight {sharing : Bool} (other : ¬ IsPreflight sharing request) :
    (handle sharing request monitor).1.isSuccess = (route request monitor).1.isSuccess ∧
      (handle sharing request monitor).2 = (route request monitor).2 := by
  unfold handle
  cases sharing with
  | false => exact ⟨rfl, rfl⟩
  | true =>
    have noOptions : request.method ≠ "OPTIONS" := fun asks => other ⟨rfl, asks⟩
    rw [if_pos rfl, if_neg noOptions]
    exact ⟨rfl, rfl⟩

/-- Of all requests just those are answered with a failure that are refused and do not ask for
options. -/
theorem isSuccess_handle_iff (sharing : Bool) (request : Request) (monitor : Monitor) :
    (handle sharing request monitor).1.isSuccess = false ↔
      ¬ IsPreflight sharing request ∧ Refused request monitor := by
  by_cases preflight : IsPreflight sharing request
  · simp [preflight, handle_of_preflight preflight]
  · rw [(handle_of_not_preflight preflight).1, isSuccess_route_iff]
    simp [preflight]

/-- A request that is no success, or that only reports, leaves the monitor and all that it can see
and change as they are. -/
theorem handle_unchanged {sharing : Bool}
    (idle : (handle sharing request monitor).1.isSuccess = false ∨
      request.method = "GET" ∨ request.method = "HEAD") :
    (handle sharing request monitor).2 = monitor := by
  by_cases preflight : IsPreflight sharing request
  · exact (handle_of_preflight preflight).2
  · rw [(handle_of_not_preflight preflight).2]
    rcases idle with refused | reporting
    · exact route_of_refused ((isSuccess_handle_iff sharing request monitor).mp refused).2
    · exact route_of_reporting reporting

/-! ## Services -/

/-- The monitor with its marker, log, processes and tasks, the machine with its scripts, the monitors
that were set up earlier and the builds that were launched are as they were. -/
structure Unchanged (after before : Deployment) : Prop where
  monitor : after.monitor = before.monitor
  machine : after.machine = before.machine
  earlier : after.earlier = before.earlier
  running : after.running = before.running

/-- What leaves the monitor as it is leaves the whole service as it is. -/
theorem unchanged_of_monitor {α : Type} {deployment : Deployment} {act : Monitor → α × Monitor}
    (same : (act deployment.monitor).2 = deployment.monitor) :
    Unchanged (deployment.request act).2 deployment := by
  have quiet (service : Deployment) : service.passSignals service.host.processes.delivered.length =
      service := by
    unfold Deployment.passSignals
    split
    · rw [List.drop_length]
      rfl
    · rfl
  have placed : deployment.setMonitor deployment.currentNumber deployment.monitor =
      { deployment with current := deployment.monitor } := by
    unfold Deployment.setMonitor
    rw [if_pos rfl]
    rfl
  -- No signal was delivered, so there is none to be passed on to the scripts.
  have requested : (deployment.request act).2 =
      { deployment with current := deployment.monitor } := by
    unfold Deployment.request
    dsimp only
    rw [same, placed]
    exact quiet { deployment with current := deployment.monitor }
  rw [requested]
  exact ⟨rfl, rfl, rfl, rfl⟩

/-- A request that is answered with anything but a success, whatever is its cause, and any request
that only reports, leaves the whole service as it is, in any state that the service may be in. It is
no success just if it is refused and does not ask for the options of a path. -/
theorem refused_request_changes_nothing (sharing : Bool) (request : Request)
    (deployment : Deployment) :
    let answered := deployment.request (handle sharing request)
    (answered.1.isSuccess = false ↔
        ¬ IsPreflight sharing request ∧ Refused request deployment.monitor) ∧
      (answered.1.isSuccess = false ∨ request.method = "GET" ∨ request.method = "HEAD" →
        Unchanged answered.2 deployment) :=
  ⟨isSuccess_handle_iff sharing request deployment.monitor,
    fun idle => unchanged_of_monitor (handle_unchanged idle)⟩

/-- A service that has just been set up, on a host without a marker. -/
def freshService : Deployment :=
  .create
    { host := Host.bare .system [] ⟨0, 0⟩
      markerPath := "/m"
      outputDirectory := "/out"
      command := ⟨"/build", "/", []⟩
      sink := LogSink.create "/l" 10
      tasks := [] }

/-- Where no build runs, a request to stop is in conflict with that, and nothing else. -/
theorem freshService_stop_changes_nothing :
    let answered := freshService.request (handle true ⟨"POST", ⟨"/api/build/stop", none⟩⟩)
    answered.1.status = 409 ∧ Unchanged answered.2 freshService := by
  intro answered
  have marker : NamesInRoot "/m" "m" := by decide
  have idle : freshService.monitor.check = .idle :=
    Marker.check_eq_idle_iff.mpr (Marker.missing_of_namesInRoot marker rfl)
  have refused : freshService.monitor.stop = (.error .noBuildRunning, freshService.monitor) := by
    rw [Monitor.stop, idle]
  have found : Endpoint.find? "/api/build/stop" = some .stop := by decide
  have fits : Endpoint.stop.methods.contains "POST" = true := by decide
  have status : answered.1.status = 409 := by
    change (shared (route ⟨"POST", ⟨"/api/build/stop", none⟩⟩ freshService.monitor).1).status = 409
    simp only [route, found, if_pos fits, Endpoint.answer, refused]
    decide
  have failed : answered.1.isSuccess = false := by
    rw [Response.isSuccess, status]
    rfl
  exact ⟨status, (refused_request_changes_nothing true _ freshService).2 (Or.inl failed)⟩

end Http

end BuildMonitor
