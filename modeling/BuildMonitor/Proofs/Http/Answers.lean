import BuildMonitor.Http.Router

/-!
# Answers as they are sent

A request with a method of its endpoint gets the answer of the endpoint: the status and the body as
they are, and all headers, with some more behind them. So what is asked for by such a request can be
read off the endpoint: `handle_get_carries`.

Main definition: `Response.Carries`.
-/

namespace BuildMonitor.Http

/-- A response with the same status and body, and all headers of another. -/
structure Response.Carries (response given : Response) : Prop where
  status : response.status = given.status
  body : response.body = given.body
  headers : given.headers ⊆ response.headers

/-- A header that is added takes none away. -/
theorem Response.Carries.withHeader {response given : Response} (carries : response.Carries given)
    (name value : String) : (response.withHeader name value).Carries given :=
  ⟨carries.status, carries.body, List.subset_append_of_subset_left _ carries.headers⟩

/-- Saying how long the body is takes nothing away. -/
theorem Response.measured_carries (response : Response) : response.measured.Carries response := by
  have same : response.Carries response := ⟨rfl, rfl, List.Subset.refl _⟩
  unfold Response.measured
  split
  · exact same
  · exact same.withHeader _ _

/-- What a request with a method of its endpoint is sent of the answer of the endpoint. -/
theorem handle_get_fst (sharing : Bool) (target : Target) {endpoint : Endpoint}
    (found : Endpoint.find? target.path = some endpoint) (reports : endpoint.changes = false)
    (monitor : Monitor) :
    (handle sharing ⟨"GET", target⟩ monitor).1 =
      (if sharing then shared else id) (endpoint.answer target.query monitor).1.measured := by
  have fits : endpoint.methods.contains "GET" = true := by
    rw [Endpoint.methods, reports]
    rfl
  have routed : (route ⟨"GET", target⟩ monitor).1 =
      (endpoint.answer target.query monitor).1.measured := by
    unfold route
    rw [found]
    dsimp only
    rw [if_pos fits]
    rfl
  rw [← routed]
  cases sharing <;> rfl

/-- A request with a method of its endpoint gets the answer of the endpoint. -/
theorem handle_get_carries (sharing : Bool) (target : Target) {endpoint : Endpoint}
    (found : Endpoint.find? target.path = some endpoint) (reports : endpoint.changes = false)
    (monitor : Monitor) :
    (handle sharing ⟨"GET", target⟩ monitor).1.Carries
      (endpoint.answer target.query monitor).1 := by
  have carries := (endpoint.answer target.query monitor).1.measured_carries
  rw [handle_get_fst sharing target found reports]
  cases sharing with
  | false => exact carries
  | true => exact (carries.withHeader _ _).withHeader _ _

/-- A request for the state is answered with the report of the monitor. -/
theorem handle_status (sharing : Bool) (query : Option String) (monitor : Monitor) :
    (handle sharing ⟨"GET", ⟨"/api/status", query⟩⟩ monitor).1.Carries
      (.json 200 monitor.status.toJson) := by
  have found : Endpoint.find? "/api/status" = some .status := by decide
  exact handle_get_carries sharing ⟨"/api/status", query⟩ found rfl monitor

/-- A request for the log is answered with the report of the monitor. -/
theorem handle_logs (sharing : Bool) {query raw : Option String}
    (read : linesParameter query = .ok raw) (monitor : Monitor) :
    (handle sharing ⟨"GET", ⟨"/api/logs", query⟩⟩ monitor).1.Carries
      (.json 200 (monitor.logs (lineCount raw)).toJson) := by
  have found : Endpoint.find? "/api/logs" = some .logs := by decide
  have carries := handle_get_carries sharing ⟨"/api/logs", query⟩ found rfl monitor
  simp only [Endpoint.answer, read] at carries
  exact carries

end BuildMonitor.Http
