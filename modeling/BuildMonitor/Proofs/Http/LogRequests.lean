import BuildMonitor.Proofs.Http.Answers
import BuildMonitor.Proofs.Http.Refusals
import BuildMonitor.Proofs.Text.Split

/-!
# Requests for the log

Any query can be read: every percent sign, every sequence of bytes and every number that is none has
a meaning. So a request for the log gets a report, whatever its query says, unless it names the
number of lines more than once: `log_request_answered`. Such a request is refused, even if it says
the same twice: `repeatedLines_refused`.

Main definitions: `queryRead`, `linesGiven`. Main statement: `log_request_answered`.
-/

namespace BuildMonitor.Http

open Text

/-- The part of a query that is read: what stands in front of a fragment. -/
def queryRead (query : String) : String := String.ofList (Target.withoutFragment query.toList)

/-- What a query says of the number of lines, each time that it does. -/
def linesGiven (query : String) : List String :=
  ((pairsOf query).filter (·.1 = linesName)).map Prod.snd

variable {query : String} {target : Target} {monitor : Monitor}

/-- The path and the query of a request for the log. -/
theorem target_eq_of_ofText? (valid : Target.ofText? ("/api/logs?" ++ query) = some target) :
    target = ⟨"/api/logs", some (queryRead query)⟩ := by
  have spelled : ("/api/logs?" ++ query).toList = "/api/logs".toList ++ '?' :: query.toList := by
    simp
  have unbroken : Target.withoutFragment ("/api/logs".toList ++ '?' :: query.toList) =
      "/api/logs".toList ++ '?' :: Target.withoutFragment query.toList := by
    rw [Target.withoutFragment, List.takeWhile_append_of_pos (by simp),
      List.takeWhile_cons_of_pos (by decide), Target.withoutFragment]
  have cut : cutAtFirst '?' (Target.withoutFragment ("/api/logs".toList ++ '?' :: query.toList)) =
      ("/api/logs".toList, some (Target.withoutFragment query.toList)) := by
    rw [unbroken]
    exact cutAtFirst_append (by decide) _
  have path : "/api/logs".toList = '/' :: "api/logs".toList := by decide
  rw [path] at spelled cut
  rw [Target.ofText?] at valid
  split at valid
  · cases valid
  rw [spelled] at valid
  simp only [List.cons_append] at valid cut
  simp only [Target.ofPath?, cut] at valid
  split at valid
  · exact (Option.some.inj valid).symm
  · cases valid

/-- A parameter that is given more than once is an error, and nothing else is. -/
theorem linesParameter_eq (query : String) :
    linesParameter (some query) =
      if (linesGiven query).length ≤ 1 then .ok (linesGiven query).head?
      else .error (.duplicate linesName) := by
  rw [linesParameter, Option.getD_some, linesGiven]
  cases (pairsOf query).filter (·.1 = linesName) with
  | nil => rfl
  | cons first rest =>
    cases rest with
    | nil => rfl
    | cons second others => exact (if_neg (by simp)).symm

/-- The answer to a request for the log. -/
theorem answer_logs (query : String) (monitor : Monitor) :
    (Endpoint.logs.answer (some query) monitor).1 =
      if (linesGiven query).length ≤ 1 then
        .json 200 (monitor.logs (lineCount (linesGiven query).head?)).toJson
      else .plain 400 "Failed to deserialize query string: duplicate field \x60lines\x60" := by
  have read := linesParameter_eq query
  split
  · next once =>
    rw [if_pos once] at read
    simp only [Endpoint.answer, read]
  · next repeated =>
    rw [if_neg repeated] at read
    simp only [Endpoint.answer, read]
    rfl

/-- A request for the log is answered with a report, whatever else its query says, if that names the
number of lines once at most: the number that it names, if it is one, else the usual number. If the
query names it more than once, the request is refused. Neither changes anything, whatever the
service has come to before. -/
theorem log_request_answered (sharing : Bool) (query : String) (target : Target)
    (valid : Target.ofText? ("/api/logs?" ++ query) = some target) (deployment : Deployment) :
    let given := linesGiven (queryRead query)
    let answered := deployment.request (handle sharing ⟨"GET", target⟩)
    (given.length ≤ 1 → answered.1.Carries
      (.json 200 (deployment.monitor.logs (lineCount given.head?)).toJson)) ∧
    (1 < given.length → answered.1.Carries
      (.plain 400 "Failed to deserialize query string: duplicate field \x60lines\x60")) ∧
    Unchanged answered.2 deployment := by
  dsimp only
  obtain rfl := target_eq_of_ofText? valid
  have found : Endpoint.find? "/api/logs" = some .logs := by decide
  have carries := handle_get_carries sharing ⟨"/api/logs", some (queryRead query)⟩ found rfl
    deployment.monitor
  rw [answer_logs] at carries
  refine ⟨fun once => ?_, fun repeated => ?_, ?_⟩
  · rw [if_pos once] at carries
    exact carries
  · rw [if_neg (by omega)] at carries
    exact carries
  · exact unchanged_of_monitor (handle_unchanged (Or.inr (Or.inl rfl)))

/-- A query with a percent sign, a byte that is no text and a number that is none gets a report. -/
theorem log_request_answered_of_odd_query :
    Target.ofText? ("/api/logs?" ++ "x=%FF%&lines=%31ten&&=") =
        some ⟨"/api/logs", some "x=%FF%&lines=%31ten&&="⟩ ∧
      (freshService.request (handle true
        ⟨"GET", ⟨"/api/logs", some "x=%FF%&lines=%31ten&&="⟩⟩)).1.status = 200 := by
  have valid : Target.ofText? ("/api/logs?" ++ "x=%FF%&lines=%31ten&&=") =
      some ⟨"/api/logs", some "x=%FF%&lines=%31ten&&="⟩ := by decide +kernel
  have once : (linesGiven (queryRead "x=%FF%&lines=%31ten&&=")).length ≤ 1 := by decide +kernel
  exact ⟨valid, ((log_request_answered true _ _ valid freshService).1 once).status⟩

/-- A query that names the number of lines twice is refused. -/
theorem repeatedLines_refused :
    Target.ofText? "/api/logs?lines=1&lines=2" =
        some ⟨"/api/logs", some "lines=1&lines=2"⟩ ∧
      (freshService.request (handle true
        ⟨"GET", ⟨"/api/logs", some "lines=1&lines=2"⟩⟩)).1.status = 400 := by
  have found : Endpoint.find? "/api/logs" = some .logs := by decide
  have carries := handle_get_carries true ⟨"/api/logs", some "lines=1&lines=2"⟩ found rfl
    freshService.monitor
  have twice : ¬ (linesGiven "lines=1&lines=2").length ≤ 1 := by decide +kernel
  rw [answer_logs, if_neg twice] at carries
  exact ⟨by decide +kernel, carries.status⟩

end BuildMonitor.Http
