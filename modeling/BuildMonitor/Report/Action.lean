import BuildMonitor.Json.Value
import BuildMonitor.Monitor.Error

/-!
# What became of a request

A request that changes something is answered by a short report: whether it was granted, a message,
and the process it concerns where a refusal knows one.

Main definitions: `ActionReport`, `ActionReport.toJson`.
-/

namespace BuildMonitor

open BuildMonitor.Json

/-- What became of a request. -/
structure ActionReport where
  success : Bool
  message : String
  pid : Option Nat
  deriving DecidableEq, Repr

namespace ActionReport

/-- The report of a request that was granted. -/
def granted (message : String) : ActionReport := ⟨true, message, none⟩

/-- The report of a request that was refused or failed. -/
def ofError (error : MonitorError) : ActionReport := ⟨false, error.message, error.pid?⟩

/-- The report as it is sent; the process is left out where it is not known. -/
def toJson (report : ActionReport) : Value :=
  .object <|
    [("success", .boolean report.success), ("message", .text report.message)] ++
      match report.pid with
      | some pid => [("pid", .ofNat pid)]
      | none => []

end ActionReport

end BuildMonitor
