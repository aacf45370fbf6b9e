import BuildMonitor.Json.Printer
import BuildMonitor.Report.Status
import BuildMonitor.Text.Frame

/-!
# Reports for people

On the command line a report is shown as a table, or as a pretty JSON document with its members in
rising order.

Main definitions: `StatusReport.table`, `StatusReport.document`, `ClearReport`.
-/

namespace BuildMonitor

open BuildMonitor.Json BuildMonitor.Text

namespace StatusReport

/-- The rows that only some states of the build have. -/
def stateRows : BuildState → List (List String)
  | .idle => []
  | .running pid => [["PID", toString pid]]
  | .stale pid => [["PID", toString pid]]
  | .error message => [["Error", message]]

/-- The text for an artifact that may be missing. -/
def presence (found : Bool) (size : String) : String := if found then size else "missing"

/-- The row for a text in the metadata, if there is one of that name. -/
def metadataRow (metadata : Option Value) (label name : String) : List (List String) :=
  match metadata.bind fun document => (document.member? name).bind Value.text? with
  | some text => [[label, text]]
  | none => []

/-- The rows of the table. -/
def rows (report : StatusReport) : List (List String) :=
  let database := report.database
  [["Build", report.build.name]] ++ stateRows report.build ++
    [["Database", presence database.databaseExists database.databaseSizeText],
     ["Archive", presence database.archiveExists database.archiveSizeText]] ++
    (match database.databaseTime with
      | some time => [["Last modified", time]]
      | none => []) ++
    metadataRow database.metadata "Updated at" "UpdatedAt" ++
    metadataRow database.metadata "Next update" "NextUpdate"

/-- What is said below the table. -/
def hint : BuildState → String
  | .stale _ => "\n\nStale lock detected. Run `trivy-monitor clear-lock` to remove it."
  | _ => ""

/-- The report as a table. -/
def table (report : StatusReport) : String :=
  framed ["Field", "Value"] report.rows ++ hint report.build

/-- The report as a document. -/
def document (report : StatusReport) : String := report.toJson.sorted.pretty

end StatusReport

/-- What became of a request on the command line to clear the marker. -/
structure ClearReport where
  success : Bool
  message : String
  lockFile : String
  deriving DecidableEq, Repr

namespace ClearReport

/-- The report as a line. -/
def line (report : ClearReport) : String := s!"{report.message} ({report.lockFile})"

/-- The report as a document. -/
def document (report : ClearReport) : String :=
  (Value.ofMembers
    [("success", .boolean report.success), ("message", .text report.message),
     ("lock_file", .text report.lockFile)]).pretty

end ClearReport

end BuildMonitor
