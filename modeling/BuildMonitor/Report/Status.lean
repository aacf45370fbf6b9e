import BuildMonitor.Artifact.Inspect
import BuildMonitor.Build.State

/-!
# Reports

Clients ask for two reports: the state of the build with what is known of the artifacts, and the
most recent lines of the log. On the wire the members of a report stand in the order of its fields.

Main definitions: `StatusReport`, `LogReport`, `StatusReport.toJson`, `LogReport.toJson`.
-/

namespace BuildMonitor

open BuildMonitor.Json BuildMonitor.Artifact

/-- The state of the build and of the artifacts at one time. -/
structure StatusReport where
  build : BuildState
  database : Inventory
  timestamp : String

/-- The most recent lines of the log at one time. -/
structure LogReport where
  lines : List String
  totalLines : Nat
  timestamp : String

/-- The inventory as a member of a report. -/
def Artifact.Inventory.toJson (inventory : Inventory) : Value :=
  .object
    [("db_exists", .boolean inventory.databaseExists),
     ("db_size", .ofOption (inventory.databaseSize.map .ofNat)),
     ("db_mtime", .ofOption (inventory.databaseTime.map .text)),
     ("tar_exists", .boolean inventory.archiveExists),
     ("tar_size", .ofOption (inventory.archiveSize.map .ofNat)),
     ("metadata", .ofOption inventory.metadata),
     ("db_size_formatted", .text inventory.databaseSizeText),
     ("tar_size_formatted", .text inventory.archiveSizeText)]

/-- The report as it is sent. -/
def StatusReport.toJson (report : StatusReport) : Value :=
  .object
    [("build", report.build.toJson),
     ("database", report.database.toJson),
     ("timestamp", .text report.timestamp)]

/-- The report as it is sent. -/
def LogReport.toJson (report : LogReport) : Value :=
  .object
    [("logs", .array (report.lines.map .text)),
     ("total_lines", .ofNat report.totalLines),
     ("timestamp", .text report.timestamp)]

end BuildMonitor
