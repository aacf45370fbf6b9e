import BuildMonitor.Artifact.Kind
import BuildMonitor.Artifact.SizeText
import BuildMonitor.Host.Basic
import BuildMonitor.Json.Document
import BuildMonitor.Monitor.Error

/-!
# Looking at artifacts

The output directory is looked at afresh for every report and every download. A report never fails:
what cannot be looked at counts as missing. A download fails with a cause, and only a file that does
not exist counts as not found.

Main definitions: `Inventory`, `inspect`, `Download`, `load`.
-/

namespace BuildMonitor.Artifact

open BuildMonitor.Host BuildMonitor.Json

/-- What a report says of the artifacts. -/
structure Inventory where
  databaseExists : Bool
  databaseSize : Option Nat
  databaseTime : Option String
  archiveExists : Bool
  archiveSize : Option Nat
  metadata : Option Value
  databaseSizeText : String
  archiveSizeText : String

/-- An artifact opened for download. -/
structure Download where
  kind : Kind
  name : String
  size : Nat
  content : Blob

/-- What a file operation gave, if it succeeded. -/
def okOnly {α : Type} : Except IoError α → Option α
  | .ok value => some value
  | .error _ => none

/-- The document that describes the database, if it is there and well formed. -/
def readMetadata (host : Host) (outputDirectory : String) : Option Value :=
  match host.read (Path.join outputDirectory metadataName) with
  | .ok content => Value.ofBytes? content.toList
  | .error _ => none

/-- Looks at the output directory. -/
def inspect (host : Host) (outputDirectory : String) : Inventory :=
  let look (name : String) :=
    okOnly (host.files.metadata host.directory (Path.join outputDirectory name))
  let database := look databaseName
  let archive := look archiveName
  let databaseSize := database.map Metadata.size
  let archiveSize := archive.map Metadata.size
  { databaseExists := database.isSome
    databaseSize := databaseSize
    databaseTime := database.map fun found => found.modified.timestamp
    archiveExists := archive.isSome
    archiveSize := archiveSize
    metadata := readMetadata host outputDirectory
    databaseSizeText := sizeText databaseSize
    archiveSizeText := sizeText archiveSize }

/-- Opens an artifact for download, named with a date. -/
def load (host : Host) (outputDirectory : String) (kind : Kind) (date : String) :
    Except MonitorError Download :=
  let path := Path.join outputDirectory kind.fileName
  let unreadable (reason : String) : MonitorError := .artifactUnreadable s!"{path}: {reason}"
  match host.files.node host.directory path with
  | .error error =>
    .error (if error.isNotFound then .artifactNotFound kind.label else unreadable error.message)
  | .ok (_, .file file) =>
    .ok ⟨kind, kind.downloadName date, file.content.size, file.content⟩
  | .ok _ => .error (unreadable "not a regular file")

end BuildMonitor.Artifact
