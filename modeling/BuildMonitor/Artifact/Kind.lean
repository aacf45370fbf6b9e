/-!
# Build artifacts

A build leaves three files in its output directory: the database, a compressed archive of it, and a
document that describes it. The archive and the document can be downloaded.

Main definitions: `Kind`, `Kind.fileName`, `Kind.downloadName`.
-/

namespace BuildMonitor.Artifact

/-- The name of the database. -/
def databaseName : String := "trivy.db"

/-- The name of the archive. -/
def archiveName : String := "trivy.db.tar.gz"

/-- The name of the document. -/
def metadataName : String := "metadata.json"

/-- An artifact that can be downloaded. -/
inductive Kind where
  | archive
  | metadata
  deriving DecidableEq, Repr

namespace Kind

/-- The name in the output directory. -/
def fileName : Kind → String
  | .archive => archiveName
  | .metadata => metadataName

/-- The media type. -/
def contentType : Kind → String
  | .archive => "application/gzip"
  | .metadata => "application/json"

/-- The name in messages. -/
def label : Kind → String
  | .archive => "Database file"
  | .metadata => "Metadata file"

/-- The name a download is offered under, with the date of the download. -/
def downloadName (date : String) : Kind → String
  | .archive => s!"trivy-db-{date}.tar.gz"
  | .metadata => s!"metadata-{date}.json"

end Kind

end BuildMonitor.Artifact
