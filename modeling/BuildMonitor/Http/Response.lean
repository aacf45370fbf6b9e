import BuildMonitor.Artifact.Inspect
import BuildMonitor.Json.Printer
import BuildMonitor.Report.Action
import BuildMonitor.Report.Status

/-!
# Responses

A response has a status, headers and a body. Reports are sent as compact JSON, downloads as the
bytes of the file, the rest as plain text or without a body.

Main definitions: `Response`, `Response.ofError`, `Response.download`.
-/

namespace BuildMonitor.Http

open BuildMonitor.Json BuildMonitor.Text BuildMonitor.Host BuildMonitor.Artifact

/-- A response. The names of headers are in lower case. -/
structure Response where
  status : Nat
  headers : List (String × String)
  body : Blob
  deriving DecidableEq, Repr

namespace Response

/-- A response without a body. -/
def bare (status : Nat) : Response := ⟨status, [], Blob.empty⟩

/-- Adds a header behind the others. -/
def withHeader (response : Response) (name value : String) : Response :=
  { response with headers := response.headers ++ [(name, value)] }

/-- Whether a response has a header. -/
def hasHeader (response : Response) (name : String) : Bool :=
  response.headers.any (·.1 == name)

/-- The bytes of a text. -/
def bodyOf (text : String) : Blob := Blob.ofList (Utf8.encode text)

/-- A document. -/
def json (status : Nat) (value : Value) : Response :=
  ⟨status, [("content-type", "application/json")], bodyOf value.compact⟩

/-- A plain text. -/
def plain (status : Nat) (text : String) : Response :=
  ⟨status, [("content-type", "text/plain; charset=utf-8")], bodyOf text⟩

/-- The status of a refusal or failure: a request that does not fit the state of the build is a
conflict, what is missing is not found, and the rest is the fault of the server. -/
def statusOf : MonitorError → Nat
  | .alreadyRunning _ => 409
  | .staleLock _ => 409
  | .markerUnreadable _ => 409
  | .noBuildRunning => 409
  | .buildRunning _ => 409
  | .processNotFound _ => 404
  | .artifactNotFound _ => 404
  | .signalFailed _ _ => 500
  | .markerRemoval _ => 500
  | .spawnFailure _ => 500
  | .streamFailure _ => 500
  | .artifactUnreadable _ => 500

/-- The response to a request that was refused or failed. -/
def ofError (error : MonitorError) : Response :=
  json (statusOf error) (ActionReport.ofError error).toJson

/-- The response to a request that was granted. -/
def granted (message : String) : Response := json 200 (ActionReport.granted message).toJson

/-- An artifact, to be saved under its download name. -/
def download (artifact : Download) : Response :=
  { status := 200
    headers :=
      [("content-type", artifact.kind.contentType),
       ("content-length", toString artifact.size),
       ("content-disposition", s!"attachment; filename=\"{artifact.name}\"")]
    body := artifact.content }

/-- Says how long the body is, unless a header says so already. -/
def measured (response : Response) : Response :=
  if response.hasHeader "content-length" then response
  else response.withHeader "content-length" (toString response.body.size)

/-- Leaves the body out and keeps the headers. -/
def withoutBody (response : Response) : Response := { response with body := Blob.empty }

end Response

end BuildMonitor.Http
