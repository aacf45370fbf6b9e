import BuildMonitor.Http.Query
import BuildMonitor.Http.Response
import BuildMonitor.Http.Target
import BuildMonitor.Monitor.Basic

/-!
# Requests over HTTP

Each endpoint has one path and one method; a path that only reports also answers requests for the
headers alone. Paths are compared as they are written. A request that fits no endpoint, or the wrong
method for one, changes nothing.

Pages of any origin may be allowed to read the responses. Then every response says so, and a request
for the options of a path is answered at once.

Main definitions: `Request.ofParts?`, `Endpoint`, `Endpoint.answer`, `handle`.
-/

namespace BuildMonitor.Http

open BuildMonitor.Artifact

/-! ## Requests -/

/-- A request. No header changes an answer, so none is kept. -/
structure Request where
  method : String
  target : Target
  deriving DecidableEq, Repr

/-- Whether a character may stand in the name of a method or header. -/
def isTokenCharacter (character : Char) : Bool :=
  character.isAlphanum ||
    ['!', '#', '$', '%', '&', '\x27', '*', '+', '-', '.', '^', '_', '\x60', '|', '~'].contains
      character

/-- Whether a text is the name of a method or header. -/
def isToken (text : String) : Bool := text != "" && text.toList.all isTokenCharacter

/-- Whether a character may stand in the value of a header. -/
def isValueCharacter (character : Char) : Bool :=
  character = '\t' || (0x20 ≤ character.toNat && character.toNat != 0x7F)

/-- Whether a header is well formed. -/
def isHeader (header : String × String) : Bool :=
  isToken header.1 && header.2.toList.all isValueCharacter

/-- The request with a method, a target and headers, if they are well formed. -/
def Request.ofParts? (method target : String) (headers : List (String × String)) :
    Option Request :=
  if isToken method && headers.all isHeader then
    (Target.ofText? target).map fun target => ⟨method, target⟩
  else none

/-! ## Endpoints -/

/-- What can be asked of the service. -/
inductive Endpoint where
  | status
  | logs
  | build
  | stop
  | clearLock
  | download (kind : Kind)
  | health
  deriving DecidableEq, Repr

namespace Endpoint

/-- All endpoints. -/
def all : List Endpoint :=
  [.status, .logs, .build, .stop, .clearLock, .download .archive, .download .metadata, .health]

/-- The path of an endpoint. -/
def path : Endpoint → String
  | .status => "/api/status"
  | .logs => "/api/logs"
  | .build => "/api/build"
  | .stop => "/api/build/stop"
  | .clearLock => "/api/clear-lock"
  | .download .archive => "/api/download/db"
  | .download .metadata => "/api/download/metadata"
  | .health => "/health"

/-- Whether a request to an endpoint may change something. -/
def changes : Endpoint → Bool
  | .build => true
  | .stop => true
  | .clearLock => true
  | _ => false

/-- The methods of an endpoint. -/
def methods (endpoint : Endpoint) : List String :=
  if endpoint.changes then ["POST"] else ["GET", "HEAD"]

/-- The methods of an endpoint in the form of a header. -/
def allowed (endpoint : Endpoint) : String := Text.joinTexts "," endpoint.methods

/-- The endpoint at a path. -/
def find? (path : String) : Option Endpoint := all.find? (·.path == path)

/-- The response to a request that may have been refused. -/
def settled {α : Type} (outcome : Except MonitorError α) (respond : α → Response) : Response :=
  match outcome with
  | .ok value => respond value
  | .error error => .ofError error

/-- Answers a request with a method that fits. -/
def answer (endpoint : Endpoint) (query : Option String) (monitor : Monitor) :
    Response × Monitor :=
  match endpoint with
  | .status => (.json 200 monitor.status.toJson, monitor)
  | .logs =>
    match linesParameter query with
    | .ok raw => (.json 200 (monitor.logs (lineCount raw)).toJson, monitor)
    | .error error => (.plain 400 error.message, monitor)
  | .build =>
    let started := monitor.start
    (settled started.1 fun _ => .granted "Build started successfully", started.2)
  | .stop =>
    let stopped := monitor.stop
    (settled stopped.1 fun pid =>
      .granted s!"Stop signal sent to build process (PID: {pid})", stopped.2)
  | .clearLock =>
    let cleared := monitor.clearLock
    (settled cleared.1 fun outcome => .granted outcome.message, cleared.2)
  | .download kind => (settled (monitor.artifact kind) .download, monitor)
  | .health => (.plain 200 "OK", monitor)

end Endpoint

/-! ## Routing -/

/-- The response to a request that fits no endpoint. Only a target that is no path at all is told
that there is no body. -/
def missing (target : Target) : Response :=
  if Host.Path.isAbsolute target.path then .bare 404 else (Response.bare 404).measured

/-- Answers a request. -/
def route (request : Request) (monitor : Monitor) : Response × Monitor :=
  match Endpoint.find? request.target.path with
  | none => (missing request.target, monitor)
  | some endpoint =>
    if endpoint.methods.contains request.method then
      let answered := endpoint.answer request.target.query monitor
      let response := answered.1.measured
      (if request.method = "HEAD" then response.withoutBody else response, answered.2)
    else (((Response.bare 405).withHeader "allow" endpoint.allowed).measured, monitor)

/-- Says that pages of any origin may read a response. -/
def shared (response : Response) : Response :=
  (response.withHeader "vary"
      "origin, access-control-request-method, access-control-request-headers").withHeader
    "access-control-allow-origin" "*"

/-- The response to a request for the options of a path, when pages of any origin are allowed. -/
def options (target : Target) : Response :=
  let granted :=
    ((Response.bare 200).withHeader "access-control-allow-methods" "*").withHeader
      "access-control-allow-headers" "*"
  match Endpoint.find? target.path with
  | some endpoint => (granted.withHeader "allow" endpoint.allowed).measured
  | none => if Host.Path.isAbsolute target.path then granted else granted.measured

/-- Answers a request; `sharing` says whether pages of any origin are allowed. -/
def handle (sharing : Bool) (request : Request) (monitor : Monitor) : Response × Monitor :=
  if sharing then
    if request.method = "OPTIONS" then (shared (options request.target), monitor)
    else
      let routed := route request monitor
      (shared routed.1, routed.2)
  else route request monitor

end BuildMonitor.Http
