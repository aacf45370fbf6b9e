import BuildMonitor.Cli.Arguments
import BuildMonitor.Config.Level
import BuildMonitor.Config.Load
import BuildMonitor.Http.Address
import BuildMonitor.Monitor.Setup
import BuildMonitor.Report.Display

/-!
# Running a command

A command line is run on a host and leaves behind what it has written, the code it exits with, and
the host as it is then. The commands load the configuration, set up a monitor and ask it for one
thing. The server is brought to the point where it listens.

Main definitions: `run`, `Finish`.
-/

namespace BuildMonitor.Cli

open BuildMonitor.Host BuildMonitor.Json

/-- What a run leaves behind. -/
structure Finish where
  exitCode : Nat
  output : String
  errors : String
  host : Host
  deriving Repr

/-- The variable that names the configuration file. -/
def fileVariable : String := "TRIVY_MONITOR_CONFIG"

/-- What a command gives: the text to write, or the words for why it failed, and the host. -/
abbrev Answer := Except String String × Host

/-- A failed command on the standard error stream. -/
def failureText (json : Bool) (message : String) : String :=
  if json then
    (Value.ofMembers [("success", .boolean false), ("message", .text message)]).pretty
  else s!"Error: {message}"

/-- Loads the configuration and sets up a monitor. -/
def openMonitor (host : Host) (environment : Config.Environment) (file : Option String) :
    Except String (Config × Monitor) :=
  match Config.load host environment file with
  | .error error => .error error.message
  | .ok config =>
    match Monitor.ofConfig config host with
    | .error error => .error error.message
    | .ok monitor => .ok (config, monitor)

/-- Shows the state of the build and of the artifacts. -/
def status (json : Bool) (host : Host) (environment : Config.Environment)
    (file : Option String) : Answer :=
  match openMonitor host environment file with
  | .error message => (.error message, host)
  | .ok (_, monitor) =>
    let report := monitor.status
    (.ok (if json then report.document else report.table), host)

/-- Removes a marker that no live process owns. -/
def clearLock (json : Bool) (host : Host) (environment : Config.Environment)
    (file : Option String) : Answer :=
  match openMonitor host environment file with
  | .error message => (.error message, host)
  | .ok (config, monitor) =>
    let cleared := monitor.clearLock
    match cleared.1 with
    | .error error => (.error error.message, cleared.2.host)
    | .ok outcome =>
      let report : ClearReport := ⟨true, outcome.message, config.build.lockFile⟩
      (.ok (if json then report.document else report.line), cleared.2.host)

/-! ## The server -/

/-- The name of the service's own log file. -/
def serviceLogName : String := "trivy-monitor.log"

/-- What the rotation puts behind the name of the log file at a point in time. -/
def rotationSuffix (rotation : Config.Rotation) (now : Instant) : String :=
  let stamp := now.timestamp.toList
  match rotation with
  | .never => ""
  | .daily => "." ++ String.ofList (stamp.take 10)
  | .hourly => "." ++ String.ofList (stamp.take 10 ++ '-' :: (stamp.drop 11).take 2)

/-- Opens the service's own log file, if there is to be one, with the directories above it. -/
def openServiceLog (logging : Config.Logging) (host : Host) : Except IoError Host := do
  match logging.directory with
  | none => return host
  | some directory =>
    let name := serviceLogName ++ rotationSuffix logging.rotation host.now
    let path := Path.join directory name
    let files ← host.files.makeParents host.directory path host.now
    return { host with files := ← files.appendTo host.directory path host.now [] }

/-- Why the service's own log is not started. -/
inductive ServiceLogError where
  | unknownLevel (text : String)
  | file (error : IoError)
  deriving DecidableEq, Repr

/-- The words for a cause. -/
def ServiceLogError.message : ServiceLogError → String
  | .unknownLevel text => Config.Level.unknownMessage text
  | .file error => error.message

/-- Starts the service's own log. The level from which on it logs is read before a file is opened. -/
def startServiceLog (logging : Config.Logging) (host : Host) :
    Except ServiceLogError (Config.Level × Host) :=
  match Config.Level.ofText? logging.level with
  | none => .error (.unknownLevel logging.level)
  | some level => ((openServiceLog logging host).mapError .file).map (level, ·)

/-- The configuration with the flags of the command laid over it. -/
def override (config : Config) (address : Option String) (port : Option Nat) : Config :=
  { config with
    server := { config.server with
      host := address.getD config.server.host
      port := port.getD config.server.port } }

/-- The host with the output directory made. -/
def makeOutput (config : Config) (host : Host) : Except String Host :=
  let directory := config.artifacts.outputDirectory
  match host.files.makeDirectories host.directory directory host.now with
  | .ok files => .ok { host with files := files }
  | .error error => .error s!"Failed to create output directory {directory}: {error.message}"

/-- What the server says once it listens. -/
def listening (address : String) : String := s!"Build monitor listening on {address}"

/-- Brings the server to the point where it listens. What was made on the way stays when a later
step fails. -/
def serve (address : Option String) (port : Option Nat) (host : Host)
    (environment : Config.Environment) (file : Option String) : Answer :=
  match Config.load host environment file with
  | .error error => (.error error.message, host)
  | .ok loaded =>
    let config := override loaded address port
    match Config.validate config with
    | .error cause => (.error cause.message, host)
    | .ok () =>
      match startServiceLog config.logging host with
      | .error error => (.error error.message, host)
      | .ok (_, logged) =>
        match makeOutput config logged with
        | .error message => (.error message, logged)
        | .ok prepared =>
          match Monitor.ofConfig config prepared with
          | .error error => (.error error.message, prepared)
          | .ok _ =>
            match Http.Address.resolve host.addresses config.server.host config.server.port with
            | .error fault => (.error fault.message, prepared)
            | .ok _ => (.ok (listening s!"{config.server.host}:{config.server.port}"), prepared)

/-! ## Command lines -/

/-- Runs a command. -/
def perform (invocation : Invocation) (host : Host) (environment : Config.Environment) : Answer :=
  match invocation.command with
  | .status => status invocation.json host environment invocation.config
  | .clearLock => clearLock invocation.json host environment invocation.config
  | .serve address port => serve address port host environment invocation.config

/-- Runs the command line behind the name of the program. -/
def run (arguments : List String) (environment : Config.Environment) (host : Host) : Finish :=
  match Invocation.read (environment.lookup fileVariable) arguments with
  | .error refusal =>
    if refusal.exitCode = 0 then ⟨0, refusal.message ++ "\n", "", host⟩
    else ⟨refusal.exitCode, "", refusal.message ++ "\n", host⟩
  | .ok invocation =>
    match perform invocation host environment with
    | (.ok text, host) => ⟨0, text ++ "\n", "", host⟩
    | (.error message, host) => ⟨1, "", failureText invocation.json message ++ "\n", host⟩

end BuildMonitor.Cli
