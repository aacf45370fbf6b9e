import BuildMonitor.Json.Value

/-!
# Configuration

The configuration has four sections: how the server is reached, which script is run and where it
keeps its marker and its log, where the artifacts are, and how the service itself logs. Every field
has a default.

Main definitions: `Config`, `Config.default`, `Config.toJson`.
-/

namespace BuildMonitor.Config

open BuildMonitor.Json

/-- How the service writes its own log on the standard error stream. -/
inductive LogFormat where
  | json
  | pretty
  deriving DecidableEq, Repr

/-- How often the service starts a new log file. -/
inductive Rotation where
  | daily
  | hourly
  | never
  deriving DecidableEq, Repr

/-- The name of a format in a configuration. -/
def LogFormat.name : LogFormat → String
  | .json => "json"
  | .pretty => "pretty"

/-- The name of a rotation in a configuration. -/
def Rotation.name : Rotation → String
  | .daily => "daily"
  | .hourly => "hourly"
  | .never => "never"

/-- How the server is reached. -/
structure Server where
  host : String
  port : Nat
  corsEnabled : Bool
  deriving DecidableEq, Repr

/-- The script and the files it shares with the monitor. -/
structure Build where
  script : String
  workingDirectory : Option String
  lockFile : String
  logFile : String
  maxLogLines : Nat
  deriving DecidableEq, Repr

/-- Where the artifacts are. -/
structure Artifacts where
  outputDirectory : String
  cacheDirectory : String
  deriving DecidableEq, Repr

/-- How the service logs. -/
structure Logging where
  level : String
  format : LogFormat
  directory : Option String
  stderrEnabled : Bool
  rotation : Rotation
  deriving DecidableEq, Repr

end BuildMonitor.Config

namespace BuildMonitor

open BuildMonitor.Json

/-- The configuration of the monitor. -/
structure Config where
  server : Config.Server
  build : Config.Build
  artifacts : Config.Artifacts
  logging : Config.Logging
  deriving DecidableEq, Repr

namespace Config

/-- The server section with nothing set. -/
def Server.default : Server := ⟨"0.0.0.0", 5000, true⟩

/-- The build section with nothing set. -/
def Build.default : Build :=
  ⟨"build-db-vm.sh", none, "/tmp/build-db-vm.lock", "/tmp/trivy-db-build.log", 1000⟩

/-- The artifacts section with nothing set. -/
def Artifacts.default : Artifacts := ⟨"output", "cache"⟩

/-- The logging section with nothing set. -/
def Logging.default : Logging := ⟨"info", .pretty, none, true, .daily⟩

/-- The configuration with nothing set. -/
def default : Config := ⟨.default, .default, .default, .default⟩

/-- The server section as a document. -/
def Server.toJson (server : Server) : Value :=
  .ofMembers
    [("host", .text server.host), ("port", .ofNat server.port),
     ("enable_cors", .boolean server.corsEnabled)]

/-- The build section as a document. -/
def Build.toJson (build : Build) : Value :=
  .ofMembers
    [("script_path", .text build.script),
     ("working_dir", .ofOption (build.workingDirectory.map .text)),
     ("lock_file", .text build.lockFile), ("log_file", .text build.logFile),
     ("max_log_lines", .ofNat build.maxLogLines)]

/-- The artifacts section as a document. -/
def Artifacts.toJson (artifacts : Artifacts) : Value :=
  .ofMembers
    [("output_dir", .text artifacts.outputDirectory),
     ("cache_dir", .text artifacts.cacheDirectory)]

/-- The logging section as a document. -/
def Logging.toJson (logging : Logging) : Value :=
  .ofMembers
    [("level", .text logging.level), ("format", .text logging.format.name),
     ("log_dir", .ofOption (logging.directory.map .text)),
     ("enable_stderr", .boolean logging.stderrEnabled),
     ("rotation", .text logging.rotation.name)]

/-- The configuration as a document, with every field. -/
def toJson (config : Config) : Value :=
  .ofMembers
    [("server", config.server.toJson), ("build", config.build.toJson),
     ("artifacts", config.artifacts.toJson), ("logging", config.logging.toJson)]

end Config

end BuildMonitor
