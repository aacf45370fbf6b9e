import BuildMonitor.Config.Basic
import BuildMonitor.Config.Level
import BuildMonitor.Host.Path

/-!
# Valid configurations

A configuration whose fields have the right kinds may still make no sense. Five things are checked,
in a fixed order, and the first that is wrong is reported.

The marker and the log must be different paths, compared component by component: the log is removed
at the start of a build, and the marker must survive that.

Main definitions: `Config.Invalid`, `Config.validate`.
-/

namespace BuildMonitor.Config

open BuildMonitor.Host BuildMonitor.Text

/-- The greatest number of lines the log may keep. -/
def greatestLogLines : Nat := 1000

/-- Why a configuration makes no sense. -/
inductive Invalid where
  | emptyScriptPath
  | lockAndLogCollide
  | maxLogLines (value : Nat)
  | port (value : Nat)
  | logLevel (value : String)
  deriving DecidableEq, Repr

/-- The words for a cause. -/
def Invalid.message : Invalid → String
  | .emptyScriptPath => "Build script path cannot be empty"
  | .lockAndLogCollide => "Lock file and log file must be different paths"
  | .maxLogLines value =>
    s!"Invalid max_log_lines: {value}. Must be between 1 and {greatestLogLines}"
  | .port value => s!"Invalid port: {value}"
  | .logLevel value =>
    s!"Invalid log level: {value}. Must be one of: trace, debug, info, warn, error"

/-- Checks a configuration. -/
def validate (config : Config) : Except Invalid Unit :=
  if config.build.script = "" then .error .emptyScriptPath
  else if Path.same config.build.lockFile config.build.logFile then .error .lockAndLogCollide
  else if config.build.maxLogLines = 0 ∨ greatestLogLines < config.build.maxLogLines then
    .error (.maxLogLines config.build.maxLogLines)
  else if config.server.port = 0 then .error (.port config.server.port)
  else if !Level.words.contains (lower config.logging.level) then
    .error (.logLevel config.logging.level)
  else .ok ()

end BuildMonitor.Config
