import BuildMonitor.Config.Basic
import BuildMonitor.Monitor.Basic

/-!
# Setting up a monitor

A monitor is set up from a configuration on a host. The paths of the marker, the log and the output
directory stay as they are spelled; the call of the script is resolved, and only that can fail.

Main definition: `Monitor.ofConfig`.
-/

namespace BuildMonitor

open BuildMonitor.Host

/-- The call of the script that a configuration asks for. -/
def Config.command (config : Config) (workingDirectory : String) : Except IoError Build.Command :=
  Build.Command.resolve workingDirectory config.build.script config.build.workingDirectory
    config.artifacts.outputDirectory config.artifacts.cacheDirectory

/-- A monitor with an empty log and no tasks. -/
def Monitor.ofConfig (config : Config) (host : Host) : Except IoError Monitor := do
  let command ← config.command host.workingDirectory
  return {
    host := host
    markerPath := config.build.lockFile
    outputDirectory := config.artifacts.outputDirectory
    command := command
    sink := LogSink.create config.build.logFile config.build.maxLogLines
    tasks := [] }

end BuildMonitor
