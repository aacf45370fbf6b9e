import BuildMonitor.Cli.Run

/-!
# What a command touches

A command looks at few paths: those where the configuration may lie, and those that the
configuration names. Whoever runs a command on real files needs to know only these, and afterwards
carries out what has become different at them.

Main definitions: `configurationPaths`, `workPaths`, `Change`, `changes`.
-/

namespace BuildMonitor.Cli

open BuildMonitor.Host

/-- The paths at which a command looks for its configuration. -/
def configurationPaths (invocation : Invocation) (directory : Location) : List String :=
  Config.filePaths directory (invocation.config.getD Config.defaultFile)

/-- The paths that a configuration names and a command may look at or change. -/
def workPaths (config : Config) : List String :=
  let output := config.artifacts.outputDirectory
  let logs := match config.logging.directory with
    | none => []
    | some directory => [directory]
  config.build.lockFile :: output :: logs ++
    [Artifact.databaseName, Artifact.archiveName, Artifact.metadataName].map (Path.join output)

/-- What has become different at a path. -/
inductive Change where
  | removed (path : String)
  | directoryMade (path : String)
  | fileMade (path : String)
  deriving DecidableEq, Repr

/-- What has become different at some paths, and in the directory of the service's own log. -/
def changes (before after : Host) (config : Config) : List Change :=
  let paths := workPaths config
  let made := paths.filterMap fun path =>
    match before.files.names before.directory path, after.files.names after.directory path with
    | true, false => some (.removed path)
    | false, true =>
      some (if after.files.isDirectory after.directory path then .directoryMade path
        else .fileMade path)
    | _, _ => none
  let logs := match config.logging.directory with
    | none => []
    | some directory =>
      let path := Path.join directory (serviceLogName ++ rotationSuffix config.logging.rotation after.now)
      if after.files.names after.directory path then [.fileMade path] else []
  made ++ logs

end BuildMonitor.Cli
