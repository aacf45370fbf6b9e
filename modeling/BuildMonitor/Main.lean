import BuildMonitor.Build.Marker
import BuildMonitor.Cli.Footprint

/-!
# The command line

Brings the surroundings of a command in from the system, runs the command on them, writes what it
says, and carries out what it has changed. Nothing is decided here: which paths matter and what
becomes of them is said by `Cli.configurationPaths`, `Cli.workPaths` and `Cli.changes`.
-/

open BuildMonitor BuildMonitor.Host BuildMonitor.Text

namespace BuildMonitor.Main

/-- The variables of the process. -/
def readEnvironment : IO Config.Environment := do
  let content ← IO.FS.readBinFile "/proc/self/environ"
  let entries := splitOn (· == 0) content.toList
  return entries.filterMap fun entry =>
    match cutAtFirst '=' (Utf8.decodeLossy entry).toList with
    | (name, some value) => some (String.ofList name, String.ofList value)
    | _ => none

/-- The time, which a fresh entry of the table of processes carries. -/
def readClock : IO Instant := do
  let stamp := (← (← IO.FS.realPath "/proc/self/stat").metadata).modified
  return ⟨stamp.sec, stamp.nsec.toNat⟩

/-- Takes what lies at a path into a host; what cannot be looked at counts as missing. -/
def takeIn (host : Host) (path : String) : IO Host := do
  try
    let info ← (← IO.FS.realPath path).metadata
    let modified : Instant := ⟨info.modified.sec, info.modified.nsec.toNat⟩
    let files ← match info.type with
      | .dir =>
        pure (host.files.makeDirectories host.directory path modified)
      | _ =>
        let content ← IO.FS.readBinFile path
        pure (host.files.put host.directory path
          ⟨Blob.ofList content.toList, false, modified⟩)
    return (host.settle files).2
  catch _ => return host

/-- Whether there is something at a path. -/
def isThere (path : String) : IO Bool := do
  try
    discard (IO.FS.realPath path)
    return true
  catch _ => return false

/-- Takes the process that a marker names into a host, if it exists. -/
def takeProcess (host : Host) (marker : String) : IO Host := do
  match (host.readText marker).toOption.bind fun content => (Marker.pidOf content).toOption with
  | none => return host
  | some pid =>
    if ← isThere s!"/proc/{pid}" then
      return { host with processes := host.processes.setAlive pid true }
    else return host

/-- Carries out a change. -/
def carryOut (change : Cli.Change) : IO Unit :=
  match change with
  | .removed path => IO.FS.removeFile path
  | .directoryMade path => IO.FS.createDirAll path
  | .fileMade path => do
    (← IO.FS.Handle.mk path .append).flush

/-- The surroundings of a command, and the configuration it will use if there is one. -/
def takeSurroundings (invocation : Cli.Invocation) (environment : Config.Environment) :
    IO (Host × Option Config) := do
  let directory := (splitText '/' (← IO.currentDir).toString).filter (· != "")
  let bare := Host.bare .system directory (← readClock)
  let made := (bare.settle (bare.files.makeDirectories [] bare.workingDirectory bare.now)).2
  let host ← (Cli.configurationPaths invocation directory).foldlM takeIn made
  let file := invocation.config.getD Config.defaultFile
  match Config.extract host environment file with
  | .error _ => return (host, none)
  | .ok config =>
    let host ← (Cli.workPaths config).foldlM takeIn host
    return (← takeProcess host config.build.lockFile, some config)

/-- Writes what a run leaves behind. -/
def finish (result : Cli.Finish) : IO UInt32 := do
  (← IO.getStdout).putStr result.output
  (← IO.getStderr).putStr result.errors
  return result.exitCode.toUInt32

end BuildMonitor.Main

open BuildMonitor.Main in
/-- Runs the command line. -/
def main (arguments : List String) : IO UInt32 := do
  let environment ← readEnvironment
  match Cli.Invocation.read (environment.lookup Cli.fileVariable) arguments with
  | .error _ => finish (Cli.run arguments environment (Host.bare .system [] default))
  | .ok invocation =>
    let (host, config) ← takeSurroundings invocation environment
    let result := Cli.run arguments environment host
    for config in config.toList do
      (Cli.changes host result.host config).forM carryOut
    finish result
