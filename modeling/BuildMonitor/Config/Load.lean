import BuildMonitor.Config.Decode
import BuildMonitor.Config.Document
import BuildMonitor.Config.Validation
import BuildMonitor.Config.Variable
import BuildMonitor.Config.Wording
import BuildMonitor.Host.Basic
import BuildMonitor.Text.LowerCase

/-!
# Loading the configuration

The configuration is made of layers, each laid over those before it: the defaults, a file, the
variables `OUTPUT_DIR` and `CACHE_DIR`, the variable `PORT`, and the variables whose names start
with the prefix of the program. Names of variables are compared without regard to case.

A relative file name is looked for in the working directory and then in each directory above it. That
there is no such file is no error.

Main definitions: `layers`, `Config.load`, `LoadError.message`.
-/

namespace BuildMonitor.Config

open BuildMonitor.Host BuildMonitor.Text

/-- Variables of the environment, in their order. -/
abbrev Environment := List (String × String)

/-- The configuration file when none is named. -/
def defaultFile : String := "trivy-monitor.yaml"

/-- What the names of the program's own variables start with. -/
def variablePrefix : String := "trivy_monitor_"

/-- Why no configuration was loaded. -/
inductive LoadError where
  /-- The file cannot be read or is no mapping. -/
  | malformed (file : String)
  /-- A value is of the wrong kind. -/
  | unsuitable (file : String) (failure : Failure)
  /-- The values make no sense together. -/
  | invalid (cause : Invalid)
  deriving DecidableEq, Repr

/-- What was being done when a file or its values were refused. -/
def loadingContext (file : String) : String := s!"Failed to load configuration ({file})"

/-- The words for a failure to load. -/
def LoadError.message : LoadError → String
  | .malformed file => loadingContext file
  | .unsuitable file failure => s!"{loadingContext file}: {failure.layeredMessage}"
  | .invalid cause => cause.message

/-! ## Variables -/

/-- Replaces every two underscores, from the left, by a dot. -/
def dotted : List Char → List Char
  | '_' :: '_' :: rest => '.' :: dotted rest
  | character :: rest => character :: dotted rest
  | [] => []

/-- The path of names that a dotted key means; `none` if a name is empty. -/
def keyPath? (key : String) : Option (List String) :=
  let names := splitText '.' (lowerAscii (trim key))
  if names.any (· == "") then none else some names

/-- The key of a variable with a name of its own. -/
def directoryKey? (name : String) : Option String :=
  let lowered := lowerAscii name
  if lowered = "output_dir" ∨ lowered = "cache_dir" then some s!"artifacts.{lowered}" else none

/-- The key of the variable for the port. -/
def portKey? (name : String) : Option String :=
  if lowerAscii name = "port" then some "server.port" else none

/-- The key of a variable of the program's own. -/
def prefixedKey? (name : String) : Option String :=
  let lowered := (lowerAscii name).toList
  if variablePrefix.toList.isPrefixOf lowered then
    some (String.ofList (dotted (lowered.drop variablePrefix.length)))
  else none

/-- The layer of the variables that have a key, laid over each other in their order. -/
def variableLayer (source : Source) (key? : String → Option String)
    (environment : Environment) : Tree :=
  environment.foldl (fun layer entry =>
    match (key? (trim entry.1)).bind keyPath? with
    | some path => layer.merge (Tree.nested source path (treeOfVariable source entry.2))
    | none => layer) (.mapping source [])

/-! ## The file -/

/-- The text of a location. -/
def locationText (location : Location) : String := "/" ++ joinTexts "/" location

/-- The paths at which a file is looked for, in their order: the name itself if it is absolute, else
the name in the working directory and in each directory above it. -/
def filePaths (directory : Location) (name : String) : List String :=
  if Path.isAbsolute name then [name]
  else
    let depth := directory.length
    let above := (List.range (depth + 1)).map fun removed => directory.take (depth - removed)
    above.map fun directory => Path.join (locationText directory) name

/-- The path of the file that a name means, if there is one. -/
def findFile? (host : Host) (name : String) : Option String :=
  (filePaths host.directory name).find? (host.files.isFile host.directory ·)

/-- Drops the components that two paths have in common at their starts. -/
def dropCommon : List Path.Component → List Path.Component →
    List Path.Component × List Path.Component
  | first :: firsts, second :: seconds =>
    if first = second then dropCommon firsts seconds else (first :: firsts, second :: seconds)
  | firsts, seconds => (firsts, seconds)

/-- The name of a file in messages: relative to the working directory where that has fewer
components. -/
def fileDisplay (host : Host) (path : String) : String :=
  let components := Path.components path
  let apart := dropCommon components (Path.components host.workingDirectory)
  let relative := apart.2.map (fun _ => "..") ++ apart.1.map Path.Component.text
  if relative.length < components.length then joinTexts "/" relative else path

/-- The layer of the file; `none` if it is malformed. -/
def fileLayer? (host : Host) (name : String) : Option Tree :=
  match findFile? host name with
  | none => some (.mapping .defaults [])
  | some path =>
    match host.readText path with
    | .error _ => none
    | .ok text => treeOfDocument? (.file (fileDisplay host path)) text

/-! ## Loading -/

/-- The defaults as a layer. -/
def defaultLayer : Tree := Tree.ofJson default.toJson

/-- The layers above the file, lowest first. -/
def variableLayers (environment : Environment) : List Tree :=
  [variableLayer .environment directoryKey? environment,
   variableLayer .environment portKey? environment,
   variableLayer .prefixed prefixedKey? environment]

/-- Lays layers over each other, lowest first. -/
def overlay (layers : List Tree) : Tree := layers.foldl Tree.merge (.mapping .defaults [])

/-- The values of a configuration, before they are checked. -/
def extract (host : Host) (environment : Environment) (file : String) : Except LoadError Config :=
  match fileLayer? host file with
  | none => .error (.malformed file)
  | some layer =>
    (decode .layered (overlay ([defaultLayer, layer] ++ variableLayers environment))).mapError
      (.unsuitable file)

/-- Loads the configuration from a file, or from the one looked for by default. -/
def load (host : Host) (environment : Environment) (file : Option String) :
    Except LoadError Config := do
  let config ← extract host environment (file.getD defaultFile)
  match validate config with
  | .ok () => return config
  | .error cause => throw (.invalid cause)

end BuildMonitor.Config
