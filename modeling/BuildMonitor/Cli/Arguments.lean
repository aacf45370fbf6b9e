import BuildMonitor.Text.Integer
import BuildMonitor.Text.Split

/-!
# Arguments of the command line

A command line names one command, with flags before and behind it. The flags for the output and for
the configuration file may stand on either side; the flags of a command stand behind its name. A
flag has a long name, most have a short one, and a value may stand behind it or be attached to it.

Arguments are read from left to right, and the first that is wrong decides what is reported. The
configuration file may also come from the environment; the command line goes before it.

Main definitions: `Flag`, `Refusal`, `Invocation.read`.
-/

namespace BuildMonitor.Cli

open BuildMonitor.Text

/-! ## Vocabulary -/

/-- A flag. -/
inductive Flag where
  | json
  | config
  | host
  | port
  | help
  | version
  deriving DecidableEq, Repr

namespace Flag

/-- The name behind two dashes. -/
def long : Flag → String
  | .json => "json"
  | .config => "config"
  | .host => "host"
  | .port => "port"
  | .help => "help"
  | .version => "version"

/-- The letter behind one dash, if there is one. -/
def short? : Flag → Option Char
  | .json => some 'j'
  | .config => some 'c'
  | .host => none
  | .port => some 'p'
  | .help => some 'h'
  | .version => some 'V'

/-- Whether a value belongs to the flag. -/
def takesValue : Flag → Bool
  | .config => true
  | .host => true
  | .port => true
  | _ => false

/-- The flag as messages show it. -/
def display : Flag → String
  | .config => "--config <CONFIG>"
  | .host => "--host <HOST>"
  | .port => "--port <PORT>"
  | flag => "--" ++ flag.long

end Flag

/-- The name of a command. -/
inductive Verb where
  | serve
  | status
  | clearLock
  deriving DecidableEq, Repr

namespace Verb

/-- A verb as it is written. -/
def name : Verb → String
  | .serve => "serve"
  | .status => "status"
  | .clearLock => "clear-lock"

/-- All verbs. -/
def all : List Verb := [.serve, .status, .clearLock]

/-- The verb that a word is. -/
def ofText? (text : String) : Option Verb := all.find? (·.name == text)

end Verb

/-- The word that asks for help in the place of a command. -/
def helpWord : String := "help"

/-- The flags that may stand before a command, or behind a verb. -/
def flagsAt : Option Verb → List Flag
  | none => [.json, .config, .help, .version]
  | some .serve => [.host, .port, .json, .config, .help]
  | some _ => [.json, .config, .help]

/-- Why no command is run. -/
inductive Refusal where
  /-- Help was asked for. -/
  | help
  /-- The version was asked for. -/
  | version
  /-- Nothing was given at all. -/
  | nothing
  /-- No command was given. -/
  | missingCommand
  | unknownCommand (text : String)
  | unknownArgument (text : String)
  | missingValue (flag : Flag)
  | unwantedValue (flag : Flag) (value : String)
  | repeated (flag : Flag)
  | unusableValue (flag : Flag) (value reason : String)
  deriving DecidableEq, Repr

/-- The name of the program. -/
def programName : String := "trivy-monitor"

/-- What the program is. -/
def programTitle : String := "Trivy DB build monitor"

namespace Refusal

/-- The code the program exits with. What was asked for is no failure. -/
def exitCode : Refusal → Nat
  | .help => 0
  | .version => 0
  | _ => 2

/-- The first line of what is written. -/
def message : Refusal → String
  | .help => programTitle
  | .version => s!"{programName} 0.1.0"
  | .nothing => programTitle
  | .missingCommand =>
    s!"error: '{programName}' requires a subcommand but one was not provided"
  | .unknownCommand text => s!"error: unrecognized subcommand '{text}'"
  | .unknownArgument text => s!"error: unexpected argument '{text}' found"
  | .missingValue flag =>
    s!"error: a value is required for '{flag.display}' but none was supplied"
  | .unwantedValue flag value =>
    s!"error: unexpected value '{value}' for '{flag.display}' found; no more were expected"
  | .repeated flag => s!"error: the argument '{flag.display}' cannot be used multiple times"
  | .unusableValue flag value reason =>
    s!"error: invalid value '{value}' for '{flag.display}': {reason}"

end Refusal

/-! ## One side of the verb -/

/-- What the flags on one side of the verb have set. -/
structure Settings where
  json : Bool
  config : Option String
  host : Option String
  port : Option Nat
  deriving DecidableEq, Repr

/-- Nothing is set. -/
def Settings.none : Settings := ⟨false, Option.none, Option.none, Option.none⟩

/-- The greatest port. -/
def greatestPort : Nat := maxUnsigned 16

/-- Reads the value of the port: any integer is understood, and only then its range is looked at. -/
def readPort (value : String) : Except Refusal Nat :=
  match readSigned (maxSigned 64) value.toList with
  | .error cause => .error (.unusableValue .port value cause.message)
  | .ok port =>
    if 0 ≤ port ∧ port ≤ greatestPort then .ok port.toNat
    else .error (.unusableValue .port value s!"{port} is not in 0..={greatestPort}")

/-- Sets what a flag says. A flag is given once, and a path is not empty. -/
def Settings.give (settings : Settings) (flag : Flag) (value : String) :
    Except Refusal Settings :=
  match flag with
  | .json => if settings.json then .error (.repeated .json) else .ok { settings with json := true }
  | .config =>
    if settings.config.isSome then .error (.repeated .config)
    else if value = "" then .error (.missingValue .config)
    else .ok { settings with config := some value }
  | .host =>
    if settings.host.isSome then .error (.repeated .host)
    else .ok { settings with host := some value }
  | .port =>
    if settings.port.isSome then .error (.repeated .port)
    else (readPort value).map fun port => { settings with port := some port }
  | .help => .error .help
  | .version => .error .version

/-- How far one side has been read: what is set, the flag whose value comes next, and whether two
dashes have ended the flags. -/
structure Scan where
  settings : Settings
  awaited : Option Flag
  flagsEnded : Bool
  deriving DecidableEq, Repr

namespace Scan

/-- Nothing has been read. -/
def start : Scan := ⟨Settings.none, none, false⟩

/-- Goes on to something else: a value that is still awaited is missing. -/
def settle (scan : Scan) : Except Refusal Settings :=
  match scan.awaited with
  | some flag => .error (.missingValue flag)
  | none => .ok scan.settings

/-- Takes a flag with what is attached to it. -/
def takeFlag (scan : Scan) (flag : Flag) (attached : Option String) : Except Refusal Scan := do
  match flag.takesValue, attached with
  | false, some value => throw (.unwantedValue flag value)
  | true, none =>
    let settings ← scan.settle
    return { scan with settings := settings, awaited := some flag }
  | _, _ =>
    let settings ← scan.settle
    let given ← settings.give flag (attached.getD "")
    return { scan with settings := given, awaited := none }

/-- Takes a flag by its long name. -/
def takeLong (flags : List Flag) (scan : Scan) (body : List Char) : Except Refusal Scan :=
  let (name, attached) := cutAtFirst '=' body
  match flags.find? (·.long.toList == name) with
  | some flag => scan.takeFlag flag (attached.map String.ofList)
  | none => .error (.unknownArgument ("--" ++ String.ofList name))

/-- The value attached to a short flag; an equals sign between them is passed over. -/
def attachedTo : List Char → Option String
  | [] => none
  | '=' :: rest => some (String.ofList rest)
  | rest => some (String.ofList rest)

/-- Takes flags by their letters. A letter that takes a value takes all that follows it. -/
def takeShort (flags : List Flag) (scan : Scan) : List Char → Except Refusal Scan
  | [] => .ok scan
  | letter :: rest =>
    match flags.find? (·.short? == some letter) with
    | none => .error (.unknownArgument (String.ofList ['-', letter]))
    | some flag =>
      if flag.takesValue then scan.takeFlag flag (attachedTo rest)
      else do
        let taken ← scan.takeFlag flag none
        takeShort flags taken rest

/-- Takes an argument that may be a flag or the value of one; `none` if it is neither. -/
def takeArgument (flags : List Flag) (scan : Scan) (argument : String) :
    Except Refusal (Option Scan) :=
  match argument.toList with
  | ['-', '-'] => .ok (some { scan with flagsEnded := true })
  | '-' :: '-' :: body => (takeLong flags scan body).map some
  | '-' :: letter :: rest => (takeShort flags scan (letter :: rest)).map some
  | _ =>
    match scan.awaited with
    | some flag => do
      let given ← scan.settings.give flag argument
      return some { scan with settings := given, awaited := none }
    | none => .ok none

end Scan

/-- What an argument that fits nowhere is reported as. Before the verb it is taken for one, unless
it is one and only two dashes in front kept it from being seen. -/
def misplaced (verb : Option Verb) (flagsEnded : Bool) (argument : String) : Refusal :=
  let isVerb := (Verb.ofText? argument).isSome || argument == helpWord
  match verb with
  | none => if flagsEnded && isVerb then .unknownArgument argument else .unknownCommand argument
  | some _ => .unknownArgument argument

/-- Reads the arguments behind a verb. -/
def readBehind (verb : Verb) (scan : Scan) : List String → Except Refusal Settings
  | [] => scan.settle
  | argument :: rest =>
    if scan.flagsEnded then .error (misplaced (some verb) true argument)
    else do
      match ← scan.takeArgument (flagsAt (some verb)) argument with
      | some scan => readBehind verb scan rest
      | none => throw (misplaced (some verb) false argument)

/-- What help is given on the words behind a request for it: they must name a command. -/
def helpOn : List String → Refusal
  | [] => .help
  | word :: rest =>
    if (Verb.ofText? word).isSome || word == helpWord then
      match rest with
      | [] => .help
      | next :: _ => .unknownCommand next
    else .unknownCommand word

/-- Reads the arguments before the verb; gives what they set, and the verb with the arguments behind
it if there is one. -/
def readBefore (scan : Scan) : List String →
    Except Refusal (Settings × Option (Verb × List String))
  | [] => scan.settle.map fun settings => (settings, none)
  | argument :: rest =>
    if scan.flagsEnded then .error (misplaced none true argument)
    else if scan.awaited.isNone && argument == helpWord then .error (helpOn rest)
    else
      match scan.awaited, Verb.ofText? argument with
      | none, some verb => .ok (scan.settings, some (verb, rest))
      | _, _ => do
        match ← scan.takeArgument (flagsAt none) argument with
        | some scan => readBefore scan rest
        | none => throw (misplaced none false argument)

/-! ## The command line -/

/-- A command with what belongs to it. -/
inductive Command where
  | serve (host : Option String) (port : Option Nat)
  | status
  | clearLock
  deriving DecidableEq, Repr

/-- A command line that is in order. -/
structure Invocation where
  command : Command
  json : Bool
  config : Option String
  deriving DecidableEq, Repr

/-- The command that a verb and the settings behind it make up. -/
def commandOf (verb : Verb) (settings : Settings) : Command :=
  match verb with
  | .serve => .serve settings.host settings.port
  | .status => .status
  | .clearLock => .clearLock

/-- The configuration file from the environment, if settings leave it open. An empty name is
refused. -/
def fromEnvironment (settings : Settings) (environment : Option String) :
    Except Refusal (Option String) :=
  match settings.config, environment with
  | some _, _ => .ok none
  | none, none => .ok none
  | none, some file => if file = "" then .error (.missingValue .config) else .ok (some file)

/-- The first of some values that is there. -/
def firstGiven : List (Option String) → Option String
  | [] => none
  | some value :: _ => some value
  | none :: rest => firstGiven rest

/-- Reads a command line behind the name of the program. `environment` is the configuration file
that the environment names. -/
def Invocation.read (environment : Option String) (arguments : List String) :
    Except Refusal Invocation := do
  let (before, call) ← readBefore Scan.start arguments
  match call with
  | none =>
    let file ← fromEnvironment before environment
    throw (if before.json || before.config.isSome || file.isSome then .missingCommand else .nothing)
  | some (verb, rest) =>
    let behind ← readBehind verb Scan.start rest
    let _ ← fromEnvironment behind environment
    let _ ← fromEnvironment before environment
    return {
      command := commandOf verb behind
      json := before.json || behind.json
      config := firstGiven [behind.config, before.config, environment] }

end BuildMonitor.Cli
