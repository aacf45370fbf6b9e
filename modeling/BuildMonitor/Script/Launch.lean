import BuildMonitor.Script.Condition
import BuildMonitor.Script.Expansion
import BuildMonitor.Script.Machine

/-!
# Starting programs

A process becomes a program by a name or a path. The programs known are the shell and the few tools
that builds use; any other file must be executable and say in its first line which program runs it.

Programs that only look at their arguments and at files are over as soon as they start.

Main definitions: `Machine.become`, `Machine.becomeFile`, `LaunchFault`.
-/

namespace BuildMonitor.Script

open BuildMonitor.Host

/-- Why nothing could be started. -/
inductive LaunchFault where
  /-- The system refused. -/
  | refused (cause : IoError)
  /-- The file does not say what runs it. -/
  | plainText (content : List UInt8)
  deriving DecidableEq, Repr

/-- The cause for which a process is not started. -/
def LaunchFault.cause : LaunchFault → IoError
  | .refused cause => cause
  | .plainText _ => .os .execFormat

/-- The programs known. -/
def programNames : List String :=
  ["sh", "dash", "env", "sleep", "cat", "head", "tr", "rm", "mkdir", "true", "false", "echo",
   "printf", "test", "[", "pwd", "kill"]

/-- The directories that programs lie in. -/
def programDirectories : List String := ["/bin/", "/usr/bin/"]

/-- The program that a name or a path means. -/
def programOf? (text : Octets) : Option String :=
  programNames.find? fun name =>
    text == name.toList || programDirectories.any fun directory =>
      text == directory.toList ++ name.toList

/-- The arguments of a program, and the variables passed on to it. -/
structure Call where
  arguments : List Octets
  environment : List Binding

/-! ## First lines -/

/-- Whether a byte is a space or a tab. -/
def isBlankByte (byte : UInt8) : Bool := byte = 32 || byte = 9

/-- The program, and the argument for it if there is one, that the first line of a file names. -/
def interpreterOf? (content : List UInt8) : Option (Octets × Option Octets) :=
  match content with
  | 35 :: 33 :: rest =>
    let line := (rest.takeWhile (· != 10)).dropWhile isBlankByte
    let name := line.takeWhile (!isBlankByte ·)
    let behind := (line.drop name.length).dropWhile isBlankByte
    let argument := (behind.reverse.dropWhile isBlankByte).reverse
    if name.isEmpty then none
    else some (Octets.ofBytes name,
      if argument.isEmpty then none else some (Octets.ofBytes argument))
  | _ => none

/-! ## Tools -/

/-- The length of a pause in nanoseconds, written with a point and a unit. -/
def durationOf? (text : Octets) : Option Nat :=
  let digits := text.takeWhile Char.isDigit
  let behind := text.drop digits.length
  let (fraction, behind) := match behind with
    | '.' :: rest => (rest.takeWhile Char.isDigit, rest.dropWhile Char.isDigit)
    | rest => ([], rest)
  let unit? := match behind with
    | [] => some 1
    | ['s'] => some 1
    | ['m'] => some 60
    | ['h'] => some 3600
    | ['d'] => some 86400
    | _ => none
  if digits.isEmpty && fraction.isEmpty then none
  else
    let valueOf (text : Octets) := Text.ofDigits (text.filterMap Text.digitValue?)
    let nine := fraction.take 9 ++ List.replicate (9 - fraction.length) '0'
    unit?.map fun unit => (valueOf digits * 1000000000 + valueOf nine) * unit

/-- The sum of pauses, or the first that is none. -/
def pauseOf (arguments : List Octets) : Except Octets Nat :=
  arguments.foldlM (fun total argument =>
    match durationOf? argument with
    | some duration => .ok (total + duration)
    | none => .error argument) 0

/-- What a tool that is over at once has done. -/
structure ToolResult where
  output : Octets
  errors : Octets
  status : Nat
  files : Files

/-- Whether an argument is an option made of letters. -/
def isOption (argument : Octets) : Bool :=
  match argument with
  | '-' :: _ :: _ => argument != ['-', '-']
  | _ => false

/-- Splits arguments into options and the rest. -/
def splitOptions : List Octets → List Octets × List Octets
  | [] => ([], [])
  | argument :: rest =>
    if argument = ['-', '-'] then ([], rest)
    else
      let others := splitOptions rest
      if isOption argument then (argument :: others.1, others.2)
      else (others.1, argument :: others.2)

/-- Whether an option letter was given. -/
def hasOption (options : List Octets) (letters : List Char) : Bool :=
  options.any fun option => letters.any option.contains

/-- A line of a message. -/
def messageLine (text : String) : Octets := Octets.ofText (text ++ "\n")

/-- What a tool says that was given nothing to work on. -/
def missingOperand (host : Host) (name : String) : ToolResult :=
  ⟨[], messageLine s!"{name}: missing operand\nTry '{name} --help' for more information.", 1,
    host.files⟩

/-- Removes files, and directories with all that is in them if asked to. -/
def removeAll (host : Host) (directory : Location) (arguments : List Octets) : ToolResult :=
  let (options, paths) := splitOptions arguments
  let forced := hasOption options ['f']
  let deep := hasOption options ['r', 'R']
  if paths.isEmpty && !forced then missingOperand host "rm"
  else paths.foldl (fun result path =>
    let name := path.toText
    let fail (reason : String) : ToolResult := { result with
      errors := result.errors ++ messageLine s!"rm: cannot remove '{name}': {reason}"
      status := 1 }
    let outcome :=
      if deep then result.files.removeTree directory name else result.files.unlink directory name
    match outcome with
    | .ok files => { result with files := files }
    | .error cause =>
      if forced && Machine.isMissing cause then result else fail (Machine.causeText cause))
    ⟨[], [], 0, host.files⟩

/-- Makes directories, with those above them if asked to. -/
def makeAll (host : Host) (directory : Location) (arguments : List Octets) : ToolResult :=
  let (options, paths) := splitOptions arguments
  let deep := hasOption options ['p']
  if paths.isEmpty then missingOperand host "mkdir"
  else paths.foldl (fun result path =>
    let name := path.toText
    let outcome :=
      if deep then result.files.makeDirectories directory name host.now
      else result.files.makeDirectory directory name host.now
    match outcome with
    | .ok files => { result with files := files }
    | .error cause => { result with
      errors := result.errors ++
        messageLine s!"mkdir: cannot create directory '{name}': {Machine.causeText cause}"
      status := 1 })
    ⟨[], [], 0, host.files⟩

/-- Answers the questions of a condition about files. -/
def aboutFile (host : Host) (directory : Location) (question : Char) (path : Octets) : Bool :=
  let found := host.files.node directory path.toText
  match question, found with
  | 'h', _ => isLink
  | 'L', _ => isLink
  | _, .error _ => false
  | 'f', .ok (_, .file _) => true
  | 'd', .ok (_, node) => node.isDirectory
  | 's', .ok (_, .file file) => 0 < file.content.size
  | 's', .ok (_, node) => node.isDirectory
  | 'x', .ok (_, .file file) => file.executable
  | 'x', .ok (_, node) => node.isDirectory
  | 'c', .ok (_, .device _) => true
  | question, .ok _ => ['e', 'r', 'w', 'O', 'G'].contains question
where
  isLink : Bool :=
    match host.files.resolve directory false path.toText with
    | .ok (.found _ (.link _)) => true
    | _ => false

/-- The status of a condition with what it complains about. -/
def judged (judgement : Judgement) : Nat × Option String :=
  match judgement with
  | .ok true => (0, none)
  | .ok false => (1, none)
  | .error fault => (2, some fault.message)

/-! ## Becoming a program -/

/-- Where a call of the shell takes its commands from, and how it is set up. -/
structure ShellSetup where
  exitsOnFailure : Bool
  strict : Bool
  traced : Bool
  literalPaths : Bool
  /-- The next argument is a command. -/
  fromArgument : Bool
  /-- The commands are read from the standard input. -/
  fromInput : Bool
  rest : List Octets

/-- Reads the options of a call of the shell. -/
def shellSetup (setup : ShellSetup) : List Octets → ShellSetup
  | [] => { setup with rest := [] }
  | argument :: rest =>
    match argument with
    | ['-', '-'] => { setup with rest := rest }
    | '-' :: letters =>
      if letters.isEmpty then { setup with rest := argument :: rest }
      else shellSetup { setup with
        exitsOnFailure := setup.exitsOnFailure || letters.contains 'e'
        strict := setup.strict || letters.contains 'u'
        traced := setup.traced || letters.contains 'x'
        literalPaths := setup.literalPaths || letters.contains 'f'
        fromArgument := setup.fromArgument || letters.contains 'c'
        fromInput := setup.fromInput || letters.contains 's' } rest
    | _ => { setup with rest := argument :: rest }

/-- The text of a location. -/
def locationPath (location : Location) : Octets :=
  Octets.ofText ("/" ++ Text.joinTexts "/" location)

/-- The variable that holds the path of the working directory. -/
def pathVariable : Octets := "PWD".toList

/-- The variable that holds the process that started the script. -/
def parentVariable : Octets := "PPID".toList

/-- A script at its start. -/
def Shell.create (pid : Nat) (directory : Location) (callName : Octets) (call : Call)
    (setup : ShellSetup) (task : Task) : Shell :=
  { scope :=
      { callName := callName
        arguments := call.arguments
        bindings := call.environment.filter (·.name != pathVariable) ++
          [⟨pathVariable, locationPath directory, false⟩]
        status := 0
        mainPid := pid
        backgroundPid := none
        strict := setup.strict
        exitsOnFailure := setup.exitsOnFailure
        traced := setup.traced
        literalPaths := setup.literalPaths }
    tasks := [task]
    functions := []
    handlers := []
    pending := []
    path := locationPath directory
    line := 1
    label := []
    outputStatus := none
    known := [] }

namespace Machine

/-- Ends a process with an exit code after it has written something. -/
def exitAfter (machine : Machine) (pid : Nat) (output errors : Octets) (status : Nat) : Machine :=
  let machine := (machine.write pid 1 output.toBytes).2
  let machine := (machine.write pid 2 errors.toBytes).2
  match machine.find? pid with
  | some process =>
    if process.ended.isSome then machine else machine.finish pid (.exited status)
  | none => machine

/-- Lets a process run something else. Signals are handled as at the start again. -/
def setBody (machine : Machine) (pid : Nat) (body : Body) : Machine :=
  machine.update pid fun process => { process with body := body }

/-- Starts a shell in a process. -/
def becomeShell (machine : Machine) (pid : Nat) (directory : Location) (called : Octets)
    (call : Call) : Machine :=
  let setup := shellSetup ⟨false, false, false, false, false, false, []⟩ call.arguments
  let parent := match (machine.find? pid).map ScriptProcess.parent with
    | some (parent + 1) => parent + 1
    | _ => firstPid - 1
  let environment := call.environment.filter (·.name != parentVariable) ++
    [⟨parentVariable, Octets.ofNat parent, false⟩]
  let start (name : Octets) (arguments : List Octets) (task : Task) :=
    machine.setBody pid (.shell
      (Shell.create pid directory name ⟨arguments, environment⟩ setup task))
  if setup.fromInput && !setup.fromArgument then start called setup.rest (.gather [])
  else
  match setup.fromArgument, setup.rest with
  | true, [] => machine.exitAfter pid [] (messageLine s!"{called.toText}: 0: -c requires an argument") 2
  | true, [text] => start called [] (.script (.start text) true)
  | true, text :: name :: arguments => start name arguments (.script (.start text) true)
  | false, [] => start called [] (.gather [])
  | false, file :: arguments =>
    match machine.host.files.read directory file.toText with
    | .ok content =>
      start file arguments (.script (.start (Octets.ofBytes content.toList)) false)
    | .error cause =>
      let reason := (OpenFault.inspect file cause).message
      machine.exitAfter pid [] (messageLine s!"{called.toText}: 0: {reason}") 2

/-- Starts a filter that reads files, or the standard input if none is named. -/
def becomeFilter (machine : Machine) (pid : Nat) (name : String) (filter : Filter)
    (inputs : List Octets) : Machine :=
  machine.setBody pid (.program
    (.filtering name filter (if inputs.isEmpty then [['-']] else inputs) 0))

/-- The filter that the arguments of `head` ask for, and the files it reads. -/
def headFilter? (filter : Filter) : List Octets → Option (Filter × List Octets)
  | [] => some (filter, [])
  | ['-', 'c'] :: digits :: rest =>
    (Scope.number? digits).bind fun count => headFilter? (.headBytes count) rest
  | ['-', 'n'] :: digits :: rest =>
    (Scope.number? digits).bind fun count => headFilter? (.headLines count) rest
  | ('-' :: 'c' :: digits) :: rest =>
    (Scope.number? digits).bind fun count => headFilter? (.headBytes count) rest
  | ('-' :: 'n' :: digits) :: rest =>
    (Scope.number? digits).bind fun count => headFilter? (.headLines count) rest
  | ('-' :: digit :: digits) :: rest =>
    (Scope.number? (digit :: digits)).bind fun count => headFilter? (.headLines count) rest
  | inputs => some (filter, inputs)

/-- Starts `tr`. -/
def becomeReplacing (machine : Machine) (pid : Nat) (arguments : List Octets) : Machine :=
  let (options, sets) := splitOptions arguments
  let filter? := byteMap? (hasOption options ['c', 'C']) (hasOption options ['d'])
    (hasOption options ['s']) sets
  match filter? with
  | some byteMap => machine.becomeFilter pid "tr" (.replacing byteMap none) []
  | none => machine.exitAfter pid []
      (messageLine "tr: missing operand\nTry 'tr --help' for more information.") 1

/-- Starts `sleep`. -/
def becomeSleep (machine : Machine) (pid : Nat) (arguments : List Octets) : Machine :=
  let help := "Try 'sleep --help' for more information."
  match arguments, pauseOf arguments with
  | [], _ => machine.exitAfter pid [] (messageLine s!"sleep: missing operand\n{help}") 1
  | ('-' :: letter :: _) :: _, _ =>
    machine.exitAfter pid [] (messageLine s!"sleep: invalid option -- '{letter}'\n{help}") 1
  | _, .ok pause => machine.setBody pid (.program (.sleeping (machine.host.now.later pause)))
  | _, .error text =>
    machine.exitAfter pid [] (messageLine
      s!"sleep: invalid time interval '{text.toText}'\n{help}") 1

/-- Runs a tool that changes files. -/
def runTool (machine : Machine) (pid : Nat) (result : ToolResult) : Machine :=
  ({ machine with host := { machine.host with files := result.files } }).exitAfter pid
    result.output result.errors result.status

/-- Why a signal was not sent. -/
inductive SignalFault where
  /-- The target is no number. -/
  | illegalNumber (text : Octets)
  /-- There is no such process. -/
  | noSuchProcess
  deriving DecidableEq, Repr

/-- The words for why a signal was not sent. -/
def SignalFault.message : SignalFault → String
  | .illegalNumber text => s!"Illegal number: {text.toText}"
  | .noSuchProcess => "No such process"

/-- Sends a signal to each of some processes by number, up to the first target that is no number. -/
def signalAll (machine : Machine) (number : Nat) : List Octets → Machine × List SignalFault
  | [] => (machine, [])
  | target :: rest =>
    match Scope.number? target with
    | none => (machine, [.illegalNumber target])
    | some pid =>
      if (machine.find? pid).isSome then (machine.signal pid number).signalAll number rest
      else
        let (machine, faults) := machine.signalAll number rest
        (machine, .noSuchProcess :: faults)

/-- What the arguments of `kill` ask for. -/
inductive KillRequest where
  | send (number : Nat) (targets : List Octets)
  /-- The name of the signal behind a number. -/
  | nameOf (number : Octets)
  /-- Nothing that makes sense. -/
  | help
  | badOption (letter : Char)
  | badSignal (text : Octets)
  deriving DecidableEq, Repr

/-- The request to send a signal to some targets, if there are any. -/
def KillRequest.sending (number : Nat) (targets : List Octets) : KillRequest :=
  if targets.isEmpty then .help else .send number targets

/-- Reads the arguments of `kill`. -/
def KillRequest.ofArguments : List Octets → KillRequest
  | ['-', '-'] :: targets => .sending terminationSignal targets
  | ['-', 's'] :: name :: targets =>
    match signalNumber? name with
    | some number => .sending number targets
    | none => .badSignal name
  | [['-', 'l'], number] => .nameOf number
  | ('-' :: letter :: name) :: targets =>
    match signalNumber? (letter :: name) with
    | some number => .sending number targets
    | none => .badOption letter
  | targets => .sending terminationSignal targets

/-- Lets a process become a program that is known by name. `called` is how it was called. -/
def becomeProgram (machine : Machine) (pid : Nat) (directory : Location) (program : String)
    (called : Octets) (call : Call) : Machine :=
  let host := machine.host
  let arguments := call.arguments
  match program with
  | "sh" => machine.becomeShell pid directory called call
  | "dash" => machine.becomeShell pid directory called call
  | "sleep" => machine.becomeSleep pid arguments
  | "cat" => machine.becomeFilter pid "cat" .copy (splitOptions arguments).2
  | "head" =>
    match headFilter? (.headLines 10) arguments with
    | some (filter, inputs) => machine.becomeFilter pid "head" filter inputs
    | none => machine.exitAfter pid [] (messageLine "head: invalid number") 1
  | "tr" => machine.becomeReplacing pid arguments
  | "rm" => machine.runTool pid (removeAll host directory arguments)
  | "mkdir" => machine.runTool pid (makeAll host directory arguments)
  | "false" => machine.finish pid (.exited 1)
  | "echo" => machine.exitAfter pid (echoText arguments) [] 0
  | "printf" =>
    let (text, complaints, status) := printfText (arguments.headD []) (arguments.drop 1)
    machine.exitAfter pid text (complaints.flatMap fun line => messageLine s!"printf: {line}") status
  | "test" =>
    let (status, _) := judged (judge (aboutFile host directory) arguments)
    machine.finish pid (.exited status)
  | "[" =>
    let (status, _) := judged (judgeBracketed (aboutFile host directory) arguments)
    machine.finish pid (.exited status)
  | "pwd" => machine.exitAfter pid (locationPath directory ++ ['\n']) [] 0
  | "kill" =>
    match KillRequest.ofArguments arguments with
    | .send number targets =>
      let (machine, faults) := machine.signalAll number targets
      machine.exitAfter pid [] (faults.flatMap fun fault => messageLine s!"kill: {fault.message}")
        (if faults.isEmpty then 0 else 1)
    | _ => machine.finish pid (.exited 1)
  | _ => machine.finish pid (.exited 0)

/-- The executable file that a path leads to. -/
def executable (host : Host) (directory : Location) (path : Octets) :
    Except LaunchFault (List UInt8) :=
  match host.files.node directory path.toText with
  | .error cause => .error (.refused cause)
  | .ok (_, .file file) =>
    if file.executable then .ok file.content.toList else .error (.refused (.os .accessDenied))
  | .ok _ => .error (.refused (.os .accessDenied))

/-- Puts variables in front of others of the same names. -/
def overlayBindings (held : List Binding) (given : List (Octets × Octets)) : List Binding :=
  given.foldl (fun held entry =>
    held.filter (·.name != entry.1) ++ [⟨entry.1, entry.2, true⟩]) held

/-- Lets a process become what a name or a path means. `depth` bounds the files that name each
other in their first lines. -/
def becomeAt (machine : Machine) (pid : Nat) (directory : Location) :
    (depth : Nat) → (called : Octets) → Call → Except LaunchFault Machine
  | 0, _, _ => .error (.refused (.os .linkLoop))
  | depth + 1, called, call =>
    match programOf? called with
    | some "env" =>
      let given := call.arguments.takeWhile fun argument => argument.contains '='
      let rest := call.arguments.drop given.length
      let pairs := given.map fun argument =>
        ((Text.cutAtFirst '=' argument).1, ((Text.cutAtFirst '=' argument).2).getD [])
      let environment := overlayBindings call.environment pairs
      match rest with
      | [] => .ok (machine.finish pid (.exited 0))
      | name :: arguments => machine.becomeAt pid directory depth name ⟨arguments, environment⟩
    | some program => .ok (machine.becomeProgram pid directory program called call)
    | none =>
      if called.contains '/' then do
        let content ← executable machine.host directory called
        match interpreterOf? content with
        | none => throw (.plainText content)
        | some (interpreter, argument) =>
          machine.becomeAt pid directory depth interpreter
            { call with arguments := argument.toList ++ called :: call.arguments }
      else .error (.refused (.os .noEntry))

/-- Lets a process become what a name or a path means. -/
def become (machine : Machine) (pid : Nat) (directory : Location) (called : Octets) (call : Call) :
    Except LaunchFault Machine :=
  machine.becomeAt pid directory 5 called call

end Machine

end BuildMonitor.Script
