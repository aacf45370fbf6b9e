import BuildMonitor.Script.Launch

/-!
# Commands of the shell itself

Some commands are run by the shell and not by a program: those that change the shell, and a few that
are used so often that it has them built in. The special ones among them end the script when they
are used wrongly.

Main definitions: `Machine.runBuiltin`, `builtinNames`, `Machine.leaveShell`, `Machine.settle`.
-/

namespace BuildMonitor.Script

open BuildMonitor.Host

/-- The commands that change the shell. -/
def specialNames : List String :=
  [":", ".", "break", "continue", "eval", "exec", "exit", "export", "readonly", "return", "set",
   "shift", "times", "trap", "unset"]

/-- The commands that the shell runs itself. -/
def builtinNames : List String :=
  specialNames ++ ["true", "false", "echo", "printf", "test", "[", "pwd", "cd", "kill", "wait",
    "read", "command", "type", "local", "umask", "ulimit", "hash", "alias", "unalias"]

/-! ## Jumps -/

/-- Whether a task only takes something back, and so is done also when it is jumped over. -/
def isUndoing : Task → Bool
  | .restore _ => true
  | .rebind _ _ => true
  | .relabel _ => true
  | _ => false

/-- Leaves the given number of loops: the tasks that take something back, and those behind the last
loop. With `again` the last loop goes on with its next round. -/
def leaveLoops (again : Bool) : (count : Nat) → List Task → List Task
  | 0, tasks => tasks
  | _, [] => []
  | count + 1, task :: rest =>
    let leave (resumed : Task) :=
      if count = 0 then (if again then resumed :: rest else rest) else leaveLoops again count rest
    match task with
    | .loopDecide untilSuccess condition body mode _ =>
      leave (.loopAgain untilSuccess condition body mode)
    | .loopAgain untilSuccess condition body mode =>
      leave (.loopAgain untilSuccess condition body mode)
    | .eachNext name values body mode => leave (.eachNext name values body mode)
    | .endFunction arguments mode => .endFunction arguments mode :: rest
    | other =>
      if isUndoing other then other :: leaveLoops again (count + 1) rest
      else leaveLoops again (count + 1) rest

/-- Leaves a function: the tasks that take something back and those behind it; `none` if there is no
function to leave. -/
def leaveFunction : List Task → Option (List Task)
  | [] => none
  | .endFunction arguments mode :: rest => some (.endFunction arguments mode :: rest)
  | task :: rest =>
    (leaveFunction rest).map fun left => if isUndoing task then task :: left else left

/-- The status before a handler began, while one runs. -/
def statusBeforeHandler? : List Task → Option Nat
  | [] => none
  | .endHandler status :: _ => some status
  | .leave status :: _ => some status
  | _ :: rest => statusBeforeHandler? rest

/-! ## Results -/

namespace Machine

/-- Sets the status of the last command. -/
def setStatus (machine : Machine) (pid status : Nat) : Machine :=
  machine.updateShell pid fun shell => { shell with scope := { shell.scope with status := status } }

/-- Changes the parameters of a script. -/
def updateScope (machine : Machine) (pid : Nat) (change : Scope → Scope) : Machine :=
  machine.updateShell pid fun shell => { shell with scope := change shell.scope }

/-- Puts tasks in front of the others. -/
def push (machine : Machine) (pid : Nat) (tasks : List Task) : Machine :=
  machine.updateShell pid fun shell => { shell with tasks := tasks ++ shell.tasks }

/-- Ends a script with a status, after what it wants done at its end. -/
def leaveShell (machine : Machine) (pid status : Nat) : Machine :=
  match machine.shell? pid with
  | none => machine
  | some shell =>
    match shell.handlers.lookup 0 with
    | some (first :: action) =>
      machine.updateShell pid fun shell => { shell with
        scope := { shell.scope with status := status }
        handlers := shell.handlers.filter (·.1 != 0)
        tasks := [.script (.start (first :: action)) false, .leave status] }
    | _ => machine.finish pid (.exited status)

/-- Takes note of the status of a command. A failure that nothing asks for may end the script. -/
def settle (machine : Machine) (pid status : Nat) (mode : Mode) : Machine :=
  let noted := machine.setStatus pid status
  match noted.shell? pid with
  | some shell =>
    if status != 0 && shell.scope.exitsOnFailure && !mode.tested then noted.leaveShell pid status
    else noted
  | none => noted

/-- Writes a message of the shell. -/
def complain (machine : Machine) (pid : Nat) (text : String) : Machine :=
  match machine.shell? pid with
  | none => machine
  | some shell =>
    let place := s!"{shell.scope.callName.toText}: {shell.line}: {text}"
    (machine.write pid 2 (messageLine place).toBytes).2

/-- Writes a message that no command of the shell says of itself. -/
def complainLabelled (machine : Machine) (pid : Nat) (text : String) : Machine :=
  match machine.shell? pid with
  | none => machine
  | some shell =>
    if shell.label.isEmpty then machine.complain pid text
    else machine.complain pid s!"{shell.label.toText}: {text}"

/-- Writes what a command says, and takes note of its status. -/
def answer (machine : Machine) (pid : Nat) (name : String) (output : Octets)
    (complaints : List String) (status : Nat) (mode : Mode) : Machine :=
  let machine := complaints.foldl (fun machine text => machine.complain pid s!"{name}: {text}")
    machine
  match machine.write pid 1 output.toBytes with
  | (.closed, machine) =>
    if output.isEmpty then machine.settle pid status mode
    else (machine.complain pid s!"{name}: {name}: I/O error").settle pid 1 mode
  | (.done, machine) => machine.settle pid status mode
  | (.broken, machine) => machine

/-- Ends a script because a special command was used wrongly. -/
def refuse (machine : Machine) (pid : Nat) (text : String) : Machine :=
  (machine.complain pid text).leaveShell pid 2

/-- Ends a script because it cannot be understood. -/
def abandon (machine : Machine) (pid : Nat) (text : String) : Machine :=
  (machine.complainLabelled pid text).leaveShell pid 2

/-- Goes on with a text, whose messages are labelled. `ending` are the tasks at its end. -/
def runText (machine : Machine) (pid : Nat) (label text : Octets) (ending : List Task) : Machine :=
  match machine.shell? pid with
  | none => machine
  | some shell =>
    let labelled := machine.updateShell pid fun shell => { shell with
      label := label, scope := { shell.scope with status := 0 } }
    labelled.push pid (.script (.start text) false :: ending ++ [.relabel shell.label])

/-! ## Variables and options -/

/-- Splits an argument at its first equals sign. -/
def nameAndValue (argument : Octets) : Octets × Option Octets := Text.cutAtFirst '=' argument

/-- Sets the variables that arguments name with a value, and does something with each name. -/
def declare (machine : Machine) (pid : Nat) (arguments : List Octets)
    (change : Scope → Octets → Scope) : Machine :=
  machine.updateScope pid fun scope =>
    arguments.foldl (fun scope argument =>
      let (name, value) := nameAndValue argument
      let scope := match value with
        | some value => scope.set name value
        | none => scope
      if isName name then change scope name else scope) scope

/-- Sets or takes back the options that letters stand for. -/
def setOptions (scope : Scope) (letters : Octets) (on : Bool) : Scope :=
  { scope with
    exitsOnFailure := if letters.contains 'e' then on else scope.exitsOnFailure
    strict := if letters.contains 'u' then on else scope.strict
    traced := if letters.contains 'x' then on else scope.traced
    literalPaths := if letters.contains 'f' then on else scope.literalPaths }

/-- Sets or takes back the option of a name. -/
def setNamedOption (scope : Scope) (name : Octets) (on : Bool) : Scope :=
  if name = "errexit".toList then setOptions scope ['e'] on
  else if name = "nounset".toList then setOptions scope ['u'] on
  else if name = "xtrace".toList then setOptions scope ['x'] on
  else if name = "noglob".toList then setOptions scope ['f'] on
  else scope

/-- What `set` makes of the parameters. -/
def applySet (scope : Scope) : List Octets → Scope
  | [] => scope
  | ['-', '-'] :: rest => { scope with arguments := rest }
  | ['-', 'o'] :: name :: rest => applySet (setNamedOption scope name true) rest
  | ['+', 'o'] :: name :: rest => applySet (setNamedOption scope name false) rest
  | ('-' :: letters) :: rest => applySet (setOptions scope letters true) rest
  | ('+' :: letters) :: rest => applySet (setOptions scope letters false) rest
  | arguments => { scope with arguments := arguments }

/-! ## Signals -/

/-- What `trap` makes of the handlers, and the name that is none of a signal, if there is one. -/
def applyTrap (handlers : List (Nat × Octets)) (arguments : List Octets) :
    List (Nat × Octets) × Option Octets :=
  let arguments := if arguments.head? == some ['-', '-'] then arguments.drop 1 else arguments
  let (action, names) := match arguments with
    | action :: name :: names =>
      if (Scope.number? action).any (· ≤ greatestSignal) then (none, arguments)
      else (some action, name :: names)
    | names => (none, names)
  let action := action.filter (· != ['-'])
  let known := names.takeWhile fun name => (signalNumber? name).isSome
  let numbers := known.filterMap signalNumber?
  let kept := handlers.filter fun handler => !numbers.contains handler.1
  let added := match action with
    | some action => numbers.map fun number => (number, action)
    | none => []
  (kept ++ added, names[known.length]?)

/-- A text in single quotes, as it can be read again. -/
def inSingleQuotes (text : Octets) : Octets :=
  let pieces := Text.splitOn (· == '\'') text
  '\'' :: Text.joinWith ("'\"'\"'".toList) pieces ++ ['\'']

/-- The handlers as `trap` shows them. -/
def handlerLines (handlers : List (Nat × Octets)) : Octets :=
  let sorted := handlers.mergeSort fun first second => first.1 ≤ second.1
  sorted.flatMap fun handler =>
    "trap -- ".toList ++ inSingleQuotes handler.2 ++ ' ' :: (signalName handler.1).toList ++ ['\n']

/-! ## Directories -/

/-- A path with its dots taken away, by spelling alone. -/
def simplifiedPath (path : Octets) : Octets :=
  let pieces := Text.splitOn (· == '/') path
  let kept := pieces.foldl (fun (kept : List Octets) piece =>
    if piece.isEmpty || piece = ['.'] then kept
    else if piece = ['.', '.'] then kept.drop 1
    else piece :: kept) []
  '/' :: Text.joinWith ['/'] kept.reverse

/-- Goes to another directory. -/
def changeDirectory (machine : Machine) (pid : Nat) (arguments : List Octets) (mode : Mode) :
    Machine :=
  match machine.find? pid, machine.shell? pid with
  | some process, some shell =>
    let given := arguments.headD ((shell.scope.valueOf? "HOME".toList).getD ['/'])
    let back := given = ['-']
    let target := if back then (shell.scope.valueOf? "OLDPWD".toList).getD [] else given
    match machine.host.files.node process.directory target.toText with
    | .ok (location, .directory _) =>
      let path := if target.head? = some '/' then target else shell.path ++ '/' :: target
      let moved := machine.update pid fun process => { process with directory := location }
      let known := moved.updateShell pid fun shell => { shell with
        path := simplifiedPath path
        scope := (shell.scope.set "OLDPWD".toList shell.path).set pathVariable
          (simplifiedPath path) }
      let text := if back then simplifiedPath path ++ ['\n'] else []
      known.answer pid "cd" text [] 0 mode
    | _ => (machine.complain pid s!"cd: can't cd to {target.toText}").settle pid 2 mode
  | _, _ => machine

/-! ## Running -/

/-- The status that an argument asks for, if it is a number. -/
def statusOf? (argument : Octets) : Option Nat := (Scope.number? argument).map (· % 256)

/-- Looks a command up for `command -v`. -/
def describeCommand (shell : Shell) (name : Octets) : Option Octets :=
  let text := name.toText
  if reservedWords.contains text || builtinNames.contains text ||
      (shell.functions.lookup name).isSome then some name
  else
    match programOf? name with
    | some program => some (if name.contains '/' then name else "/usr/bin/".toList ++ program.toList)
    | none => none

/-- What `type` says of a name, and whether it means anything. -/
def typeLine (shell : Shell) (name : Octets) : Octets × Bool :=
  let text := name.toText
  let line (what : String) : Octets × Bool := (messageLine s!"{text} is {what}", true)
  if reservedWords.contains text then line "a shell keyword"
  else if specialNames.contains text then line "a special shell builtin"
  else if (shell.functions.lookup name).isSome then line "a shell function"
  else if builtinNames.contains text then line "a shell builtin"
  else
    match describeCommand shell name with
    | some path => line path.toText
    | none => (messageLine s!"{text}: not found", false)

/-- How `kill` is used. -/
def killUsage : String :=
  "Usage: kill [-s sigspec | -signum | -sigspec] [pid | job]... or\nkill -l [exitstatus]"

/-- Puts tasks in front of the end of the function that is running. -/
def beforeFunctionEnd (added : List Task) : List Task → List Task
  | [] => []
  | .endFunction arguments mode :: rest => added ++ .endFunction arguments mode :: rest
  | task :: rest => task :: beforeFunctionEnd added rest

/-- The tasks that take back the variables that arguments name. -/
def takingBack (scope : Scope) (arguments : List Octets) : List Task :=
  arguments.map fun argument =>
    let name := (nameAndValue argument).1
    .rebind name (scope.bindings.find? (·.name == name))

/-- Runs a command of the shell that was given arguments. -/
def runBuiltin (machine : Machine) (pid : Nat) (shell : Shell) (process : ScriptProcess)
    (name : String) (arguments : List Octets) (mode : Mode) : Machine :=
  let say (output : Octets) (complaints : List String) (status : Nat) :=
    machine.answer pid name output complaints status mode
  let condition (judgement : Judgement) :=
    let (status, complaint) := judged judgement
    say [] complaint.toList status
  let about := aboutFile machine.host process.directory
  let text (octets : Octets) : String := octets.toText
  match name with
  | "echo" => say (echoText arguments) [] 0
  | "printf" =>
    match arguments with
    | [] => say [] ["usage: printf format [arg ...]"] 2
    | format :: values =>
      let (printed, complaints, status) := printfText format values
      say printed complaints status
  | "false" => say [] [] 1
  | "test" => condition (judge about arguments)
  | "[" => condition (judgeBracketed about arguments)
  | "pwd" =>
    say ((if arguments.contains ['-', 'P'] then locationPath process.directory
      else shell.path) ++ ['\n']) [] 0
  | "cd" => machine.changeDirectory pid arguments mode
  | "exit" =>
    match arguments with
    | [] =>
      machine.leaveShell pid ((statusBeforeHandler? shell.tasks).getD shell.scope.status)
    | word :: _ =>
      match statusOf? word with
      | some status => machine.leaveShell pid status
      | none => machine.refuse pid s!"exit: Illegal number: {text word}"
  | "return" =>
    let status := (arguments.head?.bind statusOf?).getD shell.scope.status
    match leaveFunction shell.tasks with
    | some tasks => (machine.updateShell pid fun shell => { shell with tasks := tasks }).setStatus
        pid status
    | none => machine.leaveShell pid status
  | "break" =>
    let count := (arguments.head?.bind Scope.number?).getD 1
    (machine.updateShell pid fun shell =>
      { shell with tasks := leaveLoops false count shell.tasks }).setStatus pid 0
  | "continue" =>
    let count := (arguments.head?.bind Scope.number?).getD 1
    (machine.updateShell pid fun shell =>
      { shell with tasks := leaveLoops true count shell.tasks }).setStatus pid 0
  | "eval" =>
    machine.runText pid name.toList (Text.joinWith [' '] arguments) []
  | "." =>
    let path := arguments.headD []
    match machine.host.files.read process.directory path.toText with
    | .ok content =>
      machine.runText pid path (Octets.ofBytes content.toList)
        [.endFunction shell.scope.arguments mode]
    | .error cause => machine.refuse pid s!".: {(OpenFault.inspect path cause).message}"
  | "export" => (machine.declare pid arguments Scope.passOn).settle pid 0 mode
  | "readonly" => (machine.declare pid arguments fun scope _ => scope).settle pid 0 mode
  | "local" =>
    let remembered := machine.updateShell pid fun shell => { shell with
      tasks := beforeFunctionEnd (takingBack shell.scope arguments) shell.tasks }
    (remembered.declare pid arguments fun scope _ => scope).settle pid 0 mode
  | "unset" =>
    let names := arguments.filter (!isOption ·)
    (machine.updateScope pid fun scope => names.foldl Scope.unset scope).settle pid 0 mode
  | "shift" =>
    let count := (arguments.head?.bind Scope.number?).getD 1
    if shell.scope.arguments.length < count then machine.refuse pid "shift: can't shift that many"
    else
      (machine.updateScope pid fun scope =>
        { scope with arguments := scope.arguments.drop count }).settle pid 0 mode
  | "set" => (machine.updateScope pid fun scope => applySet scope arguments).settle pid 0 mode
  | "trap" =>
    match arguments with
    | [] => say (handlerLines shell.handlers) [] 0
    | first :: _ =>
      if isOption first then machine.refuse pid s!"trap: Illegal option {text (first.take 2)}"
      else
        let (handlers, unknown) := applyTrap shell.handlers arguments
        let changed := machine.updateShell pid fun shell => { shell with handlers := handlers }
        match unknown with
        | none => changed.settle pid 0 mode
        | some word =>
          ((changed.write pid 2 (messageLine s!"trap: {text word}: bad trap").toBytes).2).settle pid
            1 mode
  | "kill" =>
    match KillRequest.ofArguments arguments with
    | .help => say [] [killUsage] 2
    | .badOption letter => say [] [s!"Illegal option -{letter}"] 2
    | .badSignal word => say [] [s!"invalid signal number or name: {text word}"] 2
    | .nameOf word =>
      match Scope.number? word with
      | some number => say ((signalName (number % 128)).toList ++ ['\n']) [] 0
      | none => say [] [s!"Illegal number: {text word}"] 2
    | .send number targets =>
      let (machine, faults) := machine.signalAll number targets
      let complaints := faults.map fun fault =>
        match fault with
        | .noSuchProcess => fault.message ++ "\n"
        | .illegalNumber _ => fault.message
      let status := if faults.isEmpty then 0 else if faults.all (· == .noSuchProcess) then 1 else 2
      match machine.find? pid with
      | some process =>
        if process.ended.isSome then machine
        else machine.answer pid name [] complaints status mode
      | none => machine
  | "wait" =>
    match arguments.find? fun argument => (Scope.number? argument).isNone with
    | some word => say [] [s!"Illegal number: {text word}"] 2
    | none => machine.push pid [.awaitAsked (arguments.filterMap Scope.number?) mode]
  | "umask" => say (if arguments.isEmpty then "0022\n".toList else []) [] 0
  | "read" =>
    let (options, names) := splitOptions arguments
    if names.isEmpty then say [] ["arg count"] 2
    else machine.push pid [.readLine names (hasOption options ['r']) mode]
  | "type" =>
    let found := arguments.map (typeLine shell)
    say (found.flatMap (·.1)) [] (if found.all (·.2) then 0 else 127)
  | "command" =>
    match arguments with
    | ['-', 'v'] :: wanted :: _ =>
      match describeCommand shell wanted with
      | some found => say (found ++ ['\n']) [] 0
      | none => say [] [] 127
    | words =>
      let word (text : Octets) : Word := [.literal true text]
      machine.push pid [.run (.simple shell.line [] (words.map word) []) mode]
  | _ => say [] [] 0

end Machine

end BuildMonitor.Script
