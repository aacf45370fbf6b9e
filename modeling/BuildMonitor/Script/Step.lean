import BuildMonitor.Script.Call
import BuildMonitor.Script.Reader

/-!
# Steps of a script

A script takes one step at a time: it takes its first task and does what that asks for, or waits and
stays as it is. A signal that the script handles is looked at between two steps, but not while it
waits for a command that it has started.

Main definition: `Machine.stepShell`.
-/

namespace BuildMonitor.Script

open BuildMonitor.Host BuildMonitor.Text

/-- The line that a command stands on, where it keeps one. -/
def lineOf? : Command → Option Nat
  | .simple line _ _ _ => some line
  | .redirected line _ _ => some line
  | .each line _ _ _ => some line
  | .choice line _ _ => some line
  | _ => none

/-- Whether nothing but blanks is left of a script. -/
def isBlankRest (cursor : Cursor) : Bool := cursor.rest.all [' ', '\t', '\n'].contains

/-! ## Reading a line -/

/-- A line that was read. -/
structure LineRead where
  characters : List Marked
  /-- The number of bytes it took. -/
  used : Nat
  /-- It ends with a line break. -/
  complete : Bool

/-- Puts a character in front of a line. -/
def LineRead.cons (used : Nat) (characters : List Marked) (line : LineRead) : LineRead :=
  { line with characters := characters ++ line.characters, used := used + line.used }

/-- Takes a line; unless it is read raw, a backslash quotes the next character, and one before a
line break takes it away. -/
def takeLine (raw : Bool) : Octets → LineRead
  | [] => ⟨[], 0, false⟩
  | '\n' :: _ => ⟨[], 1, true⟩
  | '\\' :: next :: rest =>
    if raw then (takeLine raw (next :: rest)).cons 1 [('\\', false)]
    else if next = '\n' then (takeLine raw rest).cons 2 []
    else (takeLine raw rest).cons 2 [(next, true)]
  | character :: rest => (takeLine raw rest).cons 1 [(character, false)]

/-- Whether a character parts fields and is a blank. -/
def isBlankSeparator (separators : Octets) (character : Marked) : Bool :=
  !character.2 && separators.contains character.1 && [' ', '\t', '\n'].contains character.1

/-- Whether a character parts fields. -/
def isSeparator (separators : Octets) (character : Marked) : Bool :=
  !character.2 && separators.contains character.1

/-- The text of a last field, without the blanks behind it. -/
def lastField (separators : Octets) (characters : List Marked) : Octets :=
  (((characters.reverse).dropWhile (isBlankSeparator separators)).reverse).map (·.1)

/-- Shares out a line between variables; the last gets all that is left. -/
def shareOut (separators : Octets) : List Octets → List Marked → List (Octets × Octets)
  | [], _ => []
  | [name], characters =>
    [(name, lastField separators (characters.dropWhile (isBlankSeparator separators)))]
  | name :: rest, characters =>
    let line := characters.dropWhile (isBlankSeparator separators)
    let field := line.takeWhile (!isSeparator separators ·)
    let behind := (line.drop field.length).dropWhile (isBlankSeparator separators)
    let behind := match behind with
      | character :: others =>
        if isSeparator separators character then others else character :: others
      | [] => []
    (name, field.map (·.1)) :: shareOut separators rest behind

namespace Machine

/-! ## Waiting -/

/-- Writes which signal ended a process that the script waited for. An interruption and an unread
output are passed over. -/
def tellSignal (machine : Machine) (pid : Nat) (status : Build.ExitStatus) : Machine :=
  match status with
  | .signalled number =>
    if number = 2 || number = 13 then machine
    else (machine.write pid 2 (messageLine (signalDescription number.toNat)).toBytes).2
  | _ => machine

/-- The process of that pid, unless it has ended. -/
def isRunning (machine : Machine) (pid : Nat) : Bool :=
  match machine.find? pid with
  | some process => process.ended.isNone
  | none => false

/-- How a process ended, if it has. -/
def exitOf? (machine : Machine) (pid : Nat) : Option Build.ExitStatus :=
  (machine.find? pid).bind (·.ended)

/-- Takes note of the processes of a script that have ended besides those it waits for. -/
def noteOthers (machine : Machine) (pid : Nat) (awaited : List Nat) : Machine :=
  let others := machine.processes.filterMap fun process =>
    if process.parent = pid && !awaited.contains process.pid then
      process.ended.map fun status => (process.pid, status)
    else none
  let noted := machine.updateShell pid fun shell => { shell with known := shell.known ++ others }
  others.foldl (fun machine other => machine.reap other.1) noted

/-- Takes note of processes that the script waited for: tells which signals ended them, forgets
them, and gives the status of the last. -/
def noteAwaited (machine : Machine) (pid : Nat) (awaited : List Nat) : Nat × Machine :=
  let machine := machine.noteOthers pid awaited
  awaited.foldl (fun (_, machine) child =>
    let status := (machine.exitOf? child).getD .unknown
    (statusOfExit status, (machine.tellSignal pid status).reap child)) (0, machine)

/-- Goes on waiting for processes as asked; `none` while the first has not ended. -/
def stepAsked (machine : Machine) (pid : Nat) (shell : Shell) (pids : List Nat) (mode : Mode) :
    Option Machine :=
  match pids with
  | [] =>
    let children := machine.processes.filter (·.parent == pid)
    if children.any (·.ended.isNone) then none
    else some ((machine.noteOthers pid []).settle pid 0 mode)
  | child :: rest =>
    let proceed (machine : Machine) (status : Nat) : Machine :=
      if rest.isEmpty then machine.settle pid status mode
      else machine.push pid [.awaitAsked rest mode]
    match shell.known.lookup child, machine.find? child with
    | some status, _ => some (proceed machine (statusOfExit status))
    | none, some process =>
      if process.parent != pid then some (proceed machine 127)
      else
        match process.ended with
        | none => none
        | some status =>
          let noted := (machine.tellSignal pid status).updateShell pid fun shell =>
            { shell with known := shell.known ++ [(child, status)] }
          some (proceed (noted.reap child) (statusOfExit status))
    | none, none => some (proceed machine 127)

/-! ## Starting processes -/

/-- Starts the stages of a pipeline. Each writes to a pipe that the next one reads; the first reads
what the script reads, and the last writes where the script does. With `behind` they run behind what
follows. -/
def startStages (machine : Machine) (process : ScriptProcess) (shell : Shell) (tested behind : Bool) :
    (input : Option Nat) → List Command → List Nat × Machine
  | _, [] => ([], machine)
  | input, stage :: rest =>
    let (child, machine) := machine.forkShell process shell [.run stage ⟨tested, true⟩]
    let machine := if behind then machine.putBehind child else machine
    let machine := match input with
      | some pipe => machine.openChannel child 0 (.source pipe)
      | none => machine
    if rest.isEmpty then ([child], machine)
    else
      let (pipe, machine) := machine.addPipe false
      let machine := machine.openChannel child 1 (.sink pipe)
      let (others, machine) := machine.startStages process shell tested behind (some pipe) rest
      (child :: others, machine)

/-- Starts a process whose output completes a command. -/
def startCapture (machine : Machine) (pid : Nat) (process : ScriptProcess) (shell : Shell)
    (source : Octets) (line : Nat) (complete : Octets → Command) (mode : Mode) : Machine :=
  let (pipe, machine) := machine.addPipe true
  let (child, machine) := machine.forkShell process shell [.script ⟨source, line, 0⟩ true]
  (machine.openChannel child 1 (.sink pipe)).push pid [.collect complete child pipe mode]

/-! ## Commands -/

/-- The body of the first branch that a text matches. -/
def chooseBranch (subject : Octets) : List (List Word × Command) → Scope →
    Except ExpansionFault (Option Command × Scope)
  | [], scope => .ok (none, scope)
  | (patterns, body) :: rest, scope => do
    let (found, scope) ← patterns.foldlM (fun (found, scope) pattern =>
      if found then .ok (true, scope)
      else do
        let (globs, scope) ← expandPattern pattern scope
        return (matchesText globs subject, scope)) (false, scope)
    if found then return (some body, scope) else chooseBranch subject rest scope

/-- Runs a command whose words await no output. -/
def runCommand (machine : Machine) (pid : Nat) (process : ScriptProcess) (shell : Shell)
    (command : Command) (mode : Mode) : Machine :=
  let inner : Mode := ⟨mode.tested, false⟩
  let condition : Mode := ⟨true, false⟩
  match command with
  | .nothing => machine
  | .simple line assignments words redirects =>
    machine.runSimple pid line assignments words redirects mode
  | .pipeline stages =>
    let (pids, machine) := machine.startStages process shell mode.tested false none stages
    machine.push pid [.awaitStages pids mode]
  | .negation body => machine.push pid [.run body condition, .negate]
  | .sequence first second => machine.push pid [.run first inner, .run second mode]
  | .both first second => machine.push pid [.run first condition, .second true second mode]
  | .either first second => machine.push pid [.run first condition, .second false second mode]
  | .background body =>
    let stages := match body with
      | .pipeline stages => stages
      | other => [other]
    let (pids, machine) := machine.startStages process shell false true none stages
    machine.updateScope pid fun scope =>
      { scope with status := 0, backgroundPid := pids.getLast? }
  | .subshell body =>
    if mayBecome shell mode then machine.push pid [.run body ⟨mode.tested, true⟩]
    else
      let (pids, machine) := machine.startStages process shell mode.tested false none [body]
      machine.push pid [.awaitStages pids mode]
  | .redirected line body redirects =>
    let machine := machine.updateShell pid fun shell => { shell with line := line }
    match machine.redirectAll pid redirects with
    | (some fault, machine) => machine.failRedirection pid fault false process.descriptors mode
    | (none, machine) => machine.push pid [.run body inner, .restore process.descriptors]
  | .conditional test positive negative =>
    machine.push pid [.run test condition, .branch positive negative mode]
  | .loop untilSuccess test body =>
    machine.push pid [.loopTest untilSuccess test body mode 0]
  | .each line name words body =>
    let machine := machine.updateShell pid fun shell => { shell with line := line }
    match expandFields (listingFor machine.host process.directory shell.scope) words shell.scope with
    | .error fault => machine.failExpansion pid fault
    | .ok (values, scope) =>
      let machine := machine.updateScope pid fun _ => scope
      if values.isEmpty then machine.setStatus pid 0
      else machine.push pid [.eachNext name values body mode]
  | .choice line subject branches =>
    let machine := machine.updateShell pid fun shell => { shell with line := line }
    let chosen : Except ExpansionFault (Option Command × Scope) := do
      let (text, scope) ← expandText subject shell.scope
      chooseBranch text branches scope
    match chosen with
    | .error fault => machine.failExpansion pid fault
    | .ok (found, scope) =>
      let machine := machine.updateScope pid fun _ => scope
      match found with
      | none => machine.setStatus pid 0
      | some .nothing => machine.setStatus pid 0
      | some body => machine.push pid [.run body mode]
  | .definition name body =>
    (machine.updateShell pid fun shell =>
      { shell with functions := (name, body) :: shell.functions.filter (·.1 != name) }).setStatus
        pid 0

/-! ## Tasks -/

/-- Sets variables to what was read. -/
def assignRead (machine : Machine) (pid : Nat) (names : List Octets) (line : LineRead) : Machine :=
  machine.updateScope pid fun scope =>
    (shareOut scope.separators names line.characters).foldl
      (fun scope given => scope.set given.1 given.2) scope

/-- The bytes that one step reads. -/
def chunkSize : Nat := 4096

/-- Reads a line into variables; `none` while no whole line has come and more may. -/
def stepReadLine (machine : Machine) (pid : Nat) (process : ScriptProcess) (names : List Octets)
    (raw : Bool) (mode : Mode) : Option Machine :=
  match machine.channelOf? process 0 with
  | none => some (machine.settle pid 1 mode)
  | some (number, channel) =>
    match machine.peek channel (16 * chunkSize) with
    | .blocked => none
    | .finished => some ((machine.assignRead pid names ⟨[], 0, false⟩).settle pid 1 mode)
    | .bytes bytes =>
      let line := takeLine raw (Octets.ofBytes bytes)
      let mayGrow := match channel with
        | .source pipe => machine.isHeld (.sink pipe)
        | _ => false
      if !line.complete && mayGrow then none
      else
        some (((machine.consume number channel line.used).assignRead pid names line).settle pid
          (if line.complete then 0 else 1) mode)

/-- Reads more of a script from the standard input; `none` if it has to wait. -/
def stepGather (machine : Machine) (pid : Nat) (process : ScriptProcess) (text : Octets) :
    Option Machine :=
  let start : Machine := machine.push pid [.script (.start text) false]
  match machine.channelOf? process 0 with
  | none => some start
  | some (number, channel) =>
    match machine.peek channel chunkSize with
    | .blocked => none
    | .finished => some start
    | .bytes bytes =>
      some ((machine.consume number channel bytes.length).push pid
        [.gather (text ++ Octets.ofBytes bytes)])

/-- Completes a command with the output of a process that has ended; `none` before that. -/
def stepCollect (machine : Machine) (pid : Nat) (complete : Octets → Command) (child pipe : Nat)
    (mode : Mode) : Option Machine :=
  if machine.isHeld (.sink pipe) || machine.isRunning child then none
  else
    let content := (Octets.ofBytes (machine.pipeContent pipe)).filter (· != '\x00')
    let text := (content.reverse.dropWhile (· == '\n')).reverse
    let (status, noted) := (machine.removePipe pipe).noteAwaited pid [child]
    let known := noted.updateShell pid fun shell =>
      { shell with
        scope := { shell.scope with status := status }
        outputStatus := some status }
    some (known.push pid [.run (complete text) mode])

/-- Does what a task asks for; the machine is given without it. `none` if the script has to wait. -/
def stepTask (machine : Machine) (pid : Nat) (process : ScriptProcess) (shell : Shell)
    (task : Task) : Option Machine :=
  let status := shell.scope.status
  match task with
  | .script cursor last =>
    match readComplete cursor with
    | .finished => some machine
    | .faulty misreading =>
      some ((machine.updateShell pid fun shell => { shell with line := misreading.line }).abandon pid
        misreading.fault.message)
    | .command command behind =>
      if last && isBlankRest behind then some (machine.push pid [.run command ⟨false, true⟩])
      else some (machine.push pid [.run command .plain, .script behind last])
  | .gather text => machine.stepGather pid process text
  | .run command mode =>
    match awaitedOutput? command with
    | some (source, complete) =>
      let line := (lineOf? command).getD shell.line
      some (machine.startCapture pid process shell source line complete mode)
    | none => some (machine.runCommand pid process shell command mode)
  | .branch positive negative mode =>
    if status = 0 then some (machine.push pid [.run positive mode])
    else
      match negative with
      | .nothing => some (machine.setStatus pid 0)
      | other => some (machine.push pid [.run other mode])
  | .second onSuccess command mode =>
    if (status == 0) == onSuccess then some (machine.push pid [.run command mode]) else some machine
  | .negate => some (machine.setStatus pid (if status = 0 then 1 else 0))
  | .loopTest untilSuccess condition body mode left =>
    some (machine.push pid
      [.run condition ⟨true, false⟩, .loopDecide untilSuccess condition body mode left])
  | .loopDecide untilSuccess condition body mode left =>
    if (status == 0) == untilSuccess then some (machine.setStatus pid left)
    else some (machine.push pid
      [.run body ⟨mode.tested, false⟩, .loopAgain untilSuccess condition body mode])
  | .loopAgain untilSuccess condition body mode =>
    some (machine.push pid [.loopTest untilSuccess condition body mode status])
  | .eachNext name values body mode =>
    match values with
    | [] => some machine
    | value :: rest =>
      some ((machine.updateScope pid fun scope => scope.set name value).push pid
        [.run body ⟨mode.tested, false⟩, .eachNext name rest body mode])
  | .awaitStages pids mode =>
    if pids.any machine.isRunning then none
    else
      let (status, noted) := machine.noteAwaited pid pids
      some (noted.settle pid status mode)
  | .awaitAsked pids mode => machine.stepAsked pid shell pids mode
  | .collect complete child pipe mode => machine.stepCollect pid complete child pipe mode
  | .readLine names raw mode => machine.stepReadLine pid process names raw mode
  | .relabel label => some (machine.updateShell pid fun shell => { shell with label := label })
  | .restore descriptors => some (machine.restoreDescriptors pid descriptors)
  | .rebind name held =>
    some (machine.updateScope pid fun scope =>
      let without := scope.unset name
      { without with bindings := without.bindings ++ held.toList })
  | .endFunction arguments mode =>
    some ((machine.updateScope pid fun scope => { scope with arguments := arguments }).settle pid
      status mode)
  | .endHandler held => some (machine.setStatus pid held)
  | .leave held => some (machine.finish pid (.exited held))

/-! ## Signals -/

/-- Whether a task puts off the handling of signals. -/
def putsOffSignals : Task → Bool
  | .awaitStages _ _ => true
  | .collect _ _ _ _ => true
  | _ => false

/-- The tasks, and the status, with which a script goes on when a signal comes: waiting as asked is
over. -/
def interrupted (number status : Nat) : List Task → List Task × Nat
  | .awaitAsked _ _ :: rest => (rest, 128 + number)
  | tasks => (tasks, status)

/-- Handles a signal. -/
def handleSignal (machine : Machine) (pid : Nat) (shell : Shell) (number : Nat)
    (others : List Nat) : Machine :=
  let (tasks, status) := interrupted number shell.scope.status shell.tasks
  let action := match shell.handlers.lookup number with
    | some action => [Task.script (.start action) false, .endHandler status]
    | none => []
  machine.updateShell pid fun shell =>
    { shell with
      scope := { shell.scope with status := status }
      pending := others
      tasks := action ++ tasks }

/-- Takes one step of a script; `none` if it has to wait. -/
def stepShell (machine : Machine) (pid : Nat) (process : ScriptProcess) (shell : Shell) :
    Option Machine :=
  let putOff := match shell.tasks with
    | task :: _ => putsOffSignals task
    | [] => false
  match shell.pending, putOff with
  | number :: others, false => some (machine.handleSignal pid shell number others)
  | _, _ =>
    match shell.tasks with
    | [] => some (machine.leaveShell pid shell.scope.status)
    | task :: rest =>
      let popped := machine.updateShell pid fun shell => { shell with tasks := rest }
      popped.stepTask pid process { shell with tasks := rest } task

end Machine

end BuildMonitor.Script
