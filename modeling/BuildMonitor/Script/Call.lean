import BuildMonitor.Script.Redirection

/-!
# Calls

A simple command sets variables, calls something, or both. What is called is a special command of
the shell, a function, another command of the shell, or a program, in this order. A program runs in
a process of its own, unless nothing is left to be done after it: then the process of the script
becomes the program.

Main definitions: `Machine.runSimple`, `Machine.forkShell`.
-/

namespace BuildMonitor.Script

open BuildMonitor.Host

/-- The names in a directory, in order. -/
def namesIn (files : Files) (location : Location) : List String :=
  let below := files.entries.filterMap fun entry =>
    match entry.1.getLast? with
    | some name => if entry.1.dropLast = location then some name else none
    | none => none
  below.mergeSort fun first second => first ≤ second

/-- The names that patterns are compared with; none if they are kept as they are. -/
def listingFor (host : Host) (directory : Location) (scope : Scope) : Listing := fun path =>
  if scope.literalPaths then none
  else
    match host.files.node directory path.toText with
    | .ok (location, .directory _) => some ((namesIn host.files location).map Octets.ofText)
    | _ => none

/-- The signals that a script lets do nothing. -/
def Shell.ignoredSignals (shell : Shell) : List Nat :=
  (shell.handlers.filter (·.2.isEmpty)).map (·.1)

/-- A script as a process that it starts has it. Only signals that do nothing stay as they are. -/
def Shell.forked (shell : Shell) (tasks : List Task) : Shell :=
  { shell with
    tasks := tasks
    handlers := shell.handlers.filter (·.2.isEmpty)
    pending := []
    known := [] }

/-- The status of a process that has ended, as scripts see it. -/
def statusOfExit : Build.ExitStatus → Nat
  | .exited code => code.toNat % 256
  | .signalled signal => 128 + signal.toNat
  | .unknown => 127

namespace Machine

/-! ## Processes of a script -/

/-- Starts a process of a script that has tasks of its own. -/
def forkShell (machine : Machine) (process : ScriptProcess) (shell : Shell) (tasks : List Task) :
    Nat × Machine :=
  machine.fork process (.shell (shell.forked tasks))

/-- Makes a process one that runs behind others: it reads nothing, and requests to interrupt the
script pass it over. -/
def putBehind (machine : Machine) (pid : Nat) : Machine :=
  (machine.openChannel pid 0 (.device .null)).update pid fun process =>
    { process with ignored := process.ignored ++ [2, 3] }

/-- Whether nothing but the last command is left, so that the process may become a program. -/
def mayBecome (shell : Shell) (mode : Mode) : Bool :=
  mode.last && shell.handlers.all (·.2.isEmpty)

/-! ## Programs -/

/-- The status for a program that was not started. -/
def statusOfFault (cause : IoError) : Nat :=
  if [IoError.os .noEntry, .os .notDirectory, .os .nameTooLong, .os .linkLoop].contains cause
  then 127 else 126

/-- The words for why a program was not started. -/
def launchText (cause : IoError) : String :=
  if isMissing cause then "not found" else causeText cause

/-- Lets a process that runs a script become a program. If it cannot, it says so and ends; `label`
names the command that asked for it. -/
def becomeOrLeave (machine : Machine) (pid : Nat) (label : String) (called : Octets)
    (arguments : List Octets) : Machine :=
  match machine.find? pid, machine.shell? pid with
  | some process, some shell =>
    let call : Call := ⟨arguments, shell.scope.bindings.filter (·.exported)⟩
    let prepared := machine.update pid fun process =>
      { process with ignored := process.ignored ++ shell.ignoredSignals }
    match prepared.become pid process.directory called call with
    | .ok started => started
    | .error (.plainText _) =>
      prepared.becomeProgram pid process.directory "sh" "/bin/sh".toList
        { call with arguments := called :: arguments }
    | .error (.refused cause) =>
      let reason := if called.isEmpty then causeText (.os .accessDenied) else launchText cause
      let text := s!"{called.toText}: {reason}"
      let told := if label.isEmpty then machine.complainLabelled pid text
        else machine.complain pid s!"{label}: {text}"
      told.finish pid (.exited (statusOfFault cause))
  | _, _ => machine

/-! ## Assignments -/

/-- Sets variables one after the other, and gives their values. -/
def assignAll : List (Octets × Word) → Scope →
    Except ExpansionFault (List (Octets × Octets) × Scope)
  | [], scope => .ok ([], scope)
  | (name, word) :: rest, scope => do
    let (value, scope) ← expandText word scope
    let (others, scope) ← assignAll rest (scope.set name value)
    return ((name, value) :: others, scope)

/-- The tasks that take variables back. -/
def rebindings (scope : Scope) (assignments : List (Octets × Word)) : List Task :=
  assignments.reverse.map fun assignment =>
    .rebind assignment.1 (scope.bindings.find? (·.name == assignment.1))

/-- Passes on all the variables that were just set. -/
def passOnAll (scope : Scope) (assignments : List (Octets × Word)) : Scope :=
  assignments.foldl (fun scope assignment => scope.passOn assignment.1) scope

/-! ## Simple commands -/

/-- Ends a script because a word cannot be expanded. -/
def failExpansion (machine : Machine) (pid : Nat) (fault : ExpansionFault) : Machine :=
  machine.abandon pid fault.message

/-- Takes note of a redirection that was not carried out. Around a special command it ends the
script. -/
def failRedirection (machine : Machine) (pid : Nat) (fault : RedirectionFault) (special : Bool)
    (descriptors : Descriptors) (mode : Mode) : Machine :=
  match fault with
  | .expansion fault => machine.failExpansion pid fault
  | .opening fault =>
    let told := (machine.restoreDescriptors pid descriptors).complainLabelled pid fault.message
    if special then told.leaveShell pid 2 else told.settle pid 2 mode

/-- Calls a program in a process of its own, or in this one. -/
def callProgram (machine : Machine) (pid : Nat) (name : Octets) (arguments : List Octets)
    (mode : Mode) : Machine :=
  match machine.find? pid, machine.shell? pid with
  | some process, some shell =>
    if mayBecome shell mode then machine.becomeOrLeave pid "" name arguments
    else
      let (child, machine) := machine.forkShell process shell []
      (machine.becomeOrLeave child "" name arguments).push pid [.awaitStages [child] mode]
  | _, _ => machine

/-- Calls what fields name, after redirections and assignments. `undoing` are the tasks that take
these back. -/
def callFields (machine : Machine) (pid : Nat) (name : Octets) (arguments : List Octets)
    (undoing : List Task) (mode : Mode) : Machine :=
  match machine.find? pid, machine.shell? pid with
  | some process, some shell =>
    let text := name.toText
    let ready := machine.push pid undoing
    let command (text : String) :=
      match ready.shell? pid with
      | some shell => ready.runBuiltin pid shell process text arguments mode
      | none => ready
    if text = "exec" then
      match arguments with
      | [] => machine.settle pid 0 mode
      | called :: others => machine.becomeOrLeave pid "exec" called others
    else if specialNames.contains text then command text
    else
      match shell.functions.lookup name with
      | some body =>
        let called := ready.push pid
          [.run body ⟨mode.tested, false⟩, .endFunction shell.scope.arguments mode]
        called.updateScope pid fun scope => { scope with arguments := arguments }
      | none =>
        if builtinNames.contains text then command text
        else ready.callProgram pid name arguments mode
  | _, _ => machine

/-- What is shown of a command before it runs. -/
def traceLine (scope : Scope) (assigned : List (Octets × Octets)) (fields : List Octets) : Octets :=
  let settings := assigned.map fun given => given.1 ++ '=' :: given.2
  (scope.valueOf? "PS4".toList).getD "+ ".toList ++ Text.joinWith [' '] (settings ++ fields) ++ ['\n']

/-- Shows a command before it runs, where complaints went before its redirections. -/
def trace (machine : Machine) (process : ScriptProcess) (scope : Scope)
    (assigned : List (Octets × Octets)) (fields : List Octets) : Machine :=
  match scope.traced, machine.channelOf? process 2 with
  | true, some (number, channel) =>
    (machine.writeChannel number channel (traceLine scope assigned fields).toBytes).2
  | _, _ => machine

/-- Runs a simple command. What it redirects and sets is taken back behind it, except by `exec`
without a program and by the special commands, which keep what they set. -/
def runSimple (machine : Machine) (pid line : Nat) (assignments : List (Octets × Word))
    (words : List Word) (redirects : List Redirect) (mode : Mode) : Machine :=
  let machine := machine.updateShell pid fun shell => { shell with line := line }
  match machine.find? pid, machine.shell? pid with
  | some process, some shell =>
    match expandFields (listingFor machine.host process.directory shell.scope) words shell.scope with
    | .error fault => machine.failExpansion pid fault
    | .ok (fields, scope) =>
      let machine := machine.updateShell pid fun shell =>
        { shell with scope := scope, outputStatus := none }
      let special := (fields.head?.map fun name => specialNames.contains name.toText).getD false
      let permanent := fields.head? == some "exec".toList
      match machine.redirectAll pid redirects with
      | (some fault, machine) =>
        machine.failRedirection pid fault special process.descriptors mode
      | (none, machine) =>
        let restoring : List Task :=
          if redirects.isEmpty || permanent then [] else [.restore process.descriptors]
        let current := ((machine.shell? pid).map Shell.scope).getD scope
        match assignAll assignments current with
        | .error fault => machine.failExpansion pid fault
        | .ok (assigned, changed) =>
          let machine := machine.trace process current assigned fields
          match fields with
          | [] =>
            ((machine.push pid restoring).updateScope pid fun _ => changed).settle pid
              (shell.outputStatus.getD 0) mode
          | name :: arguments =>
            let rebinding := if special then [] else rebindings current assignments
            let scope := if special then changed else passOnAll changed assignments
            (machine.updateScope pid fun _ => scope).callFields pid name arguments
              (rebinding ++ restoring) mode
  | _, _ => machine

end Machine

end BuildMonitor.Script
