import BuildMonitor.Host.Basic
import BuildMonitor.Script.Process
import BuildMonitor.Script.Signal

/-!
# The machine that builds run on

The machine holds the processes of builds with what their descriptors lead to, next to the host
whose files they change. A pipe has come to its end when it is empty and no process can write to it
any more. A process that has ended stays until the one that started it has taken note.

Main definitions: `Machine`, `Machine.fork`, `Machine.signal`, `Machine.write`, `Machine.read`.
-/

namespace BuildMonitor.Script

open BuildMonitor.Host

/-- The processes of builds, and the host. -/
structure Machine where
  host : Host
  processes : List ScriptProcess
  channels : List (Nat × Channel)
  pipes : List Pipe
  /-- The number of the next channel or pipe. -/
  nextNumber : Nat
  nextPid : Nat

namespace Machine

/-- The first pid that a process of a build gets. -/
def firstPid : Nat := 30001

/-- A machine without processes. -/
def create (host : Host) : Machine := ⟨host, [], [], [], 1, firstPid⟩

/-! ## Processes -/

/-- The process with a pid. -/
def find? (machine : Machine) (pid : Nat) : Option ScriptProcess :=
  machine.processes.find? (·.pid == pid)

/-- Changes a process. -/
def update (machine : Machine) (pid : Nat) (change : ScriptProcess → ScriptProcess) : Machine :=
  { machine with
    processes := machine.processes.map fun process =>
      if process.pid == pid then change process else process }

/-- Lets the table of the host know that a process exists, or no longer does. Only the table of the
system holds them. -/
def announce (machine : Machine) (pid : Nat) (alive : Bool) : Machine :=
  match machine.host.processes.policy with
  | .system =>
    { machine with host := { machine.host with
        processes := machine.host.processes.setAlive pid alive } }
  | _ => machine

/-- Forgets a process that has ended. -/
def reap (machine : Machine) (pid : Nat) : Machine :=
  let remaining := machine.processes.filter (·.pid != pid)
  ({ machine with processes := remaining }).announce pid false

/-- Whether the process that started another can still take note of its end. -/
def hasParent (machine : Machine) (process : ScriptProcess) : Bool :=
  process.parent = 0 ||
    match machine.find? process.parent with
    | some parent => parent.ended.isNone
    | none => false

/-- Forgets the ended processes whose parents are gone. -/
def reapOrphans (machine : Machine) : Machine :=
  let orphans := machine.processes.filter fun process =>
    process.ended.isSome && !machine.hasParent process
  orphans.foldl (fun machine process => machine.reap process.pid) machine

/-- Ends a process. One that has ended stays as it is. -/
def finish (machine : Machine) (pid : Nat) (status : Build.ExitStatus) : Machine :=
  (machine.update pid fun process =>
    if process.ended.isSome then process
    else { process with ended := some status, descriptors := [] }).reapOrphans

/-- Adds a process like another that has its own pid and runs something of its own. -/
def fork (machine : Machine) (origin : ScriptProcess) (body : Body) : Nat × Machine :=
  let pid := machine.nextPid
  let child := { origin with pid := pid, parent := origin.pid, body := body, ended := none }
  let added := { machine with
    processes := machine.processes ++ [child], nextPid := pid + 1 }
  (pid, added.announce pid true)

/-- What a process runs, if it is a script. -/
def shell? (machine : Machine) (pid : Nat) : Option Shell :=
  match machine.find? pid with
  | some process =>
    match process.body with
    | .shell shell => some shell
    | .program _ => none
  | none => none

/-- Changes the script that a process runs. -/
def updateShell (machine : Machine) (pid : Nat) (change : Shell → Shell) : Machine :=
  machine.update pid fun process =>
    match process.body with
    | .shell shell => { process with body := .shell (change shell) }
    | .program _ => process

/-- Sends a signal to a process. A script that handles it is told; else it ends the process, unless
it is one that does nothing. -/
def signal (machine : Machine) (pid number : Nat) : Machine :=
  match machine.find? pid with
  | none => machine
  | some process =>
    if process.ended.isSome || number = 0 then machine
    else if number = killSignal then machine.finish pid (.signalled number)
    else
      let handler := match process.body with
        | .shell shell => shell.handlers.lookup number
        | .program _ => none
      match handler with
      | some [] => machine
      | some _ =>
        machine.updateShell pid fun shell => { shell with pending := shell.pending ++ [number] }
      | none =>
        if process.ignored.contains number || !endsByDefault number then machine
        else machine.finish pid (.signalled number)

/-! ## Channels -/

/-- The channel that a descriptor of a process leads to. -/
def channelOf? (machine : Machine) (process : ScriptProcess) (descriptor : Nat) :
    Option (Nat × Channel) := do
  let number ← process.descriptors.lookup descriptor
  let channel ← machine.channels.lookup number
  return (number, channel)

/-- Adds a channel. -/
def addChannel (machine : Machine) (channel : Channel) : Nat × Machine :=
  (machine.nextNumber, { machine with
    channels := (machine.nextNumber, channel) :: machine.channels
    nextNumber := machine.nextNumber + 1 })

/-- Sets what a channel is. -/
def setChannel (machine : Machine) (number : Nat) (channel : Channel) : Machine :=
  { machine with
    channels := machine.channels.map fun entry =>
      if entry.1 == number then (number, channel) else entry }

/-- Lets a descriptor of a process lead to a channel. -/
def setDescriptor (machine : Machine) (pid descriptor number : Nat) : Machine :=
  machine.update pid fun process =>
    { process with descriptors :=
        (descriptor, number) :: process.descriptors.filter (·.1 != descriptor) }

/-- Closes a descriptor of a process. -/
def closeDescriptor (machine : Machine) (pid descriptor : Nat) : Machine :=
  machine.update pid fun process =>
    { process with descriptors := process.descriptors.filter (·.1 != descriptor) }

/-- Adds a pipe; `watched` says that something other than a process reads it. -/
def addPipe (machine : Machine) (watched : Bool) : Nat × Machine :=
  (machine.nextNumber, { machine with
    pipes := ⟨machine.nextNumber, [], watched⟩ :: machine.pipes
    nextNumber := machine.nextNumber + 1 })

/-- Whether some process holds a channel. -/
def isHeld (machine : Machine) (wanted : Channel) : Bool :=
  machine.processes.any fun process =>
    process.allDescriptors.any fun entry => machine.channels.lookup entry.2 == some wanted

/-- The bytes in a pipe. -/
def pipeContent (machine : Machine) (pipe : Nat) : List UInt8 :=
  ((machine.pipes.find? (·.number == pipe)).map Pipe.content).getD []

/-- Whether anything reads a pipe. -/
def hasReader (machine : Machine) (pipe : Nat) : Bool :=
  (machine.pipes.any fun held => held.number == pipe && held.watched) ||
    machine.isHeld (.source pipe)

/-- Sets the bytes in a pipe. -/
def setPipeContent (machine : Machine) (pipe : Nat) (content : List UInt8) : Machine :=
  { machine with
    pipes := machine.pipes.map fun held =>
      if held.number == pipe then { held with content := content } else held }

/-- Takes a pipe away. -/
def removePipe (machine : Machine) (pipe : Nat) : Machine :=
  { machine with pipes := machine.pipes.filter (·.number != pipe) }

/-- Whether nothing more can come out of a pipe. -/
def isDrained (machine : Machine) (pipe : Nat) : Bool :=
  (machine.pipeContent pipe).isEmpty && !machine.isHeld (.sink pipe)

/-! ## Writing and reading -/

/-- Puts bytes at an offset of a file; what lay there is replaced. -/
def overwrite (content : Blob) (offset : Nat) (bytes : List UInt8) : Blob :=
  if content.size = offset then content.append bytes
  else
    let held := content.toList
    let missing := List.replicate (offset - held.length) 0
    .ofList (held.take offset ++ missing ++ bytes ++ held.drop (offset + bytes.length))

/-- How writing went. -/
inductive Written where
  | done
  /-- The descriptor leads nowhere. -/
  | closed
  /-- Nobody reads the pipe. -/
  | broken
  deriving DecidableEq, Repr

/-- Writes bytes to a channel. What is written to a file that was removed is lost. -/
def writeChannel (machine : Machine) (number : Nat) (channel : Channel) (bytes : List UInt8) :
    Written × Machine :=
  match channel with
  | .device _ => (.done, machine)
  | .source _ => (.closed, machine)
  | .sink pipe =>
    if machine.hasReader pipe then
      (.done, machine.setPipeContent pipe (machine.pipeContent pipe ++ bytes))
    else (.broken, machine)
  | .file location offset appends =>
    match machine.host.files.get? location with
    | some (.file file) =>
      let start := if appends then file.content.size else offset
      let written := { file with
        content := overwrite file.content start bytes, modified := machine.host.now }
      let files := machine.host.files.set location (.file written)
      let changed := { machine with host := { machine.host with files := files } }
      (.done, changed.setChannel number (.file location (start + bytes.length) appends))
    | _ => (.done, machine)

/-- Lets a process write bytes to a descriptor. A process that writes where nobody reads gets the
signal for that. -/
def write (machine : Machine) (pid descriptor : Nat) (bytes : List UInt8) : Written × Machine :=
  match machine.find? pid with
  | none => (.closed, machine)
  | some process =>
    match machine.channelOf? process descriptor with
    | none => (.closed, machine)
    | some (number, channel) =>
      if bytes.isEmpty then (.done, machine)
      else
        match machine.writeChannel number channel bytes with
        | (.broken, machine) => (.broken, machine.signal pid brokenPipeSignal)
        | written => written

/-- What reading gave. -/
inductive ReadResult where
  | bytes (bytes : List UInt8)
  | finished
  /-- Nothing has come yet. -/
  | blocked
  deriving DecidableEq, Repr

/-- The bytes a channel would give, at most the given number of them. -/
def peek (machine : Machine) (channel : Channel) (count : Nat) : ReadResult :=
  match channel with
  | .device .null => .finished
  | .device .zero => .bytes (List.replicate count 0)
  | .sink _ => .finished
  | .source pipe =>
    match machine.pipeContent pipe with
    | [] => if machine.isHeld (.sink pipe) then .blocked else .finished
    | content => .bytes (content.take count)
  | .file location offset _ =>
    match machine.host.files.get? location with
    | some (.file file) =>
      match (file.content.toList.drop offset).take count with
      | [] => .finished
      | bytes => .bytes bytes
    | _ => .finished

/-- Passes over bytes of a channel. -/
def consume (machine : Machine) (number : Nat) (channel : Channel) (count : Nat) : Machine :=
  match channel with
  | .source pipe => machine.setPipeContent pipe ((machine.pipeContent pipe).drop count)
  | .file location offset appends =>
    machine.setChannel number (.file location (offset + count) appends)
  | _ => machine

/-! ## Opening -/

/-- Why a redirection failed. -/
inductive OpenFault where
  | create (path : Octets) (cause : IoError)
  | inspect (path : Octets) (cause : IoError)
  | badDescriptor (text : Octets)
  deriving DecidableEq, Repr

/-- Whether a cause is that something on the way does not exist. -/
def isMissing (cause : IoError) : Bool := cause == .os .noEntry || cause == .os .notDirectory

/-- The words for a cause, of which the message has no number. -/
def causeText : IoError → String
  | .os code => code.description
  | cause => cause.message

/-- The words for why a redirection failed. -/
def OpenFault.message : OpenFault → String
  | .create path cause =>
    let reason := if isMissing cause then "Directory nonexistent" else causeText cause
    s!"cannot create {path.toText}: {reason}"
  | .inspect path cause =>
    let reason := if isMissing cause then "No such file" else causeText cause
    s!"cannot open {path.toText}: {reason}"
  | .badDescriptor text => s!"{text.toText}: Bad file descriptor"

/-- Opens a file for writing, from its start or at its end. -/
def openToWrite (machine : Machine) (directory : Location) (path : Octets) (appends : Bool) :
    Except OpenFault (Channel × Machine) :=
  let host := machine.host
  let change (content : Blob) := if appends then content else Blob.empty
  match host.files.node directory path.toText with
  | .ok (_, .device kind) => .ok (.device kind, machine)
  | _ =>
    match host.files.update directory path.toText host.now change with
    | .error cause => .error (.create path cause)
    | .ok files =>
      match files.node directory path.toText with
      | .error cause => .error (.create path cause)
      | .ok (location, _) =>
        .ok (.file location 0 appends, { machine with host := { host with files := files } })

/-- Opens a file for reading. -/
def openToRead (machine : Machine) (directory : Location) (path : Octets) :
    Except OpenFault Channel :=
  match machine.host.files.node directory path.toText with
  | .error cause => .error (.inspect path cause)
  | .ok (_, .device kind) => .ok (.device kind)
  | .ok (location, _) => .ok (.file location 0 false)

end Machine

end BuildMonitor.Script
