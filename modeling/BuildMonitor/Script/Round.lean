import BuildMonitor.Build.Command
import BuildMonitor.Script.Step

/-!
# Running side by side

The processes of a machine take turns: in each round every process that need not wait takes one
step. When none can move, nothing happens until the next time at which one wakes up.

A build comes in as a process that reads nothing and writes both of its outputs to one pipe, which
the monitor reads.

Main definitions: `Machine.spawn`, `Machine.round`, `Machine.nextWake?`.
-/

namespace BuildMonitor.Script

open BuildMonitor.Host

namespace Machine

/-! ## Programs -/

/-- The descriptor on which a filter reads the files that are named to it. -/
def inputDescriptor : Nat := 100

/-- What a filter says of a file that it cannot open. -/
def openComplaint (name : String) (path : Octets) (cause : IoError) : String :=
  if name = "head" then
    s!"head: cannot open '{path.toText}' for reading: {causeText cause}"
  else s!"{name}: {path.toText}: {causeText cause}"

/-- What a filter says of a directory. -/
def directoryComplaint (name : String) (path : Octets) : String :=
  if name = "head" then s!"head: error reading '{path.toText}': Is a directory"
  else s!"{name}: {path.toText}: Is a directory"

/-- Whether a channel leads to a directory. -/
def leadsToDirectory (machine : Machine) (channel : Channel) : Bool :=
  match channel with
  | .file location _ _ => ((machine.host.files.get? location).map Node.isDirectory).getD false
  | _ => false

/-- Lets a filter read its next input; `none` if it has to wait. -/
def stepFilter (machine : Machine) (pid : Nat) (process : ScriptProcess) (name : String)
    (filter : Filter) (inputs : List Octets) (status : Nat) : Option Machine :=
  let proceed (machine : Machine) (filter : Filter) (inputs : List Octets) (status : Nat) :=
    machine.setBody pid (.program (.filtering name filter inputs status))
  let complain (text : String) (rest : List Octets) :=
    let told := (machine.write pid 2 (messageLine text).toBytes).2
    some (proceed (told.closeDescriptor pid inputDescriptor) filter rest 1)
  match inputs with
  | [] => some (machine.finish pid (.exited status))
  | input :: rest =>
    let standard := input = ['-']
    match machine.channelOf? process (if standard then 0 else inputDescriptor) with
    | none =>
      if standard then complain s!"{name}: -: Bad file descriptor" rest
      else
        match machine.openToRead process.directory input with
        | .ok channel =>
          some (proceed (machine.openChannel pid inputDescriptor channel) filter inputs status)
        | .error (.inspect path cause) => complain (openComplaint name path cause) rest
        | .error fault => complain s!"{name}: {fault.message}" rest
    | some (number, channel) =>
      if machine.leadsToDirectory channel then complain (directoryComplaint name input) rest
      else if filter.wantsNothing then some (machine.finish pid (.exited status))
      else
        match machine.peek channel chunkSize with
        | .blocked => none
        | .finished =>
          some (proceed (machine.closeDescriptor pid inputDescriptor) filter rest status)
        | .bytes bytes =>
          let filtered := filter.push bytes
          let consumed := machine.consume number channel bytes.length
          match consumed.write pid 1 filtered.output with
          | (.broken, machine) => some machine
          | (.closed, machine) =>
            some (machine.exitAfter pid []
              (messageLine s!"{name}: write error: Bad file descriptor") 1)
          | (.done, machine) =>
            if filtered.finished then some (machine.finish pid (.exited status))
            else some (proceed machine filtered.next inputs status)

/-- Lets a program take one step; `none` if it has to wait. -/
def stepProgram (machine : Machine) (pid : Nat) (process : ScriptProcess) (program : Program) :
    Option Machine :=
  match program with
  | .sleeping wake =>
    if wake.isReachedBy machine.host.now then some (machine.finish pid (.exited 0)) else none
  | .filtering name filter inputs status =>
    machine.stepFilter pid process name filter inputs status

/-! ## Rounds -/

/-- Lets a process take one step; `none` if it has to wait or has ended. -/
def stepProcess (machine : Machine) (pid : Nat) : Option Machine :=
  match machine.find? pid with
  | none => none
  | some process =>
    if process.ended.isSome then none
    else
      match process.body with
      | .shell shell => machine.stepShell pid process shell
      | .program program => machine.stepProgram pid process program

/-- Lets each process take one step, and says whether any did. -/
def round (machine : Machine) : Bool × Machine :=
  (machine.processes.map (·.pid)).foldl (fun (moved, machine) pid =>
    match machine.stepProcess pid with
    | some machine => (true, machine)
    | none => (moved, machine)) (false, machine)

/-- The earlier of two times. -/
def earlier (first second : Instant) : Instant :=
  if first.isReachedBy second then first else second

/-- The time at which the first sleeping process wakes up. -/
def nextWake? (machine : Machine) : Option Instant :=
  machine.processes.foldl (fun found process =>
    match process.ended, process.body with
    | none, .program (.sleeping wake) =>
      some (match found with
        | none => wake
        | some other => earlier other wake)
    | _, _ => found) none

/-! ## Builds -/

/-- A build that was started: its process, and the pipe that its output comes out of. -/
structure Spawned where
  pid : Nat
  pipe : Nat
  deriving DecidableEq, Repr

/-- Starts the script of a build in its working directory. -/
def spawn (machine : Machine) (command : Build.Command) : Except IoError (Spawned × Machine) :=
  match machine.host.files.node [] command.workingDirectory with
  | .error cause => .error cause
  | .ok (directory, .directory _) =>
    let pid := machine.nextPid
    let (pipe, machine) := machine.addPipe true
    let (silence, machine) := machine.addChannel (.device .null)
    let (output, machine) := machine.addChannel (.sink pipe)
    let process : ScriptProcess :=
      { pid := pid
        parent := 0
        descriptors := [(0, silence), (1, output), (2, output)]
        directory := directory
        body := .program (.sleeping machine.host.now)
        ignored := []
        ended := none }
    let machine := { machine with
      processes := machine.processes ++ [process], nextPid := pid + 1 }
    let environment := command.environment.map fun entry =>
      (⟨Octets.ofText entry.1, Octets.ofText entry.2, true⟩ : Binding)
    match (machine.announce pid true).become pid directory (Octets.ofText command.script)
        ⟨[], environment⟩ with
    | .ok machine => .ok (⟨pid, pipe⟩, machine)
    | .error fault => .error fault.cause
  | .ok _ => .error (.os .notDirectory)

end Machine

end BuildMonitor.Script
