import BuildMonitor.Build.Outcome
import BuildMonitor.Host.Files
import BuildMonitor.Script.Command
import BuildMonitor.Script.Filter
import BuildMonitor.Script.Scope
import BuildMonitor.Script.Token

/-!
# Processes of a build

A process runs a script or one of a few programs. A script is run by a list of tasks: each step
takes the first task and may put others in its place, so that a process can stop between any two
steps, wait for another, or be ended from outside.

Main definitions: `Task`, `Shell`, `Program`, `ScriptProcess`, `Channel`, `Pipe`.
-/

namespace BuildMonitor.Script

open BuildMonitor.Host

/-- How a command is run. -/
structure Mode where
  /-- Whether it succeeds is asked for by what is around it, so a failure ends nothing. -/
  tested : Bool
  /-- The process has nothing to do after it. -/
  last : Bool
  deriving DecidableEq, Repr

/-- A command with others after it whose status nobody asks for. -/
def Mode.plain : Mode := ⟨false, false⟩

/-- The descriptors of a process with the channels they lead to. -/
abbrev Descriptors := List (Nat × Nat)

/-- What a script has still to do. -/
inductive Task where
  /-- Reading on in a text; `last` says that nothing follows it. -/
  | script (cursor : Cursor) (last : Bool)
  /-- Reading a text from the standard input to its end, which is then read on. -/
  | gather (text : Octets)
  | run (command : Command) (mode : Mode)
  /-- One of two commands, by the status of the last. -/
  | branch (positive negative : Command) (mode : Mode)
  /-- A command if the last succeeded, or if it failed. -/
  | second (onSuccess : Bool) (command : Command) (mode : Mode)
  /-- Turning the status around. -/
  | negate
  /-- The test of a loop; `status` is what the loop leaves if it ends here. -/
  | loopTest (untilSuccess : Bool) (condition body : Command) (mode : Mode) (status : Nat)
  /-- Going on with a loop after its test. -/
  | loopDecide (untilSuccess : Bool) (condition body : Command) (mode : Mode) (status : Nat)
  /-- Going on with a loop after its body. -/
  | loopAgain (untilSuccess : Bool) (condition body : Command) (mode : Mode)
  /-- The further rounds of a loop over words. -/
  | eachNext (name : Octets) (values : List Octets) (body : Command) (mode : Mode)
  /-- Waiting for a process; the last of several gives the status. -/
  | awaitStages (pids : List Nat) (mode : Mode)
  /-- Waiting for processes as asked by the script. -/
  | awaitAsked (pids : List Nat) (mode : Mode)
  /-- Waiting for the output of a process, which completes a command. -/
  | collect (complete : Octets → Command) (pid pipe : Nat) (mode : Mode)
  /-- Reading a line into variables. -/
  | readLine (names : List Octets) (raw : Bool) (mode : Mode)
  /-- Taking back what messages are labelled with. -/
  | relabel (label : Octets)
  /-- Taking descriptors back. -/
  | restore (descriptors : Descriptors)
  /-- Taking variables back; one that was missing is taken away. -/
  | rebind (name : Octets) (held : Option Binding)
  /-- The end of a function or of a file that was read in, which takes the arguments back. -/
  | endFunction (arguments : List Octets) (mode : Mode)
  /-- The end of what a signal set off, which takes the status back. -/
  | endHandler (status : Nat)
  /-- The end of the process. -/
  | leave (status : Nat)

/-- A running script. -/
structure Shell where
  scope : Scope
  tasks : List Task
  functions : List (Octets × Command)
  /-- What is run on signals, and at the end under zero. Nothing at all passes a signal over. -/
  handlers : List (Nat × Octets)
  /-- The signals that came and are to be handled. -/
  pending : List Nat
  /-- The path of the working directory as the script knows it. -/
  path : Octets
  /-- The line that messages show. -/
  line : Nat
  /-- What messages are labelled with; nothing outside of texts that are run by a command. -/
  label : Octets
  /-- The status of the last command whose output was taken, since the last simple command. -/
  outputStatus : Option Nat
  /-- Processes of the script that ended while it waited for others. -/
  known : List (Nat × Build.ExitStatus)

/-- A running program. -/
inductive Program where
  | sleeping (wake : Instant)
  /-- A filter with the files it has still to read, by the name it has in messages. -/
  | filtering (name : String) (filter : Filter) (inputs : List Octets) (status : Nat)

/-- What a process runs. -/
inductive Body where
  | shell (shell : Shell)
  | program (program : Program)

/-- A process. -/
structure ScriptProcess where
  pid : Nat
  /-- The process that waits for it; zero is the monitor. -/
  parent : Nat
  descriptors : Descriptors
  directory : Location
  body : Body
  /-- The signals that do nothing. -/
  ignored : List Nat
  /-- How it ended, if it has. -/
  ended : Option Build.ExitStatus

/-- The descriptors that are to be taken back by tasks. -/
def setAside : List Task → Descriptors
  | [] => []
  | .restore descriptors :: rest => descriptors ++ setAside rest
  | _ :: rest => setAside rest

/-- The descriptors of a process, and those that its script has set aside. -/
def ScriptProcess.allDescriptors (process : ScriptProcess) : Descriptors :=
  match process.body, process.ended with
  | .shell shell, none => process.descriptors ++ setAside shell.tasks
  | _, _ => process.descriptors

/-- What a descriptor leads to. -/
inductive Channel where
  | file (location : Location) (offset : Nat) (appends : Bool)
  | device (kind : Device)
  /-- The end of a pipe that is read. -/
  | source (pipe : Nat)
  /-- The end of a pipe that is written. -/
  | sink (pipe : Nat)
  deriving DecidableEq, Repr

/-- A pipe: the bytes in it, and whether something other than a process reads it. -/
structure Pipe where
  number : Nat
  content : List UInt8
  watched : Bool
  deriving DecidableEq, Repr

end BuildMonitor.Script
