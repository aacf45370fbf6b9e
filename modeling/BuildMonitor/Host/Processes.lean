import BuildMonitor.Text.Integer

/-!
# Processes

The monitor asks two things of the processes of a host: whether one exists, and that one end. A
process is named by its pid. Three ways of answering are told apart. The *system* addresses real
processes, so a number that no process can have is never passed on: zero and negative raw values
would reach groups of processes. A *recorded* table answers from a list and only notes requests. The
other two refuse every request, as a process that is gone or may not be signalled does.

Main definitions: `Processes`, `Processes.isAlive`, `Processes.terminate`, `SignalError.message`.
-/

namespace BuildMonitor.Host

open BuildMonitor.Text

/-- The greatest pid. -/
def greatestPid : Nat := maxSigned 32

/-- Why a request to end did not reach a process. -/
inductive SignalError where
  /-- There is no such process. -/
  | noSuchProcess (pid : Nat)
  /-- The process exists, but the request was refused. -/
  | refused (pid : Nat) (reason : String)
  deriving DecidableEq, Repr

/-- The words for a failed request. -/
def SignalError.message : SignalError → String
  | .noSuchProcess pid => s!"no process with pid {pid}"
  | .refused pid reason => s!"signal to pid {pid} failed: {reason}"

/-- How requests are answered. -/
inductive SignalPolicy where
  /-- By the operating system. -/
  | system
  /-- By noting the request, if the process is in the table. -/
  | recorded
  /-- As if the process had ended just before. -/
  | vanishing
  /-- By a refusal with the given reason. -/
  | refusing (reason : String)
  deriving DecidableEq, Repr

/-- The processes of a host and the requests that were delivered to them, oldest first. -/
structure Processes where
  policy : SignalPolicy
  live : List Nat
  delivered : List Nat
  deriving DecidableEq, Repr

namespace Processes

/-- No process, under a policy. -/
def empty (policy : SignalPolicy) : Processes := ⟨policy, [], []⟩

/-- The raw value by which the operating system addresses one process, if the pid has one. -/
def rawTarget? (pid : Nat) : Option Int :=
  if 0 < pid ∧ pid ≤ greatestPid then some pid else none

/-- Whether a process exists. -/
def isAlive (processes : Processes) (pid : Nat) : Bool :=
  match processes.policy with
  | .system => (rawTarget? pid).isSome && processes.live.contains pid
  | _ => processes.live.contains pid

/-- Notes a request that was delivered. -/
def deliver (processes : Processes) (pid : Nat) : Processes :=
  { processes with delivered := processes.delivered ++ [pid] }

/-- Asks a process to end. Nothing changes unless the request is delivered. -/
def terminate (processes : Processes) (pid : Nat) : Except SignalError Processes :=
  match processes.policy with
  | .system =>
    match rawTarget? pid with
    | none => .error (.noSuchProcess pid)
    | some _ =>
      if processes.live.contains pid then .ok (processes.deliver pid)
      else .error (.noSuchProcess pid)
  | .recorded =>
    if processes.live.contains pid then .ok (processes.deliver pid)
    else .error (.noSuchProcess pid)
  | .vanishing => .error (.noSuchProcess pid)
  | .refusing reason => .error (.refused pid reason)

/-- Adds a process or takes it away. -/
def setAlive (processes : Processes) (pid : Nat) (alive : Bool) : Processes :=
  let others := processes.live.filter (· != pid)
  { processes with live := if alive then pid :: others else others }

end Processes

end BuildMonitor.Host
