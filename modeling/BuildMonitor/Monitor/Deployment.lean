import BuildMonitor.Monitor.Setup
import BuildMonitor.Script.Round

/-!
# A monitor at work

A deployed monitor shares a machine with the scripts it has started. A request to the monitor takes
no time: scripts move only between requests, when something is waited for. What has happened to a
script since the last look is told to its task as events.

A monitor may be set up anew on the same machine. The tasks of the earlier one go on, with the log
it had.

Main definitions: `Deployment`, `Deployment.request`, `Deployment.restart`, `Deployment.runUntil`.
-/

namespace BuildMonitor

open BuildMonitor.Host BuildMonitor.Script

/-- A build: the monitor that accepted it, and the number of its task there. -/
structure BuildName where
  monitor : Nat
  task : Nat
  deriving DecidableEq, Repr

/-- The monitors that were set up on a machine, the current one last, and the builds that were
started. The hosts that earlier monitors hold are those they last saw. -/
structure Deployment where
  machine : Machine
  earlier : List Monitor
  current : Monitor
  running : List (BuildName × Machine.Spawned)

namespace Deployment

/-- A monitor on a machine without scripts. -/
def create (monitor : Monitor) : Deployment :=
  ⟨Machine.create monitor.host, [], monitor, []⟩

/-- The number of the current monitor. -/
def currentNumber (deployment : Deployment) : Nat := deployment.earlier.length

/-- The host as it is now. -/
def host (deployment : Deployment) : Host := deployment.machine.host

/-- Changes the host. -/
def withHost (deployment : Deployment) (host : Host) : Deployment :=
  { deployment with machine := { deployment.machine with host := host } }

/-- The monitor of a number, on the host as it is now. -/
def monitor? (deployment : Deployment) (number : Nat) : Option Monitor :=
  let found := if number = deployment.currentNumber then some deployment.current
    else deployment.earlier[number]?
  found.map fun monitor => { monitor with host := deployment.host }

/-- The current monitor, on the host as it is now. -/
def monitor (deployment : Deployment) : Monitor :=
  { deployment.current with host := deployment.host }

/-- Puts a monitor in its place, and its host into the machine. -/
def setMonitor (deployment : Deployment) (number : Nat) (monitor : Monitor) : Deployment :=
  let placed :=
    if number = deployment.currentNumber then { deployment with current := monitor }
    else { deployment with earlier := deployment.earlier.set number monitor }
  placed.withHost monitor.host

/-- Passes on the requests to end that were delivered by the system. -/
def passSignals (deployment : Deployment) (alreadyDelivered : Nat) : Deployment :=
  match deployment.host.processes.policy with
  | .system =>
    let targets := deployment.host.processes.delivered.drop alreadyDelivered
    { deployment with
      machine := targets.foldl (fun machine pid => machine.signal pid terminationSignal)
        deployment.machine }
  | _ => deployment

/-- Makes a request to the current monitor. -/
def request {α : Type} (deployment : Deployment) (act : Monitor → α × Monitor) : α × Deployment :=
  let delivered := deployment.host.processes.delivered.length
  let (answer, monitor) := act deployment.monitor
  (answer, (deployment.setMonitor deployment.currentNumber monitor).passSignals delivered)

/-- Sets up another monitor in the place of the current one. -/
def restart (deployment : Deployment) (monitor : Monitor) : Deployment :=
  { deployment with
    earlier := deployment.earlier ++ [deployment.current]
    current := monitor }

/-! ## Builds under way -/

/-- The task of a build. -/
def task? (deployment : Deployment) (name : BuildName) : Option Build.Task :=
  (deployment.monitor? name.monitor).bind fun monitor => monitor.tasks[name.task]?

/-- How a build ended, if it has. -/
def outcome? (deployment : Deployment) (name : BuildName) : Option Build.Outcome :=
  (deployment.task? name).bind Build.Task.outcome?

/-- Tells the task of a build what has happened. -/
def tell (deployment : Deployment) (name : BuildName) (event : Build.Event) : Deployment :=
  match deployment.monitor? name.monitor with
  | none => deployment
  | some monitor => deployment.setMonitor name.monitor (monitor.advance name.task event)

/-- Starts the script of a build. -/
def launch (deployment : Deployment) (name : BuildName) (command : Build.Command) : Deployment :=
  match deployment.machine.spawn command with
  | .error cause => deployment.tell name (.spawnFailed cause)
  | .ok (spawned, machine) =>
    let started := { deployment with
      machine := machine, running := (name, spawned) :: deployment.running }
    started.tell name .spawned

/-- Tells the task of a build what has come out of its pipe, if anything has. -/
def stream (deployment : Deployment) (name : BuildName) (pipe : Nat) : Option Deployment :=
  let machine := deployment.machine
  match machine.pipeContent pipe with
  | [] =>
    if machine.isDrained pipe then
      some ({ deployment with machine := machine.removePipe pipe }.tell name .outputEnded)
    else none
  | content =>
    some ({ deployment with machine := machine.setPipeContent pipe [] }.tell name (.output content))

/-- Tells the task of a build what has happened since the last look; `none` if nothing has. -/
def pollTask (deployment : Deployment) (name : BuildName) (task : Build.Task) :
    Option Deployment :=
  match task.phase, deployment.running.lookup name with
  | .launching, _ => some (deployment.launch name task.command)
  | .streaming _, some spawned => deployment.stream name spawned.pipe
  | .waiting _, some spawned =>
    (deployment.machine.exitOf? spawned.pid).map fun status =>
      { deployment with machine := deployment.machine.reap spawned.pid }.tell name (.ended status)
  | _, _ => none

/-- The builds that are not over. -/
def openBuilds (deployment : Deployment) : List (BuildName × Build.Task) :=
  let monitors := deployment.earlier ++ [deployment.current]
  monitors.zipIdx.flatMap fun (monitor, number) =>
    monitor.tasks.zipIdx.filterMap fun (task, position) =>
      match task.phase with
      | .finished _ => none
      | _ => some (⟨number, position⟩, task)

/-- Tells every task what has happened since the last look, and says whether anything has. -/
def poll (deployment : Deployment) : Bool × Deployment :=
  deployment.openBuilds.foldl (fun (moved, deployment) (name, task) =>
    match deployment.pollTask name task with
    | some deployment => (true, deployment)
    | none => (moved, deployment)) (false, deployment)

/-! ## Waiting -/

/-- Lets scripts and tasks move until all of them wait. `fuel` bounds the rounds. -/
def settle : (fuel : Nat) → Deployment → Deployment
  | 0, deployment => deployment
  | fuel + 1, deployment =>
    let (told, deployment) := deployment.poll
    let (moved, machine) := deployment.machine.round
    let deployment := { deployment with machine := machine }
    if told || moved then settle fuel deployment else deployment

/-- Lets the time pass until the first script wakes up; `none` if none will. -/
def sleep (deployment : Deployment) : Option Deployment :=
  deployment.machine.nextWake?.map fun wake =>
    if wake.isReachedBy deployment.host.now then deployment
    else deployment.withHost { deployment.host with now := wake }

/-- The rounds that scripts are given before the goal is looked at again. -/
def roundLimit : Nat := 100000

/-- Lets scripts and tasks go on until a goal is reached or nothing moves any more. `fuel` bounds the
times at which something wakes up. -/
def runUntil (goal : Deployment → Bool) : (fuel : Nat) → Deployment → Deployment
  | 0, deployment => deployment
  | fuel + 1, deployment =>
    let settled := settle roundLimit deployment
    if goal settled then settled
    else
      match settled.sleep with
      | some later => runUntil goal fuel later
      | none => settled

/-- The times at which something may wake up while a goal is waited for. -/
def wakeLimit : Nat := 10000

/-- Waits until a build is over. -/
def awaitBuild (deployment : Deployment) (name : BuildName) : Deployment :=
  runUntil (fun deployment => (deployment.outcome? name).isSome) wakeLimit deployment

end Deployment

end BuildMonitor
