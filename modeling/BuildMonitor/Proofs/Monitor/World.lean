import BuildMonitor.Proofs.Monitor.Tasks

/-!
# A monitor in its surroundings

A `World` is a monitor with the scripts that were launched for it. A run of a world is any sequence
of requests, of steps of scripts and tasks, and of changes of the surroundings, each of which can
happen in its turn; the surroundings may do anything but make the marker and the log the same file.

In a `Disciplined` run the scripts and the surroundings do their part: every script has published
its pid before the next request, and the marker keeps the pid until the script has exited.

Main definitions: `World`, `Event`, `World.apply`, `Possible`, `Disciplined`.
-/

namespace BuildMonitor.Slot

open Host

/-- How far a script has come. -/
inductive Stage where
  /-- It runs, and has not yet written its pid to the marker. -/
  | silent
  /-- It runs, and has written its pid to the marker. -/
  | published
  /-- It has exited. -/
  | exited
  deriving DecidableEq, Repr

/-- A script that was launched, for a task and as a process. -/
structure Script where
  task : Nat
  pid : Nat
  stage : Stage
  deriving DecidableEq, Repr

namespace Script

/-- Whether the script still runs. -/
def isAlive (script : Script) : Bool := script.stage != .exited

/-- The script once it has published its pid. -/
def publish (script : Script) : Script :=
  if script.stage = .silent then { script with stage := .published } else script

/-- The script once it has exited. -/
def exit (script : Script) : Script := { script with stage := .exited }

end Script

/-- A monitor and the scripts that were launched for its tasks, oldest first. -/
structure World where
  monitor : Monitor
  scripts : List Script

/-- What happens in a world. -/
inductive Event where
  /-- A request to the monitor is carried out. -/
  | request (request : Request)
  /-- The script of a task is launched, as a new process. -/
  | launch (task pid : Nat)
  /-- A task is told anything else: that its script could not be launched, printed or ended. -/
  | report (task : Nat) (event : Build.Event)
  /-- A script writes its pid to the marker, which leaves the surroundings as given. -/
  | publish (index : Nat) (host : Host)
  /-- A script exits, which leaves the surroundings as given. -/
  | exit (index : Nat) (host : Host)
  /-- Anything else changes the surroundings: processes, the clock, files, the marker among them. -/
  | surroundings (host : Host)

namespace World

/-- The world with other surroundings. -/
def withHost (world : World) (host : Host) : World :=
  { world with monitor := { world.monitor with host := host } }

/-- The world with one script changed. -/
def withScript (world : World) (index : Nat) (change : Script → Script) : World :=
  { world with scripts := world.scripts.modify index change }

/-- The world in which there is a process more. -/
def withProcess (world : World) (pid : Nat) : World :=
  world.withHost
    { world.monitor.host with processes := world.monitor.host.processes.setAlive pid true }

/-- The world after an event. -/
def apply (world : World) : Event → World
  | .request request => { world with monitor := request.perform world.monitor }
  | .launch task pid =>
    { monitor := (world.withProcess pid).monitor.advance task .spawned
      scripts := world.scripts ++ [⟨task, pid, .silent⟩] }
  | .report task event => { world with monitor := world.monitor.advance task event }
  | .publish index host => (world.withHost host).withScript index .publish
  | .exit index host => (world.withHost host).withScript index .exit
  | .surroundings host => world.withHost host

/-- The marker names the process. -/
def MarkerNames (world : World) (pid : Nat) : Prop :=
  Marker.Names world.monitor.host world.monitor.markerPath pid

/-- The event can happen in the world. A script is launched when its task waits for that; whatever
changes the surroundings leaves the marker and the log different files. -/
def Allows (world : World) : Event → Prop
  | .request _ => True
  | .launch number _ => ∃ task, world.monitor.tasks[number]? = some task ∧ task.isLaunching = true
  | .report _ event => event ≠ .spawned
  | .publish index host =>
    (world.withHost host).monitor.Separate ∧
      ∃ script, world.scripts[index]? = some script ∧ script.stage = .silent ∧
        (world.withHost host).MarkerNames script.pid
  | .exit index host =>
    (world.withHost host).monitor.Separate ∧
      ∃ script, world.scripts[index]? = some script ∧ script.isAlive = true
  | .surroundings host => (world.withHost host).monitor.Separate

/-- Every script that is alive is a live process, and named in the marker if it has published its
pid. -/
def Kept (world : World) : Prop :=
  ∀ script ∈ world.scripts, script.isAlive = true →
    script.pid ∈ world.monitor.host.processes.live ∧
      (script.stage = .published → world.MarkerNames script.pid)

/-- Every script of an accepted build has been launched and has published its pid. -/
def Settled (world : World) : Prop :=
  world.monitor.launching = 0 ∧ ∀ script ∈ world.scripts, script.stage ≠ .silent

/-- The scripts and the surroundings do their part: requests come when the world is settled, and
what the marker says of a live script stays. -/
def Obeys (world : World) : Event → Prop
  | .request _ => world.Settled
  | .launch _ _ | .report _ _ => True
  | .publish index host => (world.apply (.publish index host)).Kept
  | .exit index host => (world.apply (.exit index host)).Kept
  | .surroundings host => (world.apply (.surroundings host)).Kept

end World

open World

/-- The world after events. -/
def run (world : World) (events : List Event) : World := events.foldl apply world

/-- Every event can happen in its turn. -/
def Possible (world : World) : List Event → Prop
  | [] => True
  | event :: rest => world.Allows event ∧ Possible (world.apply event) rest

/-- The scripts and the surroundings do their part throughout. -/
def Disciplined (world : World) : List Event → Prop
  | [] => True
  | event :: rest => world.Obeys event ∧ Disciplined (world.apply event) rest

/-- A run ends with its last event. -/
theorem run_concat (world : World) (events : List Event) (event : Event) :
    run world (events ++ [event]) = (run world events).apply event := by
  simp [run, List.foldl_append]

end BuildMonitor.Slot
