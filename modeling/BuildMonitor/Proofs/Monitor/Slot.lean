import BuildMonitor.Proofs.Monitor.World

/-!
# The build slot

The monitor stores nowhere that a build runs. That no two builds run at once is not a fact about the
monitor but about the monitor and its surroundings together.

The monitor does its part in every run: a script is launched for a request to start that found no
marker, and for none other, and only a request to clear the marker touches it. When the scripts do
theirs, a script that is alive is named in the marker, every request to start is refused, and the
slot is never taken twice. That live processes have different pids is not needed.

Main definitions: `Accounted`, `Guarded`. Main statement: `build_slot_safety`.
-/

namespace BuildMonitor.Slot

open Host World

variable {world initial : World} {event : Event} {events : List Event}

/-! ## What the monitor does by itself -/

/-- What clearing the marker leaves: the marker is as it was, or it is gone and named no live
process. -/
theorem clearLock_spares_or_removes {monitor : Monitor} (separate : monitor.Separate) :
    Spares monitor.clearLock.2 monitor ∨
      (∀ pid, monitor.check ≠ .running pid) ∧ monitor.clearLock.2.Separate ∧
        monitor.clearLock.2.host.processes = monitor.host.processes ∧
        monitor.clearLock.2.markerPath = monitor.markerPath ∧
        monitor.clearLock.2.host.node? monitor.markerPath = none := by
  rcases clearLock_cases monitor with ⟨pid, -, refused⟩ | ⟨free, cleared⟩
  · rw [refused]
    exact Or.inl (Spares.refl separate)
  · rw [cleared]
    obtain ⟨only, same | removed⟩ := monitor.host.remove_snd monitor.markerPath
    · exact Or.inl ⟨rfl, rfl, congrArg Processes.live only.processes, apart_remove separate,
        node?_of_files_eq only same⟩
    · exact Or.inr ⟨free, apart_remove separate, only.processes, rfl,
        node?_of_unlink only.directory removed⟩

/-- The marker and the log stay different files. -/
theorem separate_apply (separate : world.monitor.Separate) (allowed : world.Allows event) :
    (world.apply event).monitor.Separate := by
  cases event with
  | request request =>
    by_cases clears : request = .clearLock
    · subst clears
      rcases clearLock_spares_or_removes separate with spares | ⟨-, separate', -⟩
      · exact spares.separate
      · exact separate'
    · exact (spares_perform separate clears).separate
  | launch task pid =>
    have born : (world.withProcess pid).monitor.Separate := separate
    exact (spares_advance born task .spawned).separate
  | report task event => exact (spares_advance separate task event).separate
  | publish index host => exact allowed.1
  | exit index host => exact allowed.1
  | surroundings host => exact allowed

/-- The marker stays apart from the log whatever happens. -/
theorem separate_run (separate : initial.monitor.Separate) (possible : Possible initial events) :
    (run initial events).monitor.Separate := by
  induction events generalizing initial with
  | nil => exact separate
  | cons event rest inductionHypothesis =>
    exact inductionHypothesis (separate_apply separate possible.1) possible.2

/-! ## Every launch has its request -/

/-- A request to start that found no marker accepted the build of the task. -/
def Accepted (initial : World) (events : List Event) (number : Nat) : Prop :=
  ∃ before after, events = before ++ .request .start :: after ∧
    Marker.Missing (run initial before).monitor.host (run initial before).monitor.markerPath ∧
    (run initial before).monitor.start.1 = .ok number

/-- The process was launched, for a task that a request to start had accepted before, finding no
marker. -/
def LaunchedByStart (initial : World) (events : List Event) (number pid : Nat) : Prop :=
  ∃ before between after,
    events = before ++ .request .start :: (between ++ .launch number pid :: after) ∧
    Marker.Missing (run initial before).monitor.host (run initial before).monitor.markerPath ∧
    (run initial before).monitor.start.1 = .ok number

/-- A build that was accepted stays so when more happens. -/
theorem Accepted.concat {number : Nat} (accepted : Accepted initial events number) (event : Event) :
    Accepted initial (events ++ [event]) number := by
  obtain ⟨before, after, rfl, missing, started⟩ := accepted
  exact ⟨before, after ++ [event], by simp, missing, started⟩

/-- A script that is launched for an accepted build was launched by a start. -/
theorem Accepted.launch {number : Nat} (accepted : Accepted initial events number) (pid : Nat) :
    LaunchedByStart initial (events ++ [.launch number pid]) number pid := by
  obtain ⟨before, after, rfl, missing, started⟩ := accepted
  exact ⟨before, after, [], by simp, missing, started⟩

/-- A script that was launched by a start stays so when more happens. -/
theorem LaunchedByStart.concat {number pid : Nat}
    (launched : LaunchedByStart initial events number pid) (event : Event) :
    LaunchedByStart initial (events ++ [event]) number pid := by
  obtain ⟨before, between, after, rfl, missing, started⟩ := launched
  exact ⟨before, between, after ++ [event], by simp, missing, started⟩

/-- Every task of a world was accepted, and every script launched for a task of its own, which does
not wait for it any more. -/
structure Accounted (initial : World) (events : List Event) (world : World) : Prop where
  accepted : ∀ number < world.monitor.tasks.length, Accepted initial events number
  launched : ∀ script ∈ world.scripts, LaunchedByStart initial events script.task script.pid
  started : ∀ script ∈ world.scripts,
    ∃ task, world.monitor.tasks[script.task]? = some task ∧ task.isLaunching = false
  once : (world.scripts.map Script.task).Nodup

/-- A request adds a task only when it is accepted. -/
theorem tasks_perform (monitor : Monitor) (request : Request) :
    (request.perform monitor).tasks = monitor.tasks ∨
      request = .start ∧ Marker.Missing monitor.host monitor.markerPath ∧
        monitor.start.1 = .ok monitor.tasks.length ∧
        (request.perform monitor).tasks = monitor.tasks ++ [.launch monitor.command] := by
  cases request with
  | status | logs | artifact => exact Or.inl rfl
  | start =>
    rcases start_cases monitor with ⟨missing, started⟩ | ⟨error, -, started⟩
    · exact Or.inr ⟨rfl, missing, by rw [started], by rw [Request.perform, started]; rfl⟩
    · exact Or.inl (by rw [Request.perform, started])
  | stop =>
    rcases stop_cases monitor with ⟨pid, processes, -, -, stopped⟩ | ⟨error, stopped⟩
    · exact Or.inl (by rw [Request.perform, stopped]; rfl)
    · exact Or.inl (by rw [Request.perform, stopped])
  | clearLock =>
    rcases clearLock_cases monitor with ⟨pid, -, refused⟩ | ⟨-, cleared⟩
    · exact Or.inl (by rw [Request.perform, refused])
    · exact Or.inl (by rw [Request.perform, cleared])

/-- A change of a script that leaves its task and its process. -/
structure Script.Keeps (change : Script → Script) : Prop where
  task : ∀ script, (change script).task = script.task
  pid : ∀ script, (change script).pid = script.pid
  alive : ∀ script, (change script).isAlive = true → script.isAlive = true

/-- A script that publishes its pid keeps its task and its process. -/
theorem Script.keeps_publish : Script.Keeps Script.publish := by
  constructor <;> intro script <;> unfold Script.publish <;> split
  · rfl
  · rfl
  · rfl
  · rfl
  · next silent => simp [Script.isAlive, silent]
  · exact id

/-- A script that exits keeps its task and its process. -/
theorem Script.keeps_exit : Script.Keeps Script.exit :=
  ⟨fun _ => rfl, fun _ => rfl, fun _ alive => by cases alive⟩

/-- A script of a world in which one script was changed has the task and the process of an earlier
one. -/
theorem exists_of_mem_withScript {change : Script → Script} (keeps : Script.Keeps change)
    {index : Nat} {script : Script} (member : script ∈ (world.withScript index change).scripts) :
    ∃ earlier ∈ world.scripts, script.task = earlier.task ∧ script.pid = earlier.pid := by
  obtain ⟨place, inside, rfl⟩ := List.getElem_of_mem member
  simp only [World.withScript, List.length_modify] at inside
  simp only [World.withScript, List.getElem_modify]
  refine ⟨world.scripts[place], List.getElem_mem inside, ?_⟩
  split
  · exact ⟨keeps.task _, keeps.pid _⟩
  · exact ⟨rfl, rfl⟩

/-- A change that keeps the task of a script keeps the tasks of all scripts. -/
theorem map_task_withScript {change : Script → Script} (keeps : Script.Keeps change) (index : Nat) :
    (world.withScript index change).scripts.map Script.task = world.scripts.map Script.task := by
  refine List.ext_getElem (by simp [World.withScript]) ?_
  intro place inside inside'
  simp only [World.withScript, List.getElem_map, List.getElem_modify]
  split
  · exact keeps.task _
  · rfl

/-- A change that keeps a script does not bring one back to life. -/
theorem countP_withScript_le (world : World) {change : Script → Script}
    (keeps : Script.Keeps change) (index : Nat) :
    (world.withScript index change).scripts.countP Script.isAlive ≤
      world.scripts.countP Script.isAlive := by
  show (world.scripts.modify index change).countP Script.isAlive ≤ _
  induction world.scripts generalizing index with
  | nil => simp
  | cons script rest inductionHypothesis =>
    cases index with
    | zero =>
      have alive := keeps.alive script
      simp only [List.modify_zero_cons, List.countP_cons]
      split
      · next after => simp only [alive after, if_true, Nat.le_refl]
      · omega
    | succ index =>
      have shorter := inductionHypothesis index
      simp only [List.modify_succ_cons, List.countP_cons]
      omega

/-- A world with the same tasks and scripts is accounted for. -/
theorem Accounted.of_same_tasks {other : World} (accounted : Accounted initial events world)
    (tasks : other.monitor.tasks = world.monitor.tasks) (scripts : other.scripts = world.scripts) :
    Accounted initial (events ++ [event]) other := by
  refine ⟨?_, ?_, ?_, ?_⟩
  · intro number inside
    exact (accounted.accepted number (tasks ▸ inside)).concat event
  · intro script member
    exact (accounted.launched script (scripts ▸ member)).concat event
  · intro script member
    rw [tasks]
    exact accounted.started script (scripts ▸ member)
  · rw [scripts]
    exact accounted.once

/-- A world with a script changed is accounted for if the change keeps the script. -/
theorem Accounted.withScript {other : World} {change : Script → Script} {index : Nat}
    (accounted : Accounted initial events world) (keeps : Script.Keeps change)
    (tasks : other.monitor.tasks = world.monitor.tasks) (scripts : other.scripts = world.scripts) :
    Accounted initial (events ++ [event]) (other.withScript index change) := by
  obtain ⟨accepted, launched, started, once⟩ : Accounted initial (events ++ [event]) other :=
    accounted.of_same_tasks tasks scripts
  refine ⟨accepted, ?_, ?_, ?_⟩
  · intro script member
    obtain ⟨earlier, inside, task, pid⟩ := exists_of_mem_withScript keeps member
    rw [task, pid]
    exact launched earlier inside
  · intro script member
    obtain ⟨earlier, inside, task, -⟩ := exists_of_mem_withScript keeps member
    rw [task]
    exact started earlier inside
  · rw [map_task_withScript keeps]
    exact once

/-- What a task is told leaves it accepted, and its script launched. -/
theorem Accounted.advance (accounted : Accounted initial events world) (event : Event)
    (number : Nat) (told : Build.Event) :
    Accounted initial (events ++ [event])
      { world with monitor := world.monitor.advance number told } := by
  refine ⟨?_, ?_, ?_, accounted.once⟩
  · intro other inside
    rw [length_tasks_advance] at inside
    exact (accounted.accepted other inside).concat event
  · intro script member
    exact (accounted.launched script member).concat event
  · intro script member
    obtain ⟨task, found, waits⟩ := accounted.started script member
    have inside : script.task < (world.monitor.advance number told).tasks.length := by
      rw [length_tasks_advance]
      exact (List.getElem?_eq_some_iff.mp found).1
    have there := List.getElem?_eq_getElem inside
    refine ⟨_, there, ?_⟩
    obtain ⟨earlier, found', launches⟩ := isLaunching_of_advance there
    rw [found] at found'
    cases found'
    exact Bool.eq_false_iff.mpr fun after => absurd (launches after) (by simp [waits])

/-- A request that adds a task is the request that accepted it. -/
theorem Accounted.request (accounted : Accounted initial events world)
    (reached : run initial events = world) (request : Request) :
    Accounted initial (events ++ [.request request]) (world.apply (.request request)) := by
  rcases tasks_perform world.monitor request with same | ⟨rfl, missing, started, added⟩
  · exact accounted.of_same_tasks same rfl
  · refine ⟨?_, ?_, ?_, accounted.once⟩
    · intro number inside
      rw [World.apply, added, List.length_append, List.length_singleton] at inside
      rcases Nat.lt_succ_iff_lt_or_eq.mp inside with old | rfl
      · exact (accounted.accepted number old).concat _
      · exact ⟨events, [], rfl, by rw [reached]; exact missing, by rw [reached]; exact started⟩
    · intro script member
      exact (accounted.launched script member).concat _
    · intro script member
      obtain ⟨task, found, waits⟩ := accounted.started script member
      refine ⟨task, ?_, waits⟩
      rw [World.apply, added]
      rw [List.getElem?_append_left (List.getElem?_eq_some_iff.mp found).1]
      exact found

/-- A task that waits for its script has none yet. -/
theorem Accounted.not_mem_of_isLaunching (accounted : Accounted initial events world) {number : Nat}
    {task : Build.Task} (found : world.monitor.tasks[number]? = some task)
    (waits : task.isLaunching = true) : number ∉ world.scripts.map Script.task := by
  intro member
  obtain ⟨script, inside, rfl⟩ := List.mem_map.mp member
  obtain ⟨task', found', started⟩ := accounted.started script inside
  rw [found] at found'
  cases found'
  rw [waits] at started
  cases started

/-- A script that is launched is the first of its task, which was accepted. -/
theorem Accounted.launch (accounted : Accounted initial events world) {number pid : Nat}
    (allowed : world.Allows (.launch number pid)) :
    Accounted initial (events ++ [.launch number pid]) (world.apply (.launch number pid)) := by
  obtain ⟨task, found, waits⟩ := allowed
  have born : Accounted initial events (world.withProcess pid) :=
    ⟨accounted.accepted, accounted.launched, accounted.started, accounted.once⟩
  have told := born.advance (.launch number pid) number .spawned
  refine ⟨told.accepted, ?_, ?_, ?_⟩
  · intro script member
    rcases List.mem_append.mp member with old | new
    · exact told.launched script old
    · rw [List.mem_singleton.mp new]
      exact (accounted.accepted number (List.getElem?_eq_some_iff.mp found).1).launch pid
  · intro script member
    rcases List.mem_append.mp member with old | new
    · exact told.started script old
    · rw [List.mem_singleton.mp new]
      have there : (world.withProcess pid).monitor.tasks[number]? = some task := found
      exact ⟨_, tasks_advance_self there .spawned, task.isLaunching_step_spawned _ _⟩
  · have fresh := accounted.not_mem_of_isLaunching found waits
    simp only [World.apply, List.map_append, List.map_cons, List.map_nil]
    rw [List.nodup_append]
    refine ⟨accounted.once, by simp, ?_⟩
    intro old inside new same
    rw [List.mem_singleton] at same
    rintro rfl
    exact fresh (same ▸ inside)

/-- Every event keeps the account. -/
theorem Accounted.apply (accounted : Accounted initial events world) (allowed : world.Allows event)
    (reached : run initial events = world) :
    Accounted initial (events ++ [event]) (world.apply event) := by
  cases event with
  | request request => exact accounted.request reached request
  | launch number pid => exact accounted.launch allowed
  | report number told => exact accounted.advance _ number told
  | publish index host => exact accounted.withScript Script.keeps_publish rfl rfl
  | exit index host => exact accounted.withScript Script.keeps_exit rfl rfl
  | surroundings host => exact accounted.of_same_tasks rfl rfl

/-- A world is accounted for whatever happens. -/
theorem Accounted.run {past : List Event} (accounted : Accounted initial past world)
    (reached : Slot.run initial past = world) (possible : Possible world events) :
    Accounted initial (past ++ events) (run world events) := by
  induction events generalizing world past with
  | nil => rw [List.append_nil]; exact accounted
  | cons event rest inductionHypothesis =>
    have next := inductionHypothesis (accounted.apply possible.1 reached)
      (by rw [run_concat, reached]) possible.2
    rwa [List.append_assoc] at next

/-! ## One script at a time -/

/-- The number of builds that take up the slot: those whose script is still to be launched, and
those whose script is alive. -/
def World.taken (world : World) : Nat :=
  world.monitor.launching + world.scripts.countP Script.isAlive

/-- At most one build takes up the slot, and the marker tells of it. -/
structure Guarded (world : World) : Prop where
  slot : world.taken ≤ 1
  separate : world.monitor.Separate
  kept : world.Kept

/-- A marker that names no live process leaves no script of a settled world alive. -/
theorem Guarded.countP_eq_zero (guarded : Guarded world) (settled : world.Settled)
    (free : ∀ pid, world.monitor.check ≠ .running pid) :
    world.scripts.countP Script.isAlive = 0 := by
  rw [List.countP_eq_zero]
  intro script member alive
  obtain ⟨live, names⟩ := guarded.kept script member alive
  have published : script.stage = .published := by
    cases stage : script.stage with
    | silent => exact absurd stage (settled.2 script member)
    | published => rfl
    | exited => simp [Script.isAlive, stage] at alive
  exact free script.pid ((names published).check_eq live)

/-- Where no script is alive there is nothing for the marker to tell. -/
theorem kept_of_countP_eq_zero (none : world.scripts.countP Script.isAlive = 0) : world.Kept := by
  intro script member alive
  exact absurd alive (List.countP_eq_zero.mp none script member)

/-- What spares the marker keeps what it tells. -/
theorem Kept.of_spares {other : World} (kept : world.Kept) (scripts : other.scripts = world.scripts)
    (spares : Spares other.monitor world.monitor) : other.Kept := by
  intro script member alive
  obtain ⟨live, names⟩ := kept script (scripts ▸ member) alive
  refine ⟨spares.live ▸ live, fun published => ?_⟩
  rw [World.MarkerNames, spares.marker]
  exact (names published).of_node?_eq spares.node

/-- A settled world stays guarded when a request is made. -/
theorem Guarded.request (guarded : Guarded world) (settled : world.Settled) (request : Request) :
    Guarded (world.apply (.request request)) := by
  have quiet : world.monitor.launching = 0 := settled.1
  have slot := guarded.slot
  by_cases clears : request = .clearLock
  · subst clears
    have sameTasks : world.monitor.clearLock.2.tasks = world.monitor.tasks := by
      rcases tasks_perform world.monitor .clearLock with same | ⟨starts, -⟩
      · exact same
      · cases starts
    have taken : (world.apply (.request .clearLock)).taken = world.taken := by
      simp only [World.taken, Monitor.launching, World.apply, Request.perform, sameTasks]
    rcases clearLock_spares_or_removes guarded.separate with spares | ⟨free, separate, -⟩
    · exact ⟨taken ▸ slot, spares.separate, Kept.of_spares guarded.kept rfl spares⟩
    · exact ⟨taken ▸ slot, separate, kept_of_countP_eq_zero (guarded.countP_eq_zero settled free)⟩
  · have spares := spares_perform guarded.separate clears
    refine ⟨?_, spares.separate, Kept.of_spares guarded.kept rfl spares⟩
    rcases tasks_perform world.monitor request with same | ⟨-, missing, -, added⟩
    · simp only [World.taken, Monitor.launching, World.apply, same]
      exact slot
    · have idle : world.monitor.check = .idle := Marker.check_eq_idle_iff.mpr missing
      have free : ∀ pid, world.monitor.check ≠ .running pid := by
        intro pid running
        rw [idle] at running
        cases running
      have none := guarded.countP_eq_zero settled free
      simp only [World.taken, Monitor.launching, World.apply, added, none, List.countP_append]
      simp only [Monitor.launching] at quiet
      have one : [Build.Task.launch world.monitor.command].countP Build.Task.isLaunching = 1 := rfl
      omega

/-- A world stays guarded when a script is launched. -/
theorem Guarded.launch (guarded : Guarded world) {number pid : Nat}
    (allowed : world.Allows (.launch number pid)) : Guarded (world.apply (.launch number pid)) := by
  obtain ⟨task, found, waits⟩ := allowed
  have there : (world.withProcess pid).monitor.tasks[number]? = some task := found
  have counted := launching_advance there .spawned
  rw [waits, task.isLaunching_step_spawned] at counted
  have launching : (world.withProcess pid).monitor.launching = world.monitor.launching := rfl
  have slot := guarded.slot
  have born : (world.withProcess pid).monitor.Separate := guarded.separate
  have spares := spares_advance born number .spawned
  simp only [Bool.toNat_true, Bool.toNat_false] at counted
  simp only [World.taken] at slot
  have none : world.scripts.countP Script.isAlive = 0 := by omega
  refine ⟨?_, spares.separate, ?_⟩
  · simp only [World.taken, World.apply, List.countP_append, none]
    have one : [(⟨number, pid, .silent⟩ : Script)].countP Script.isAlive = 1 := rfl
    omega
  · intro script member alive
    rcases List.mem_append.mp member with old | new
    · exact absurd alive (List.countP_eq_zero.mp none script old)
    · rw [List.mem_singleton.mp new]
      refine ⟨?_, nofun⟩
      have live : pid ∈ (world.withProcess pid).monitor.host.processes.live := by
        simp [World.withProcess, World.withHost, Processes.setAlive]
      exact spares.live ▸ live

/-- A world stays guarded when a task is told something. -/
theorem Guarded.report (guarded : Guarded world) (number : Nat) (told : Build.Event) :
    Guarded (world.apply (.report number told)) := by
  have spares := spares_advance guarded.separate number told
  have fewer := launching_advance_le world.monitor number told
  have slot := guarded.slot
  refine ⟨?_, spares.separate, Kept.of_spares guarded.kept rfl spares⟩
  simp only [World.taken, World.apply] at slot ⊢
  omega

/-- Every event of a disciplined run keeps the slot guarded. -/
theorem Guarded.apply (guarded : Guarded world) (allowed : world.Allows event)
    (obeyed : world.Obeys event) : Guarded (world.apply event) := by
  have slot := guarded.slot
  cases event with
  | request request => exact guarded.request obeyed request
  | launch number pid => exact guarded.launch allowed
  | report number told => exact guarded.report number told
  | publish index host =>
    have fewer := countP_withScript_le world Script.keeps_publish index
    exact ⟨Nat.le_trans (Nat.add_le_add_left fewer _) slot, allowed.1, obeyed⟩
  | exit index host =>
    have fewer := countP_withScript_le world Script.keeps_exit index
    exact ⟨Nat.le_trans (Nat.add_le_add_left fewer _) slot, allowed.1, obeyed⟩
  | surroundings host => exact ⟨slot, allowed, obeyed⟩

/-- A guarded world stays so as long as scripts and surroundings do their part. -/
theorem Guarded.run (guarded : Guarded world) (possible : Possible world events)
    (disciplined : Disciplined world events) : Guarded (run world events) := by
  induction events generalizing world with
  | nil => exact guarded
  | cons event rest inductionHypothesis =>
    exact inductionHypothesis (guarded.apply possible.1 disciplined.1) possible.2 disciplined.2

/-- The slot is safe in every run of a monitor that has no tasks at first, whatever its marker
says. Every script was launched for a request to start that found no marker, one script for one
request; whatever the monitor does leaves the marker as it is, save that a request to clear it
removes one that names no live process; and in a disciplined run at most one script is alive. -/
theorem build_slot_safety (initial : World) (events : List Event)
    (untasked : initial.monitor.tasks = []) (unlaunched : initial.scripts = [])
    (separate : initial.monitor.Separate) (possible : Possible initial events) :
    let world := run initial events
    let marker := fun monitor : Monitor => monitor.host.node? world.monitor.markerPath
    (∀ script ∈ world.scripts, LaunchedByStart initial events script.task script.pid) ∧
      (world.scripts.map Script.task).Nodup ∧
      (∀ request : Request, request ≠ .clearLock →
        marker (request.perform world.monitor) = marker world.monitor) ∧
      (∀ number told, marker (world.monitor.advance number told) = marker world.monitor) ∧
      (marker world.monitor.clearLock.2 = marker world.monitor ∨
        (∀ pid, world.monitor.check ≠ .running pid) ∧ marker world.monitor.clearLock.2 = none) ∧
      (∀ pid, world.monitor.check = .running pid →
        world.monitor.clearLock = (.error (.buildRunning pid), world.monitor)) ∧
      (Disciplined initial events → world.scripts.countP Script.isAlive ≤ 1) := by
  intro world marker
  have accounted : Accounted initial events world := by
    have empty : Accounted initial [] initial := by
      refine ⟨?_, ?_, ?_, ?_⟩ <;> simp [untasked, unlaunched]
    exact empty.run rfl possible
  have apart : world.monitor.Separate := separate_run separate possible
  refine ⟨accounted.launched, accounted.once, ?_, ?_, ?_, ?_, ?_⟩
  · intro request other
    exact (spares_perform apart other).node
  · intro number told
    exact (spares_advance apart number told).node
  · rcases clearLock_spares_or_removes apart with spares | ⟨free, -, -, -, gone⟩
    · exact Or.inl spares.node
    · exact Or.inr ⟨free, gone⟩
  · intro pid running
    rw [Monitor.clearLock, running]
  · intro disciplined
    have empty : Guarded initial := by
      refine ⟨?_, separate, ?_⟩
      · simp [World.taken, Monitor.launching, untasked, unlaunched]
      · simp [World.Kept, unlaunched]
    have guarded := empty.run possible disciplined
    exact Nat.le_trans (Nat.le_add_left _ _) guarded.slot

/-- A world without a marker and without scripts. -/
def freshWorld : World where
  monitor :=
    { host := Host.bare .system [] ⟨0, 0⟩
      markerPath := "/m"
      outputDirectory := "/out"
      command := ⟨"/build", "/", []⟩
      sink := LogSink.create "/l" 10
      tasks := [] }
  scripts := []

/-- A host whose marker names its only process. -/
def markedHost : Host where
  files := ⟨[(["m"], .file ⟨Blob.ofList [55], false, ⟨0, 0⟩⟩)]⟩
  processes := ⟨.system, [7], []⟩
  directory := []
  now := ⟨0, 0⟩
  faults := []

/-- A build is started, its script is launched and publishes its pid, and another is asked for. -/
def oneBuild : List Event :=
  [.request .start, .launch 0 7, .publish 0 markedHost, .request .start]

/-- A build that is started once takes up the slot alone, though another is asked for. -/
theorem oneBuild_safe :
    Possible freshWorld oneBuild ∧ Disciplined freshWorld oneBuild ∧
      (run freshWorld oneBuild).scripts = [⟨0, 7, .published⟩] ∧
      LaunchedByStart freshWorld oneBuild 0 7 ∧
      (run freshWorld oneBuild).scripts.countP Script.isAlive ≤ 1 := by
  have marker : NamesInRoot "/m" "m" := by decide
  have log : NamesInRoot "/l" "l" := by decide
  have separate : freshWorld.monitor.Separate := by
    refine apart_of_namesInRoot marker log (by decide) ?_ ?_ <;> intro target held <;> cases held
  have apart : markedHost.Apart "/m" "/l" := by
    refine apart_of_namesInRoot marker log (by decide) ?_ ?_ <;> intro target held <;> cases held
  have names : Marker.Names markedHost "/m" 7 := by
    have held : markedHost.node? "/m" = some (["m"], .file ⟨Blob.ofList [55], false, ⟨0, 0⟩⟩) :=
      marker.node?_eq rfl fun target isLink => by cases isLink
    refine ⟨"7", ?_, rfl⟩
    rw [Host.readText, read_of_node? held]
    rfl
  have idle : freshWorld.monitor.check = .idle :=
    Marker.check_eq_idle_iff.mpr (Marker.missing_of_namesInRoot marker rfl)
  have first : freshWorld.apply (.request .start) = ⟨freshWorld.monitor.accept, []⟩ := by
    rw [World.apply, Request.perform, start_of_idle idle]
    rfl
  have kept : World.Kept (((World.mk freshWorld.monitor.accept []).apply (.launch 0 7)).apply
      (.publish 0 markedHost)) := by
    intro script member alive
    rw [List.mem_singleton.mp member]
    exact ⟨List.mem_singleton.mpr rfl, fun _ => names⟩
  have possible : Possible freshWorld oneBuild := by
    simp only [oneBuild, Possible, first]
    exact ⟨trivial, ⟨_, rfl, rfl⟩, ⟨apart, _, rfl, rfl, names⟩, trivial, trivial⟩
  have disciplined : Disciplined freshWorld oneBuild := by
    simp only [oneBuild, Disciplined, first]
    have silent : (⟨0, 7, .published⟩ : Script).stage ≠ .silent := by decide
    refine ⟨⟨rfl, ?_⟩, trivial, kept, ⟨rfl, ?_⟩, trivial⟩
    · intro script member
      cases member
    · intro script member
      rw [List.mem_singleton.mp member]
      exact silent
  obtain ⟨launched, -, -, -, -, -, single⟩ :=
    build_slot_safety freshWorld oneBuild rfl rfl separate possible
  have scripts : (run freshWorld oneBuild).scripts = [⟨0, 7, .published⟩] := by
    simp only [oneBuild, run, List.foldl, first]
    rfl
  refine ⟨possible, disciplined, scripts, ?_, single disciplined⟩
  exact launched ⟨0, 7, .published⟩ (by rw [scripts]; exact List.mem_singleton.mpr rfl)

end BuildMonitor.Slot
