import BuildMonitor.Proofs.Build.Marker
import BuildMonitor.Proofs.Monitor.Procedure
import BuildMonitor.Proofs.Monitor.Slot

/-!
# Requests in between each other

The steps of requests come in any order, among the steps of scripts and tasks and whatever else
happens. A `Scene` is a world with the requests that are under way in it; a run of a scene takes the
next action of any of them, or lets something happen in the world, in any order.

A script makes its marker in two steps: it creates the file, and then it writes its pid there.

Main definitions: `Scene`, `Event`, `Scene.apply`, `Possible`.
-/

namespace BuildMonitor.Interleaving

open Host

/-- A request that was made, and what is left to do for it. -/
structure UnderWay where
  request : Request
  rest : Procedure request.Reply

/-- A world, the requests that were made in it, and the scripts that have created their marker. -/
structure Scene where
  world : Slot.World
  requests : List UnderWay
  /-- The positions of the scripts. -/
  creators : List Nat

/-- What happens in a scene. -/
inductive Event where
  /-- A request is made. -/
  | made (request : Request)
  /-- The next action is taken for a request. -/
  | act (index : Nat)
  /-- A script creates its marker, which leaves the surroundings as given. -/
  | create (index : Nat) (host : Host)
  /-- Anything but a request happens in the world. -/
  | world (event : Slot.Event)

/-- A request once its next action is taken, and the monitor after that. -/
def UnderWay.act (one : UnderWay) (monitor : Monitor) : UnderWay × Monitor :=
  let acted := one.rest.act monitor
  (⟨one.request, acted.1⟩, acted.2)

namespace Scene

/-- The monitor of the scene. -/
def monitor (scene : Scene) : Monitor := scene.world.monitor

/-- The scene with another monitor. -/
def withMonitor (scene : Scene) (monitor : Monitor) : Scene :=
  { scene with world := { scene.world with monitor := monitor } }

/-- The scene after an event. -/
def apply (scene : Scene) : Event → Scene
  | .made request =>
    { scene with requests := scene.requests ++ [⟨request, request.procedure⟩] }
  | .act index =>
    match scene.requests[index]? with
    | none => scene
    | some one =>
      let acted := one.act scene.monitor
      { scene.withMonitor acted.2 with requests := scene.requests.set index acted.1 }
  | .create index host =>
    { scene with world := scene.world.withHost host, creators := index :: scene.creators }
  | .world event => { scene with world := scene.world.apply event }

/-- The event can happen in the scene. A marker is created by a script that runs and has not yet
published its pid. -/
def Allows (scene : Scene) : Event → Prop
  | .made _ => True
  | .act index => index < scene.requests.length
  | .create index host =>
    (scene.world.withHost host).monitor.Separate ∧
      (host.node? scene.monitor.markerPath).isSome = true ∧
      ∃ script, scene.world.scripts[index]? = some script ∧ script.stage = .silent
  | .world event => scene.world.Allows event ∧ ∀ request, event ≠ .request request

end Scene

/-- The scene after events. -/
def run (scene : Scene) (events : List Event) : Scene := events.foldl Scene.apply scene

/-- Every event can happen in its turn. -/
def Possible (scene : Scene) : List Event → Prop
  | [] => True
  | event :: rest => scene.Allows event ∧ Possible (scene.apply event) rest

variable {scene initial : Scene} {event : Event} {earlier later events : List Event}

/-- A run may be taken in two parts. -/
theorem run_append (scene : Scene) (earlier later : List Event) :
    run scene (earlier ++ later) = run (run scene earlier) later :=
  List.foldl_append

/-- A run ends with its last event. -/
theorem run_concat (scene : Scene) (events : List Event) (event : Event) :
    run scene (events ++ [event]) = (run scene events).apply event :=
  run_append scene events [event]

/-- A run is possible exactly if its first part is, and its second from there. -/
theorem possible_append :
    Possible scene (earlier ++ later) ↔
      Possible scene earlier ∧ Possible (run scene earlier) later := by
  induction earlier generalizing scene with
  | nil => exact (true_and _).to_iff.symm
  | cons event rest inductionHypothesis =>
    exact (and_congr_right fun _ => inductionHypothesis).trans and_assoc.symm

/-- The last request takes its next action. -/
theorem apply_act_last (world : Slot.World) (requests : List UnderWay) (one : UnderWay)
    (creators : List Nat) :
    (Scene.mk world (requests ++ [one]) creators).apply (.act requests.length) =
      { world := { world with monitor := (one.act world.monitor).2 }
        requests := requests ++ [(one.act world.monitor).1]
        creators := creators } := by
  simp [Scene.apply, Scene.withMonitor, Scene.monitor]

/-! ## What is known of requests -/

section Known

variable {Known : List Event → Nat → UnderWay → Prop}
  (made : ∀ past index request, Known past index ⟨request, request.procedure⟩)
  (acts : ∀ past index one, (run initial past).requests[index]? = some one →
    Known past index one → Known (past ++ [.act index]) index (one.act (run initial past).monitor).1)
  (waits : ∀ past index one event, event ≠ .act index → Known past index one →
    Known (past ++ [event]) index one)

include made acts waits

/-- What is known of every request stays known through an event if it is kept by the actions of the
request and by whatever else happens. -/
private theorem known_concat
    (all : ∀ index one, (run initial events).requests[index]? = some one →
      Known events index one) (event : Event) (index : Nat) (one : UnderWay)
    (found : (run initial (events ++ [event])).requests[index]? = some one) :
    Known (events ++ [event]) index one := by
  rw [run_concat] at found
  cases event with
  | create position host => exact waits _ _ _ _ Event.noConfusion (all index one found)
  | world happened => exact waits _ _ _ _ Event.noConfusion (all index one found)
  | made request =>
    rw [Scene.apply, List.getElem?_append] at found
    split at found
    · exact waits _ _ _ _ Event.noConfusion (all index one found)
    · rw [List.getElem?_singleton] at found
      split at found
      · cases found
        exact waits _ _ _ _ Event.noConfusion (made events index request)
      · cases found
  | act acting =>
    rw [Scene.apply] at found
    cases there : (run initial events).requests[acting]? with
    | none =>
      rw [there] at found
      refine waits _ _ _ _ ?_ (all index one found)
      rintro ⟨⟩
      rw [there] at found
      cases found
    | some actor =>
      rw [there] at found
      dsimp only at found
      by_cases same : acting = index
      · subst same
        rw [List.getElem?_set_self (List.getElem?_eq_some_iff.mp there).1] at found
        cases found
        exact acts events acting actor there (all acting actor there)
      · rw [List.getElem?_set_ne same] at found
        refine waits _ _ _ _ ?_ (all index one found)
        rintro ⟨⟩
        exact same rfl

/-- What is known of a request when it is made, and is kept by its actions and by whatever else
happens, is known of all requests throughout a run. -/
theorem known_run (quiet : initial.requests = []) (events : List Event) (index : Nat) (one : UnderWay)
    (found : (run initial events).requests[index]? = some one) : Known events index one := by
  have grows (past events : List Event)
      (all : ∀ index one, (run initial past).requests[index]? = some one → Known past index one) :
      ∀ index one, (run initial (past ++ events)).requests[index]? = some one →
        Known (past ++ events) index one := by
    induction events generalizing past with
    | nil => rwa [List.append_nil]
    | cons event rest inductionHypothesis =>
      have next := inductionHypothesis (past ++ [event]) (known_concat made acts waits all event)
      rwa [List.append_assoc] at next
  refine grows [] events (fun index one there => ?_) index one found
  rw [run, List.foldl_nil, quiet] at there
  cases there

end Known

/-! ## What the monitor does not bring about -/

/-- The marker names nothing that it did not name before, nor is there a process that was not, and
the marker stays apart from the log. -/
structure ShowsNoMore (after before : Monitor) : Prop where
  marker : after.markerPath = before.markerPath
  live : after.host.processes.live = before.host.processes.live
  separate : after.Separate
  node : ∀ named, after.host.node? before.markerPath = some named →
    before.host.node? before.markerPath = some named

/-- Where the marker is spared it names nothing new. -/
theorem ShowsNoMore.of_spares {after before : Monitor} (spares : Spares after before) :
    ShowsNoMore after before :=
  ⟨spares.marker, spares.live, spares.separate, fun _ => spares.node ▸ id⟩

/-- A marker that is apart from the log names nothing that it does not name. -/
theorem ShowsNoMore.refl {monitor : Monitor} (separate : monitor.Separate) :
    ShowsNoMore monitor monitor :=
  .of_spares (.refl separate)

/-- What the marker names afterwards it named before. -/
theorem ShowsNoMore.names {after before : Monitor} {pid : Nat} (shows : ShowsNoMore after before)
    (names : Marker.Names after.host after.markerPath pid) :
    Marker.Names before.host before.markerPath pid := by
  rw [shows.marker] at names
  obtain ⟨content, read, named⟩ := names
  obtain ⟨node, found⟩ := exists_node?_of_readText read
  have same : before.host.node? before.markerPath = after.host.node? before.markerPath := by
    rw [found, shows.node node found]
  exact ⟨content, readText_eq_ok_of_node?_eq same read, named⟩

/-- What removes the marker hides what it named, or leaves it. -/
theorem showsNoMore_remove {monitor : Monitor} (separate : monitor.Separate) :
    ShowsNoMore { monitor with host := (monitor.host.remove monitor.markerPath).2 } monitor := by
  obtain ⟨only, same | removed⟩ := monitor.host.remove_snd monitor.markerPath
  · refine ⟨rfl, congrArg Processes.live only.processes, apart_remove separate, ?_⟩
    intro named found
    rwa [node?_of_files_eq only same] at found
  · refine ⟨rfl, congrArg Processes.live only.processes, apart_remove separate, ?_⟩
    intro named found
    rw [node?_of_unlink only.directory removed] at found
    cases found

/-- Starting the log anew makes the marker name nothing new. -/
theorem showsNoMore_resetLog {monitor : Monitor} (separate : monitor.Separate) :
    ShowsNoMore monitor.resetLog monitor := by
  have host := monitor.resetLog_host
  refine ⟨rfl, ?_, ?_, ?_⟩
  · rw [host, (monitor.host.removeDurably_snd monitor.sink.path).1.processes]
  · rw [Monitor.Separate, host]
    exact apart_removeDurably separate
  · intro named found
    rw [host] at found
    exact node?_removeDurably separate found

/-- No action that a request takes makes the marker name anything. -/
theorem showsNoMore_perform {α : Type} (action : Action α) {monitor : Monitor}
    (separate : monitor.Separate) : ShowsNoMore (action.perform monitor).2 monitor := by
  cases action with
  | check | look => exact .refl separate
  | addTask => exact ⟨rfl, rfl, separate, fun _ => id⟩
  | append entry => exact .of_spares (spares_append separate entry)
  | resetLog => exact showsNoMore_resetLog separate
  | removeMarker =>
    rw [Action.perform, Marker.clear_snd]
    exact showsNoMore_remove separate
  | terminate pid =>
    simp only [Action.perform]
    cases sent : monitor.host.processes.terminate pid with
    | ok processes => exact ⟨rfl, live_of_terminate sent, separate, fun _ => id⟩
    | error error => exact .refl separate

/-- Whether an event is a deed of a script or of the surroundings, and none of the monitor. -/
def Event.isForeign : Event → Bool
  | .made _ | .act _ | .world (.request _) | .world (.report _ _) => false
  | .create _ _ | .world _ => true

/-- What the monitor does by itself makes the marker name nothing. -/
theorem showsNoMore_apply (separate : scene.monitor.Separate) (allowed : scene.Allows event)
    (own : event.isForeign = false) : ShowsNoMore (scene.apply event).monitor scene.monitor := by
  cases event with
  | made request => exact .refl separate
  | act index =>
    simp only [Scene.apply]
    cases found : scene.requests[index]? with
    | none => exact .refl separate
    | some one =>
      obtain ⟨request, rest⟩ := one
      cases rest with
      | done reply => exact .refl separate
      | step action next => exact showsNoMore_perform action separate
  | create index host => cases own
  | world event =>
    cases event with
    | request request => exact absurd rfl (allowed.2 request)
    | report number told => exact .of_spares (spares_advance separate number told)
    | launch | publish | exit | surroundings => cases own

/-- The marker and the log stay different files. -/
theorem separate_apply (separate : scene.monitor.Separate) (allowed : scene.Allows event) :
    (scene.apply event).monitor.Separate := by
  cases event with
  | made | act => exact (showsNoMore_apply separate allowed rfl).separate
  | create index host => exact allowed.1
  | world event => exact Slot.separate_apply separate allowed.1

/-- The marker stays apart from the log whatever happens. -/
theorem separate_run (separate : initial.monitor.Separate) (possible : Possible initial events) :
    (run initial events).monitor.Separate := by
  induction events generalizing initial with
  | nil => exact separate
  | cons event rest inductionHypothesis =>
    exact inductionHypothesis (separate_apply separate possible.1) possible.2

end BuildMonitor.Interleaving
