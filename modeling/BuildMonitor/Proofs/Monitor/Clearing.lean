import BuildMonitor.Proofs.Monitor.Interleaving

/-!
# Clearing the marker

A request to clear the marker looks before it removes, and it does not look again. So it can remove
the marker of a build that has started since; and as a marker that is still empty names no process,
it can remove that of a script that has just created it: `live_markers_removed`.

It never removes a marker that it has seen to name a live process. A marker that names one when it is
removed has come to do so after it was looked at, and not through any request or task: a script or
something else has written it, or brought the process to life: `removed_marker_was_free`.

Main definitions: `Removes`, `NamesLive`, `IsWriting`.
-/

namespace BuildMonitor

open Host

/-- Whether an action removes the marker. -/
def Action.removesMarker {α : Type} : Action α → Bool
  | .removeMarker => true
  | _ => false

/-- Whether the next action of a procedure removes the marker. -/
def Procedure.removesMarker {α : Type} : Procedure α → Bool
  | .done _ => false
  | .step action _ => action.removesMarker

/-- The procedure never removes the marker. -/
def Procedure.SparesMarker {α : Type} (procedure : Procedure α) : Prop :=
  procedure.Uses fun action => action.removesMarker = false

/-- What never removes the marker does not do so next. -/
theorem Procedure.SparesMarker.removesMarker {α : Type} {procedure : Procedure α}
    (spares : procedure.SparesMarker) : procedure.removesMarker = false := by
  cases procedure with
  | done => rfl
  | step action next => exact spares.1

/-- Only a request to clear the marker ever removes it. -/
theorem spares_procedure {request : Request} (other : request ≠ .clearLock) :
    request.procedure.SparesMarker := by
  refine (uses_procedure request).mono fun action may => ?_
  cases action with
  | removeMarker => exact absurd may other
  | check | look | terminate | resetLog | append | addTask => rfl

namespace Interleaving

variable {scene initial : Scene} {event : Event} {past earlier later events : List Event}
  {index pid : Nat} {one : UnderWay}

/-- The request takes the action to remove the marker, and there is one to be removed. -/
def Scene.Removes (scene : Scene) (index : Nat) : Prop :=
  (∃ one, scene.requests[index]? = some one ∧ one.rest.removesMarker = true) ∧
    (Marker.clear scene.monitor.host scene.monitor.markerPath).1 = .ok true

/-- The marker names the process, which is alive. -/
def Scene.NamesLive (scene : Scene) (pid : Nat) : Prop :=
  pid ∈ scene.monitor.host.processes.live ∧
    Marker.Names scene.monitor.host scene.monitor.markerPath pid

/-- A script that is alive has created the marker, and has not yet written its pid there. -/
def Scene.IsWriting (scene : Scene) : Prop :=
  ∃ position ∈ scene.creators, ∃ script,
    scene.world.scripts[position]? = some script ∧ script.stage = .silent

/-- A request to clear the marker that has not looked yet. -/
def UnderWay.looking : UnderWay := ⟨.clearLock, Procedure.clearLock⟩

/-- A request to clear the marker that has found that no build runs. -/
def UnderWay.removing : UnderWay := ⟨.clearLock, Procedure.removeMarker⟩

/-- A request to clear the marker looks first, and is refused or goes on to remove it. -/
theorem UnderWay.act_looking (monitor : Monitor) :
    (UnderWay.looking.act monitor).1 =
      match monitor.check with
      | .running pid => ⟨.clearLock, .done (.error (.buildRunning pid))⟩
      | _ => .removing := by
  simp only [UnderWay.act, UnderWay.looking, Procedure.clearLock, Procedure.act, Action.perform]
  cases monitor.check <;> rfl

/-! ## Live markers that are removed -/

/-- A world without a marker, and the requests made in it. -/
def quietScene (requests : List UnderWay) : Scene := ⟨Slot.freshWorld, requests, []⟩

/-- A build is asked for and accepted, and its script launched. -/
def started (index : Nat) : List Event :=
  [.made .start, .act index, .act index, .act index, .act index, .act index,
    .world (.launch 0 7)]

/-- The script of a build runs, and there is no marker yet. -/
def launchedScene (requests : List UnderWay) : Scene where
  world := { Slot.freshWorld with monitor := Slot.freshWorld.monitor.accept }.apply (.launch 0 7)
  requests := requests ++ [⟨.start, .done (.ok 0)⟩]
  creators := []

/-- A host with one process, and a marker that is still empty. -/
def emptyMarkerHost : Host :=
  { Slot.markedHost with files := ⟨[(["m"], .file ⟨Blob.empty, false, ⟨0, 0⟩⟩)]⟩ }

/-- A script has created its marker when a request to clear it looks. -/
def clearedTooSoon : List Event :=
  started 0 ++ [.create 0 emptyMarkerHost, .made .clearLock, .act 1]

/-- After a request to clear the marker has looked, a build is started, and its script makes its
marker. -/
def clearedTooLate : List Event :=
  [.made .clearLock, .act 0] ++
    (started 1 ++ [.create 0 emptyMarkerHost, .world (.publish 0 Slot.markedHost)])

/-- The path of the marker is one name in the root. -/
theorem marker_namesInRoot : NamesInRoot "/m" "m" := by decide

/-- In a fresh world no build runs. -/
theorem freshWorld_idle : Slot.freshWorld.monitor.check = .idle :=
  Marker.check_eq_idle_iff.mpr (Marker.missing_of_namesInRoot marker_namesInRoot rfl)

/-- Where there are no links the marker and the log are apart. -/
theorem apart_of_plain {host : Host} (plain : ∀ name target, host.files.get? [name] ≠
    some (.link target)) : host.Apart "/m" "/l" := by
  have log : NamesInRoot "/l" "l" := by decide
  exact apart_of_namesInRoot marker_namesInRoot log (by decide) (plain "m") (plain "l")

/-- In a fresh world the marker and the log are apart. -/
theorem freshWorld_separate : Slot.freshWorld.monitor.Separate :=
  apart_of_plain fun _ _ => nofun

/-- Where the marker is the only file it is apart from the log. -/
theorem apart_of_held {host : Host} {file : RegularFile}
    (held : host.files = ⟨[(["m"], .file file)]⟩) : host.Apart "/m" "/l" := by
  refine apart_of_plain fun name target link => ?_
  have there : host.files.get? [name] = if name = "m" then some (.file file) else none := by
    rw [held]
    by_cases same : name = "m"
    · subst same
      rfl
    · simp [Files.get?, same]
  rw [there] at link
  split at link <;> cases link

/-- The request to start takes its actions, whatever else is under way. -/
theorem run_started (requests : List UnderWay) :
    Possible (quietScene requests) (started requests.length) ∧
      run (quietScene requests) (started requests.length) = launchedScene requests := by
  have looked : UnderWay.act ⟨.start, Procedure.start⟩ Slot.freshWorld.monitor =
      (⟨.start, Procedure.accept⟩, Slot.freshWorld.monitor) := by
    simp only [UnderWay.act, Procedure.start, Procedure.act, Action.perform, freshWorld_idle]
    rfl
  have made : (quietScene requests).apply (.made .start) =
    ⟨Slot.freshWorld, requests ++ [⟨.start, Procedure.start⟩], []⟩ := rfl
  constructor
  · have inside (world : Slot.World) (one : UnderWay) :
        (Scene.mk world (requests ++ [one]) []).Allows (.act requests.length) := by
      simp [Scene.Allows]
    simp only [started, Possible, made, apply_act_last, looked]
    exact ⟨trivial, inside _ _, inside _ _, inside _ _, inside _ _, inside _ _,
      ⟨⟨_, rfl, rfl⟩, by rintro _ ⟨⟩⟩, trivial⟩
  · simp only [started, run, List.foldl, made, apply_act_last, looked]
    rfl

/-- A file that is the marker can be removed. -/
theorem clear_fst {host : Host} {file : RegularFile} (held : host.files = ⟨[(["m"], .file file)]⟩) :
    (Marker.clear host "/m").1 = .ok true := by
  have there : host.files.get? ["m"] = some (.file file) := by
    rw [held]
    rfl
  have removed := marker_namesInRoot.remove_fst there (by decide) (by decide)
  unfold Marker.clear
  dsimp only
  rw [removed]

/-- An empty marker is there. -/
theorem emptyMarkerHost_names : (emptyMarkerHost.node? "/m").isSome = true := by
  have named : emptyMarkerHost.node? "/m" = some (["m"], .file ⟨Blob.empty, false, ⟨0, 0⟩⟩) :=
    marker_namesInRoot.node?_of_file rfl
  rw [named, Option.isSome_some]

/-- An empty marker shows no pid, which is an error. -/
theorem emptyMarkerHost_check : Marker.check emptyMarkerHost "/m" =
    .error (Marker.Fault.notNumber "" .empty).message := by
  have read : emptyMarkerHost.readText "/m" = .ok "" := marker_namesInRoot.readText_eq rfl rfl
  have named : Marker.pidOf "" = .error (.notNumber "" .empty) := rfl
  simp only [Marker.check, Marker.classify, read, named]

/-- The request looks at a marker that is still empty, and goes on to remove it. -/
theorem run_clearedTooSoon :
    Possible (quietScene []) clearedTooSoon ∧
      run (quietScene []) clearedTooSoon =
        { world := (launchedScene []).world.withHost emptyMarkerHost
          requests := [⟨.start, .done (.ok 0)⟩, .removing]
          creators := [0] } := by
  have launched : Possible (quietScene []) (started 0) ∧
      run (quietScene []) (started 0) = launchedScene [] := run_started []
  rw [clearedTooSoon, possible_append, run_append, launched.2]
  refine ⟨⟨launched.1, ⟨apart_of_held rfl, emptyMarkerHost_names, _, rfl, rfl⟩, trivial,
    Nat.one_lt_two, trivial⟩, ?_⟩
  have looked : (UnderWay.looking.act
      ((launchedScene []).world.withHost emptyMarkerHost).monitor).1 = .removing := by
    rw [UnderWay.act_looking]
    change (match Marker.check emptyMarkerHost "/m" with
      | .running pid => _
      | _ => _) = _
    rw [emptyMarkerHost_check]
  have acted := apply_act_last ((launchedScene []).world.withHost emptyMarkerHost)
    [⟨.start, .done (.ok 0)⟩] .looking [0]
  rw [looked] at acted
  exact acted

/-- The request looks before there is a marker, and is still to remove it when the script has
published its pid. -/
theorem run_clearedTooLate :
    Possible (quietScene []) clearedTooLate ∧
      run (quietScene []) clearedTooLate =
        { world := ((launchedScene []).world.withHost emptyMarkerHost).apply
            (.publish 0 Slot.markedHost)
          requests := [.removing, ⟨.start, .done (.ok 0)⟩]
          creators := [0] } := by
  have launched : Possible (quietScene [.removing]) (started 1) ∧
      run (quietScene [.removing]) (started 1) = launchedScene [.removing] := run_started [.removing]
  have looked : (UnderWay.looking.act Slot.freshWorld.monitor).1 = .removing := by
    rw [UnderWay.act_looking, freshWorld_idle]
  have first : run (quietScene []) [.made .clearLock, .act 0] = quietScene [.removing] := by
    have acted := apply_act_last Slot.freshWorld [] .looking []
    rw [looked] at acted
    exact acted
  have published : Marker.Names Slot.markedHost "/m" 7 :=
    ⟨"7", marker_namesInRoot.readText_eq rfl rfl, rfl⟩
  rw [clearedTooLate, possible_append, run_append, first, possible_append, run_append, launched.2]
  exact ⟨⟨⟨trivial, Nat.one_pos, trivial⟩, launched.1,
    ⟨apart_of_held rfl, emptyMarkerHost_names, _, rfl, rfl⟩,
    ⟨⟨apart_of_held rfl, _, rfl, rfl, published⟩, by rintro _ ⟨⟩⟩, trivial⟩, rfl⟩

/-- The late request goes on to remove a marker that names a live process. -/
theorem removes_clearedTooLate :
    (run (quietScene []) clearedTooLate).Removes 0 ∧
      (run (quietScene []) clearedTooLate).NamesLive 7 := by
  rw [run_clearedTooLate.2]
  refine ⟨⟨⟨_, rfl, rfl⟩, clear_fst rfl⟩, ?_⟩
  exact ⟨List.mem_singleton.mpr rfl, "7", marker_namesInRoot.readText_eq rfl rfl, rfl⟩

/-- A request to clear the marker removes that of a live build in either run: in one a script has
just created it, in the other it names the script. -/
theorem live_markers_removed :
    (Possible (quietScene []) clearedTooSoon ∧
      (run (quietScene []) clearedTooSoon).Removes 1 ∧
      (run (quietScene []) clearedTooSoon).IsWriting) ∧
    (Possible (quietScene []) clearedTooLate ∧
      (run (quietScene []) clearedTooLate).Removes 0 ∧
      (run (quietScene []) clearedTooLate).NamesLive 7) := by
  refine ⟨⟨run_clearedTooSoon.1, ?_⟩, run_clearedTooLate.1, removes_clearedTooLate⟩
  rw [run_clearedTooSoon.2]
  exact ⟨⟨⟨_, rfl, rfl⟩, clear_fst rfl⟩, 0, List.mem_singleton.mpr rfl, _, rfl, rfl⟩

/-! ## What was seen before -/

/-- The events since a request to clear the marker has found that no build runs. -/
structure FoundFree (initial : Scene) (events : List Event) (index : Nat)
    (before between : List Event) : Prop where
  split : events = before ++ .act index :: between
  last : .act index ∉ between
  looked : (run initial before).requests[index]? = some .looking
  free : ∀ pid, (run initial before).monitor.check ≠ .running pid

/-- How far a request has come after events. -/
inductive Standing (initial : Scene) (events : List Event) (index : Nat) : UnderWay → Prop where
  | sparing {one : UnderWay} (spares : one.rest.SparesMarker) : Standing initial events index one
  | looking : Standing initial events index .looking
  | removing (before between : List Event) (since : FoundFree initial events index before between) :
      Standing initial events index .removing

/-- A request stands where it stood while others act. -/
theorem Standing.concat (standing : Standing initial events index one)
    (other : event ≠ .act index) : Standing initial (events ++ [event]) index one := by
  cases standing with
  | sparing spares => exact .sparing spares
  | looking => exact .looking
  | removing before between since =>
    refine .removing before (between ++ [event]) ⟨?_, ?_, since.looked, since.free⟩
    · rw [since.split, List.append_assoc, List.cons_append]
    · rw [List.mem_append, List.mem_singleton]
      rintro (inside | same)
      · exact since.last inside
      · exact other same.symm

/-- Where a request stands once it has acted. -/
theorem Standing.act (standing : Standing initial events index one)
    (found : (run initial events).requests[index]? = some one) :
    Standing initial (events ++ [.act index]) index (one.act (run initial events).monitor).1 := by
  cases standing with
  | sparing spares => exact .sparing (spares.act _)
  | looking =>
    have since (free : ∀ pid, (run initial events).monitor.check ≠ .running pid) :
        FoundFree initial (events ++ [.act index]) index events [] :=
      ⟨rfl, List.not_mem_nil, found, free⟩
    rw [UnderWay.act_looking]
    cases seen : (run initial events).monitor.check with
    | running pid => exact .sparing trivial
    | idle | stale | error =>
      rw [seen] at since
      exact .removing events [] (since (by rintro pid ⟨⟩))
  | removing before between since =>
    refine .sparing ?_
    simp only [UnderWay.act, UnderWay.removing, Procedure.removeMarker, Procedure.act]
    split <;> trivial

/-- A request that has just been made has not looked yet, or it will never remove the marker. -/
theorem standing_made (request : Request) :
    Standing initial events index ⟨request, request.procedure⟩ := by
  by_cases clears : request = .clearLock
  · subst clears
    exact .looking
  · exact .sparing (spares_procedure clears)

/-- Every request stands somewhere after the events. -/
def AllStanding (initial : Scene) (events : List Event) : Prop :=
  ∀ index one, (run initial events).requests[index]? = some one →
    Standing initial events index one

/-- If there is no request at first, every request stands somewhere after any events. -/
theorem allStanding (quiet : initial.requests = []) (events : List Event) :
    AllStanding initial events :=
  known_run (fun _ _ => standing_made) (fun _ _ _ found standing => standing.act found)
    (fun _ _ _ _ other standing => standing.concat other) quiet events

/-- Where a request removes the marker, its last action before was to find that no build runs. -/
theorem exists_foundFree (quiet : initial.requests = [])
    (removes : (run initial events).Removes index) :
    ∃ before between, FoundFree initial events index before between := by
  obtain ⟨⟨one, found, removing⟩, -⟩ := removes
  cases allStanding quiet events index one found with
  | sparing spares =>
    rw [spares.removesMarker] at removing
    cases removing
  | looking => cases removing
  | removing before between since => exact ⟨before, between, since⟩

/-! ## What has happened since -/

/-- What holds at the end of a run and not at its beginning has come to hold through an event. -/
theorem exists_onset (Holds : Scene → Prop) (absent : ¬ Holds scene)
    (present : Holds (run scene events)) :
    ∃ earlier event later, events = earlier ++ event :: later ∧
      ¬ Holds (run scene earlier) ∧ Holds (run scene (earlier ++ [event])) := by
  induction events generalizing scene with
  | nil => exact absurd present absent
  | cons event rest inductionHypothesis =>
    by_cases now : Holds (scene.apply event)
    · exact ⟨[], event, rest, rfl, absent, now⟩
    · obtain ⟨earlier, onset, later, split, before, after⟩ := inductionHypothesis now present
      exact ⟨event :: earlier, onset, later, congrArg _ split, before, after⟩

/-- The marker comes to name a live process through a script or the surroundings, after it was seen
to name none. -/
theorem exists_foreign_onset (separate : scene.monitor.Separate) (possible : Possible scene events)
    (absent : ¬ scene.NamesLive pid) (present : (run scene events).NamesLive pid) :
    ∃ earlier event later, events = earlier ++ event :: later ∧ event.isForeign = true ∧
      ¬ (run scene earlier).NamesLive pid ∧ (run scene (earlier ++ [event])).NamesLive pid := by
  obtain ⟨earlier, event, later, split, before, after⟩ :=
    exists_onset (fun scene => scene.NamesLive pid) absent present
  refine ⟨earlier, event, later, split, ?_, before, after⟩
  rw [split, possible_append] at possible
  obtain ⟨sooner, allowed, -⟩ := possible
  cases own : event.isForeign with
  | true => rfl
  | false =>
    have shows := showsNoMore_apply (separate_run separate sooner) allowed own
    rw [run_concat] at after
    exact absurd ⟨shows.live ▸ after.1, shows.names after.2⟩ before

/-- A marker that names a live process tells of a running build. -/
theorem Scene.NamesLive.check_eq (names : scene.NamesLive pid) : scene.monitor.check = .running pid :=
  Marker.Names.check_eq names.2 names.1

/-- Whatever comes in between, a request that removes the marker has found before that no build
runs. If the marker names a live process by then, it did not when the request looked; it has come to
name it since through a script or the surroundings, and not through any request or task. -/
theorem removed_marker_was_free (initial : Scene) (quiet : initial.requests = [])
    (separate : initial.monitor.Separate) (events : List Event) (possible : Possible initial events)
    (index : Nat) (removes : (run initial events).Removes index) :
    ∃ before between, FoundFree initial events index before between ∧
      ∀ pid, (run initial events).NamesLive pid →
        ∃ earlier event later, between = earlier ++ event :: later ∧ event.isForeign = true ∧
          let since := run (run initial before) (.act index :: earlier)
          ¬ since.NamesLive pid ∧ (since.apply event).NamesLive pid := by
  obtain ⟨before, between, since⟩ := exists_foundFree quiet removes
  refine ⟨before, between, since, ?_⟩
  intro pid names
  rw [since.split, possible_append] at possible
  obtain ⟨sooner, allowed, later⟩ := possible
  have apart := separate_run separate sooner
  -- Looking changes nothing: what the request did not see is not there right afterwards either.
  have absent : ¬ ((run initial before).apply (.act index)).NamesLive pid := by
    intro present
    have shows := showsNoMore_apply apart allowed rfl
    have named : (run initial before).NamesLive pid :=
      ⟨shows.live ▸ present.1, shows.names present.2⟩
    exact since.free pid named.check_eq
  rw [since.split, run_append] at names
  obtain ⟨earlier, event, rest, split, foreign, unnamed, named⟩ :=
    exists_foreign_onset (separate_apply apart allowed) later absent names
  rw [run_concat] at named
  exact ⟨earlier, event, rest, split, foreign, unnamed, named⟩

/-- The build whose marker is removed too late was started, and its script made the marker, after the
request had looked. -/
theorem clearedTooLate_was_free :
    ∃ before between, FoundFree (quietScene []) clearedTooLate 0 before between ∧
      ∃ earlier event later, between = earlier ++ event :: later ∧ event.isForeign = true := by
  have separate : (quietScene []).monitor.Separate := freshWorld_separate
  obtain ⟨removes, names⟩ := removes_clearedTooLate
  obtain ⟨before, between, since, onset⟩ := removed_marker_was_free (quietScene []) rfl separate
    clearedTooLate run_clearedTooLate.1 0 removes
  obtain ⟨earlier, event, later, split, foreign, -⟩ := onset 7 names
  exact ⟨before, between, since, earlier, event, later, split, foreign⟩

end Interleaving

end BuildMonitor
