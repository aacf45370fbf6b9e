import BuildMonitor.Proofs.Log.Window
import BuildMonitor.Proofs.Monitor.Requests

/-!
# Getting the slot back

A marker that is left behind keeps the slot closed until it is cleared. Whatever stands in its
place, clearing it either gives the slot back or changes nothing: a marker that names a live process
is refused, one that cannot be removed stays, and otherwise the path names nothing, there is nothing
more to clear and a build may start: `clearLock_recovers`.

Reading the marker follows links and removing it does not, so what is removed is an entry and never
what it points to. Nothing else is changed, and in particular not the log: a walk that does not look
at the entry goes as before.

Main definitions: `Host.placeOf?`, `Host.LooksAt`, `Recovered`, `OnlyMarker`.
-/

namespace BuildMonitor

open Host Files

namespace Host

/-- The location of what a path names, a link at its end not followed. -/
def placeOf? (host : Host) (path : String) : Option Location :=
  match host.files.resolve host.directory false path with
  | .ok (.found location _) => some location
  | _ => none

/-- The walk along the path looks at the location. -/
def LooksAt (host : Host) (path : String) (place : Location) : Prop :=
  Files.LooksAt host.files linkLimit (startOf host.directory path) (walkPieces path) place

/-- No walk along the path looks at what the other path names. -/
def Bypasses (host : Host) (path other : String) : Prop :=
  ∀ place, host.placeOf? other = some place → ¬ host.LooksAt path place

variable {host : Host} {path name : String} {place : Location}

/-- A path is resolved as before if the walk looks at nothing that is different. -/
theorem resolve_of_not_looksAt {changed : Files} {follow : Bool}
    (agree : ∀ other, other ≠ place → changed.get? other = host.files.get? other)
    (passes : ¬ host.LooksAt path place) :
    changed.resolve host.directory follow path = host.files.resolve host.directory follow path := by
  have walked : changed.walk follow linkLimit (startOf host.directory path) (walkPieces path) =
      host.files.walk follow linkLimit (startOf host.directory path) (walkPieces path) :=
    walk_of_not_looksAt agree passes
  unfold startOf at walked
  rw [resolve, resolve]
  simp only [walked]

/-- Reading does not depend on what no walk along the path looks at. -/
theorem read_erase_of_not_looksAt (passes : ¬ host.LooksAt path place) :
    (host.files.erase place).read host.directory path = host.read path := by
  have resolved := @resolve_of_not_looksAt host path place _ true
    (fun other elsewhere => get?_erase_of_ne host.files elsewhere) passes
  rw [Host.read, Files.read, Files.read, Files.node, Files.node, resolved]

/-- Along a name in the root that is no link nothing is looked at but its place. -/
theorem LooksAt.eq_of_namesInRoot (looks : host.LooksAt path place)
    (named : NamesInRoot path name)
    (plain : ∀ target, host.files.get? [name] ≠ some (.link target)) : place = [name] := by
  rw [LooksAt, startOf, if_pos named.absolute, named.walks] at looks
  cases looks with
  | dot => exact absurd rfl named.walkable.notDot
  | up => exact absurd rfl named.walkable.notUp
  | name => rfl
  | into _ _ later => cases later; rfl
  | through _ held => exact absurd held (plain _)

end Host

/-- The slot is free: nothing stands in place of the marker, there is nothing to clear, and a build
that is asked for is accepted. -/
structure Recovered (monitor : Monitor) : Prop where
  unnamed : monitor.host.files.names monitor.host.directory monitor.markerPath = false
  idle : monitor.check = .idle
  nothing : monitor.clearLock = (.ok .nothingToClear, monitor)
  accepted : monitor.start = (.ok monitor.tasks.length, monitor.accept)

/-- Nothing but the entry of the marker is changed. What is read along another path is the same, the
log's among them, if the way there does not lead past that entry. -/
structure OnlyMarker (after before : Monitor) : Prop where
  sink : after.sink = before.sink
  processes : after.host.processes = before.host.processes
  tasks : after.tasks = before.tasks
  elsewhere : ∀ place, before.host.placeOf? before.markerPath ≠ some place →
    after.host.files.get? place = before.host.files.get? place
  reading : ∀ path, before.host.Bypasses path before.markerPath →
    after.host.read path = before.host.read path
  shown : before.host.Bypasses before.sink.path before.markerPath →
    ∀ count, after.sink.snapshot after.host count = before.sink.snapshot before.host count

variable {monitor : Monitor}

/-- Where nothing is changed, nothing but the marker is. -/
theorem OnlyMarker.refl (monitor : Monitor) : OnlyMarker monitor monitor :=
  ⟨rfl, rfl, rfl, fun _ _ => rfl, fun _ _ => rfl, fun _ _ => rfl⟩

/-- What is shown of a log depends on its durable copy only as it is read. -/
theorem LogSink.snapshot_congr {sink : LogSink} {first second : Host}
    (same : first.read sink.path = second.read sink.path) (count : Nat) :
    sink.snapshot first count = sink.snapshot second count := by
  rw [snapshot, snapshot, tailOfCopy, tailOfCopy, same]

/-! ## Removing the marker -/

/-- There are three ways in which removing the marker can go. -/
theorem removeMarker_cases (monitor : Monitor) :
    (∃ files, monitor.host.files.unlink monitor.host.directory monitor.markerPath = .ok files ∧
      monitor.removeMarker =
        (.ok .cleared, { monitor with host := { monitor.host with files := files } })) ∨
    (monitor.host.files.unlink monitor.host.directory monitor.markerPath = .error (.os .noEntry) ∧
      monitor.removeMarker = (.ok .nothingToClear, monitor)) ∨
    ∃ error, monitor.host.files.unlink monitor.host.directory monitor.markerPath = .error error ∧
      error ≠ .os .noEntry ∧
      monitor.removeMarker = (.error (.markerRemoval error.message), monitor) := by
  unfold Monitor.removeMarker Marker.clear Host.remove Host.settle
  cases unlinked : monitor.host.files.unlink monitor.host.directory monitor.markerPath with
  | ok files => exact Or.inl ⟨files, rfl, rfl⟩
  | error error =>
    cases missing : error.isNotFound with
    | true =>
      obtain rfl : error = .os .noEntry := eq_of_beq missing
      exact Or.inr (Or.inl ⟨rfl, rfl⟩)
    | false =>
      have other : error ≠ .os .noEntry := by
        rintro rfl
        cases missing
      exact Or.inr (Or.inr ⟨error, rfl, other, by simp [missing]⟩)

/-- Where no build runs, clearing the marker is removing it. -/
theorem clearLock_of_not_running (stopped : ∀ pid, monitor.check ≠ .running pid) :
    monitor.clearLock = monitor.removeMarker := by
  unfold Monitor.clearLock
  split
  · next pid running => exact absurd running (stopped pid)
  · rfl

/-- Where there is nothing to remove the slot is free. -/
theorem recovered_of_lacks
    (lacks : monitor.host.files.Lacks monitor.host.directory monitor.markerPath)
    (missing : monitor.host.files.unlink monitor.host.directory monitor.markerPath =
      .error (.os .noEntry)) : Recovered monitor := by
  have unread : monitor.host.readText monitor.markerPath = .error (.os .noEntry) := by
    rw [Host.readText, Host.read, Files.read, lacks.node_eq]
    rfl
  have idle : monitor.check = .idle := Marker.check_eq_idle_iff.mpr ⟨_, unread, rfl⟩
  have cleared : monitor.clearLock = (.ok .nothingToClear, monitor) := by
    rw [clearLock_of_not_running fun pid running => by rw [idle] at running; cases running]
    obtain ⟨files, unlinked, -⟩ | ⟨-, nothing⟩ | ⟨error, unlinked, other, -⟩ :=
      removeMarker_cases monitor
    · rw [missing] at unlinked
      cases unlinked
    · exact nothing
    · rw [missing] at unlinked
      exact absurd (Except.error.inj unlinked).symm other
  exact ⟨lacks.names_eq, idle, cleared, start_of_idle idle⟩

/-- What is removed is an entry, and what does not lead past it stays as it is. -/
theorem onlyMarker_of_unlink {files : Files}
    (unlinked : monitor.host.files.unlink monitor.host.directory monitor.markerPath = .ok files) :
    OnlyMarker { monitor with host := { monitor.host with files := files } } monitor := by
  obtain ⟨place, node, usable, reached, -, rfl, -, -⟩ := unlink_eq_ok unlinked
  have named : monitor.host.placeOf? monitor.markerPath = some place := by
    rw [placeOf?, resolve_eq_ok_iff.mpr ⟨usable, reached⟩]
  have reading : ∀ path, monitor.host.Bypasses path monitor.markerPath →
      Host.read { monitor.host with files := monitor.host.files.erase place } path =
        monitor.host.read path :=
    fun path bypasses => read_erase_of_not_looksAt (bypasses place named)
  refine ⟨rfl, rfl, rfl, fun other elsewhere => ?_, reading, fun bypasses count => ?_⟩
  · refine get?_erase_of_ne _ fun same => elsewhere ?_
    rw [named, same]
  · exact LogSink.snapshot_congr (reading monitor.sink.path bypasses) count

/-! ## Clearing -/

/-- Clearing is refused while a build runs. Otherwise it gives the slot back, so that clearing once
more does nothing and a build may start, or it fails and changes nothing. In no case is anything but
the entry of the marker changed. -/
theorem clearLock_recovers (monitor : Monitor) :
    (∀ pid, monitor.check = .running pid →
      monitor.clearLock = (.error (.buildRunning pid), monitor)) ∧
    ((∀ pid, monitor.check ≠ .running pid) →
      (∃ outcome, monitor.clearLock.1 = .ok outcome ∧ Recovered monitor.clearLock.2) ∨
      ∃ detail, monitor.clearLock = (.error (.markerRemoval detail), monitor)) ∧
    OnlyMarker monitor.clearLock.2 monitor := by
  have running : ∀ pid, monitor.check = .running pid →
      monitor.clearLock = (.error (.buildRunning pid), monitor) := by
    intro pid running
    rw [Monitor.clearLock, running]
  refine ⟨running, fun stopped => ?_, ?_⟩
  · rw [clearLock_of_not_running stopped]
    obtain ⟨files, unlinked, removed⟩ | ⟨missing, removed⟩ | ⟨error, -, -, removed⟩ :=
      removeMarker_cases monitor
    · rw [removed]
      obtain ⟨lacks, missing⟩ := lacks_of_unlink_ok unlinked
      exact Or.inl ⟨.cleared, rfl, recovered_of_lacks lacks missing⟩
    · rw [removed]
      exact Or.inl ⟨.nothingToClear, rfl, recovered_of_lacks (lacks_of_unlink missing) missing⟩
    · exact Or.inr ⟨error.message, removed⟩
  · by_cases busy : ∃ pid, monitor.check = .running pid
    · obtain ⟨pid, runs⟩ := busy
      rw [running pid runs]
      exact .refl monitor
    · rw [clearLock_of_not_running (not_exists.mp busy)]
      obtain ⟨files, unlinked, removed⟩ | ⟨-, removed⟩ | ⟨error, -, -, removed⟩ :=
        removeMarker_cases monitor
      · rw [removed]
        exact onlyMarker_of_unlink unlinked
      · rw [removed]
        exact .refl monitor
      · rw [removed]
        exact .refl monitor

/-- A monitor whose marker is a link that was left behind, to a file that names no process that is
still there. -/
def abandoned : Monitor where
  host :=
    { files := ⟨[(["m"], .link "/p"), (["p"], .file ⟨.ofList [55, 10], false, ⟨0, 0⟩⟩),
        (["l"], .file ⟨.ofList [97, 10], false, ⟨0, 0⟩⟩)]⟩
      processes := ⟨.system, [], []⟩
      directory := []
      now := ⟨0, 0⟩
      faults := [] }
  markerPath := "/m"
  outputDirectory := "/out"
  command := ⟨"/build", "/", []⟩
  sink := LogSink.create "/l" 50
  tasks := []

/-- The link is removed and the slot is free; what the link pointed to and the log are still
there. -/
theorem abandoned_recovers :
    abandoned.check = .stale 7 ∧ abandoned.clearLock.1 = .ok .cleared ∧
      Recovered abandoned.clearLock.2 ∧
      abandoned.clearLock.2.host.read "/p" = .ok (.ofList [55, 10]) ∧
      abandoned.clearLock.2.sink.snapshot abandoned.clearLock.2.host 5 = ["a\n"] := by
  have marker : NamesInRoot "/m" "m" := by decide
  have target : NamesInRoot "/p" "p" := by decide
  have log : NamesInRoot "/l" "l" := by decide
  have stale : abandoned.check = .stale 7 := by
    have read : abandoned.host.readText "/m" = .ok "7\n" :=
      readText_of_node? (marker.node?_of_link rfl target rfl) (by decide)
    show Marker.classify "/m" (abandoned.host.readText "/m") _ = _
    rw [read]
    decide
  have entry : abandoned.host.placeOf? "/m" = some ["m"] := by
    have found : abandoned.host.files.resolve abandoned.host.directory false "/m" =
        .ok (.found ["m"] (.link "/p")) :=
      marker.resolve_eq (.lastLink marker.walkable rfl rfl)
    rw [Host.placeOf?, found]
  have bypasses : ∀ path name, NamesInRoot path name → name ≠ "m" →
      (∃ file, abandoned.host.files.get? [name] = some (.file file)) →
      abandoned.host.Bypasses path "/m" := by
    rintro path name named other ⟨file, found⟩ place held looks
    have plain : ∀ target, abandoned.host.files.get? [name] ≠ some (.link target) := by
      intro target same
      rw [found] at same
      cases same
    rw [entry] at held
    cases held
    exact other (List.singleton_inj.mp (looks.eq_of_namesInRoot named plain)).symm
  have first : abandoned.clearLock.1 = .ok .cleared := by
    have removed : abandoned.host.files.unlink abandoned.host.directory abandoned.markerPath =
        .ok (abandoned.host.files.erase ["m"]) :=
      marker.unlink_eq ⟨by decide, by decide, by decide, by decide⟩ rfl rfl
    rw [Monitor.clearLock, stale]
    simp only [Monitor.removeMarker, Marker.clear, Host.remove, removed, settle]
  obtain ⟨-, cleared, only⟩ := clearLock_recovers abandoned
  refine ⟨stale, first, ?_, ?_, ?_⟩
  · obtain ⟨outcome, -, recovered⟩ | ⟨detail, failed⟩ :=
      cleared fun pid running => by rw [stale] at running; cases running
    · exact recovered
    · rw [failed] at first
      cases first
  · rw [only.reading "/p" (bypasses "/p" "p" target (by decide) ⟨_, rfl⟩)]
    have held : abandoned.host.files.get? ["p"] = some (.file _) := rfl
    exact target.read_of_file held
  · rw [only.shown (bypasses "/l" "l" log (by decide) ⟨_, rfl⟩)]
    have held : abandoned.host.files.get? ["l"] = some (.file _) := rfl
    have read : abandoned.host.read abandoned.sink.path = .ok (.ofList [97, 10]) :=
      log.read_of_file held
    rw [LogSink.snapshot_of_read rfl read]
    decide

end BuildMonitor
