import BuildMonitor.Proofs.Config.Wiring
import BuildMonitor.Proofs.Host.Copy
import BuildMonitor.Proofs.Host.Spelling
import BuildMonitor.Proofs.Monitor.Tasks

/-!
# Keeping the marker from the log

A valid configuration has different paths for the marker and the log, but the paths are compared as
they are spelled. One path may be absolute and the other relative, or only one may have a dot in
front, and both spell one place: `respelled_collides`. What is added to the log then goes into the
marker.

Otherwise the marker is safe. The absolute forms are the same if the paths spell one place, which
they do not if they have the same front. Where they spell different places, with no links in the way
and no two dots, nothing that the monitor does to its log, while it serves requests and its builds go
on, touches the marker: `valid_config_keeps_marker`.

Main definition: `Deed`. Main statement: `valid_config_keeps_marker`.
-/

namespace BuildMonitor

open Host

/-- What a monitor does: it serves a request, or goes on with a build whose script did something. -/
inductive Deed where
  | serve (request : Request)
  | goOn (number : Nat) (event : Build.Event)

/-- The monitor after a deed. -/
def Deed.perform (monitor : Monitor) : Deed → Monitor
  | .serve request => request.perform monitor
  | .goOn number event => monitor.advance number event

variable {monitor : Monitor} {config : Config}

/-- A marker that is apart from the log is spared by every deed but clearing. -/
theorem spares_deed (separate : monitor.Separate) {deed : Deed}
    (other : deed ≠ .serve .clearLock) : Spares (deed.perform monitor) monitor := by
  cases deed with
  | serve request => exact spares_perform separate fun clears => other (congrArg Deed.serve clears)
  | goOn number event => exact spares_advance separate number event

/-- A marker that is apart from the log is spared for as long as nobody asks to clear it. -/
theorem spares_deeds (separate : monitor.Separate) (deeds : List Deed)
    (others : ∀ deed ∈ deeds, deed ≠ .serve .clearLock) :
    Spares (deeds.foldl Deed.perform monitor) monitor := by
  induction deeds generalizing monitor with
  | nil => exact Spares.refl separate
  | cons deed rest inductionHypothesis =>
    obtain ⟨other, others⟩ := List.forall_mem_cons.mp others
    have first := spares_deed separate other
    exact (inductionHypothesis first.separate others).trans first

/-- The paths of the marker and the log, as they are spelled, are different. -/
theorem Config.differ_of_validate (valid : config.validate = .ok ()) :
    Path.same config.build.lockFile config.build.logFile = false :=
  (validButLevel_of_validate valid).apart

/-- A monitor takes the paths of its marker and its log from the configuration as they are
spelled. -/
theorem Monitor.paths_of_ofConfig {host : Host}
    (wired : Monitor.ofConfig config host = .ok monitor) :
    monitor.host = host ∧ monitor.markerPath = config.build.lockFile ∧
      monitor.sink.path = config.build.logFile := by
  rw [Monitor.ofConfig] at wired
  cases resolved : config.command host.workingDirectory with
  | error => rw [resolved] at wired; cases wired
  | ok command =>
    rw [resolved] at wired
    cases wired
    exact ⟨rfl, rfl, rfl⟩

/-- The absolute forms of the marker and the log are the same if their paths spell one place, and in
a valid configuration paths with the same front do not. If they spell different places, a monitor
leaves the marker as it is, whatever it is asked but to clear it, and whatever the scripts of its
builds do to be logged. -/
theorem valid_config_keeps_marker (valid : config.validate = .ok ()) (host : Host)
    (areNames : ∀ name ∈ host.directory, Path.IsName name) :
    let markerPlace := Path.placeOf host.directory config.build.lockFile
    let logPlace := Path.placeOf host.directory config.build.logFile
    (∀ marker log, host.absolute config.build.lockFile = .ok marker →
      host.absolute config.build.logFile = .ok log →
      (Path.same marker log = true ↔ markerPlace = logPlace)) ∧
    (Path.front config.build.lockFile = Path.front config.build.logFile →
      markerPlace ≠ logPlace) ∧
    ∀ monitor, Monitor.ofConfig config host = .ok monitor → markerPlace ≠ logPlace →
      host.files.NoLinks → ".." ∉ Path.names config.build.lockFile →
      ".." ∉ Path.names config.build.logFile →
      ∀ deeds : List Deed, (∀ deed ∈ deeds, deed ≠ .serve .clearLock) →
        (deeds.foldl Deed.perform monitor).host.node? config.build.lockFile =
          host.node? config.build.lockFile := by
  refine ⟨fun marker log made made' => Path.same_absolute_iff areNames made made',
    fun alike => Path.placeOf_ne_of_front_eq alike (Config.differ_of_validate valid) _,
    fun monitor wired differ noLinks noUp noUp' deeds others => ?_⟩
  obtain ⟨isHost, marker, log⟩ := Monitor.paths_of_ofConfig wired
  have separate : monitor.Separate := by
    rw [Monitor.Separate, isHost, marker, log]
    exact apart_of_placeOf_ne noLinks noUp noUp' differ
  have kept := (spares_deeds separate deeds others).node
  rwa [isHost, marker] at kept

/-- A configuration with the given paths of the marker and the log. -/
def Config.withPaths (marker log : String) : Config :=
  { Config.default with
    build := { Config.Build.default with lockFile := marker, logFile := log } }

/-- A host whose marker names a process. -/
def hostWithMarker : Host :=
  { Host.bare .system [] ⟨0, 0⟩ with
    files := ⟨[(["m"], .file ⟨Blob.ofList [55, 10], false, ⟨0, 0⟩⟩)]⟩ }

/-- Whatever the two paths are, the rest of the configuration makes a monitor. -/
theorem exists_ofConfig_withPaths (marker log : String) :
    ∃ monitor, Monitor.ofConfig (.withPaths marker log) hostWithMarker = .ok monitor := by
  have named : (Config.withPaths marker log).NamesDirectories :=
    ⟨by simp [Config.withPaths, Config.Build.default],
      by simp [Config.withPaths, Config.default, Config.Artifacts.default],
      by simp [Config.withPaths, Config.default, Config.Artifacts.default]⟩
  have script : (Config.withPaths marker log).build.script ≠ "" := by
    simp [Config.withPaths, Config.Build.default]
  obtain ⟨-, monitor, wired, -⟩ | ⟨unnamed, -⟩ := Monitor.ofConfig_cases script hostWithMarker
  · exact ⟨monitor, wired⟩
  · exact absurd named unnamed

/-- A build that is asked for while the marker is there, and a stop, leave it there. -/
theorem valid_config_keeps_marker_of_names :
    (Config.withPaths "m" "l").validate = .ok () ∧
      ∃ monitor, Monitor.ofConfig (.withPaths "m" "l") hostWithMarker = .ok monitor ∧
        ([Deed.serve .start, .serve .stop, .goOn 0 .spawned].foldl Deed.perform monitor).host.node?
          "m" = hostWithMarker.node? "m" := by
  have valid : (Config.withPaths "m" "l").validate = .ok () := rfl
  obtain ⟨monitor, wired⟩ := exists_ofConfig_withPaths "m" "l"
  have noLinks : hostWithMarker.files.NoLinks := by
    intro location target held
    rw [Files.get?] at held
    split at held
    · cases held
    · have entry : List.lookup location [(["m"], _)] = some (Node.link target) := held
      rw [List.lookup_cons] at entry
      split at entry <;> cases entry
  have areNames : ∀ name ∈ hostWithMarker.directory, Path.IsName name := List.forall_mem_nil _
  exact ⟨valid, monitor, wired, (valid_config_keeps_marker valid hostWithMarker areNames).2.2
    monitor wired (by decide) noLinks (by decide) (by decide) _ (by simp)⟩

/-- A dot in front makes no difference to where the path leads. -/
private theorem node?_dot_slash (host : Host) : host.node? "./m" = host.node? "m" := by
  have pieces : Files.walkPieces "./m" = "." :: Files.walkPieces "m" := by decide
  have walked (here : Location) :
      host.files.walk true Files.linkLimit here (Files.walkPieces "./m") =
        host.files.walk true Files.linkLimit here (Files.walkPieces "m") := by
    rw [pieces, Files.walk, if_pos rfl]
  have resolved : host.files.resolve host.directory true "./m" =
      host.files.resolve host.directory true "m" := by
    simp only [Files.resolve, walked]
    rfl
  rw [node?, node?, Files.node, Files.node, resolved]

/-- A valid configuration whose marker and log are one file: a line that is logged goes into the
marker. -/
theorem respelled_collides :
    (Config.withPaths "m" "./m").validate = .ok () ∧
      Path.absolute "/srv" "m" = .ok "/srv/m" ∧ Path.absolute "/srv" "./m" = .ok "/srv/m" ∧
      ∃ monitor, Monitor.ofConfig (.withPaths "m" "./m") hostWithMarker = .ok monitor ∧
        monitor.host.readText monitor.markerPath = .ok "7\n" ∧
        (monitor.append "x\n").host.readText monitor.markerPath = .ok "7\nx\n" := by
  obtain ⟨monitor, wired⟩ := exists_ofConfig_withPaths "m" "./m"
  obtain ⟨isHost, marker, log⟩ := Monitor.paths_of_ofConfig wired
  have names : hostWithMarker.node? "m" = some (["m"], .file _) :=
    node?_eq_some_iff.mpr ⟨by decide, .last (by decide) rfl rfl⟩
  have keeps : hostWithMarker.Keeps "./m" (some [55, 10]) :=
    ⟨["m"], _, (node?_dot_slash hostWithMarker).trans names, rfl⟩
  refine ⟨rfl, rfl, rfl, monitor, wired, ?_, ?_⟩
  · rw [isHost, marker]
    exact readText_of_node? names (by decide)
  · rw [marker, Monitor.append, LogSink.append]
    simp only
    rw [isHost, log]
    show (hostWithMarker.appendDurably "./m" [120, 10]).2.readText "m" = _
    obtain ⟨place, file, held, content⟩ := keeps.appendDurably
      (keeps.appendDurably_ok rfl [120, 10]).1
    rw [node?_dot_slash] at held
    exact readText_of_node? held (by rw [content]; decide)

end BuildMonitor
