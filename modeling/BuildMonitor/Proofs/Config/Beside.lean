import BuildMonitor.Proofs.Config.Wiring
import BuildMonitor.Proofs.Host.Parents
import BuildMonitor.Proofs.Host.Rooted

/-!
# The build runs beside its script

Without a working directory of its own the build runs in the parent of its script, however the path
of the script is spelled. With one, the script and the directories it works on are called by the
same paths: they are absolute, so they are found from wherever the build runs. The output directory
that the build is told is the one that the artifacts are looked for in.

Main definitions: `Config.runningIn`, `Build.Command.Calls`. Main statement:
`build_runs_beside_script`.
-/

namespace BuildMonitor

open Host Host.Path Artifact

/-- A configuration with a working directory for the build, or with none. -/
def Config.runningIn (config : Config) (given : Option String) : Config :=
  { config with build := { config.build with workingDirectory := given } }

/-- A call of a script, with the directories it is told to work on, by paths from the root. -/
structure Build.Command.Calls (command : Build.Command) (script output cache : String) : Prop where
  script : command.script = script
  environment : command.environment = [("OUTPUT_DIR", output), ("CACHE_DIR", cache)]
  rooted : isAbsolute command.workingDirectory = true

/-- The artifacts in a directory have paths that can be walked. -/
def Artifact.Usable (directory : String) : Prop :=
  ∀ name ∈ [databaseName, archiveName, metadataName], Files.Usable (join directory name)

instance : DecidablePred Artifact.Usable := fun directory =>
  inferInstanceAs (Decidable
    (∀ name ∈ [databaseName, archiveName, metadataName], Files.Usable (join directory name)))

variable {config : Config} {host : Host} {current directory whole : String}

/-! ## The artifacts -/

/-- What is found in a directory does not depend on how it is named. -/
theorem inspect_congr {first second : Host} {directory directory' : String}
    (alike : ∀ name ∈ [databaseName, archiveName, metadataName],
      first.files.node first.directory (join directory name) =
        second.files.node second.directory (join directory' name)) :
    inspect first directory = inspect second directory' := by
  have database := alike databaseName (by decide)
  have archive := alike archiveName (by decide)
  have document := alike metadataName (by decide)
  simp only [inspect, readMetadata, Host.read, Files.metadata, Files.read, database, archive,
    document]

/-- The artifacts are the same in a directory and in its absolute form, from wherever that is looked
at. -/
theorem inspect_absolute (stands : host.Stands) (made : host.absolute directory = .ok whole)
    (usable : Artifact.Usable directory) (usable' : Artifact.Usable whole) (elsewhere : Location) :
    inspect { host with directory := elsewhere } whole = inspect host directory := by
  refine inspect_congr fun name isArtifact => ?_
  have isName : IsName name := by
    revert name
    decide
  unfold Files.node
  rw [resolve_join_absolute stands isName made (usable name isArtifact) (usable' name isArtifact)]

/-! ## The call of the script -/

/-- Two steps give a result if the first gives what the second makes it of. -/
theorem bind_eq_ok_iff {ε α β : Type} {first : Except ε α} {next : α → Except ε β} {result : β} :
    (first >>= next) = .ok result ↔ ∃ value, first = .ok value ∧ next value = .ok result := by
  cases first with
  | error fault => simp [bind, Except.bind]
  | ok value => simp [bind, Except.bind]

namespace Build.Command

variable {script output cache : String} {given : Option String} {command : Command}

/-- A call is made up of the absolute forms of its paths. -/
theorem resolve_eq_ok_iff : resolve current script given output cache = .ok command ↔
    Path.absolute current script = .ok command.script ∧
      Path.absolute current (effectiveWorkingDirectory script given) =
        .ok command.workingDirectory ∧
      ∃ output' cache', Path.absolute current output = .ok output' ∧
        Path.absolute current cache = .ok cache' ∧
        command.environment = [("OUTPUT_DIR", output'), ("CACHE_DIR", cache')] := by
  simp only [resolve, bind_eq_ok_iff, pure, Except.pure, Except.ok.injEq]
  constructor
  · rintro ⟨script', first, directory, second, output', third, cache', fourth, rfl⟩
    exact ⟨first, second, output', cache', third, fourth, rfl⟩
  · rintro ⟨first, second, output', cache', third, fourth, environment⟩
    exact ⟨_, first, _, second, output', third, cache', fourth, by rw [← environment]⟩

end Build.Command

/-- A monitor that is set up calls the script as the configuration says, and looks for artifacts in
the directory that it names. -/
theorem Monitor.of_ofConfig {monitor : Monitor}
    (wired : Monitor.ofConfig config host = .ok monitor) :
    config.command host.workingDirectory = .ok monitor.command ∧
      monitor.outputDirectory = config.artifacts.outputDirectory := by
  simp only [Monitor.ofConfig, bind_eq_ok_iff, pure, Except.pure, Except.ok.injEq] at wired
  obtain ⟨command, resolved, rfl⟩ := wired
  exact ⟨resolved, rfl⟩

/-- The build runs beside its script if it has no directory of its own: its working directory is,
component by component, the parent of the path that the script is called by. Wherever it runs, the
script and the two directories it is told are called by the same paths from the root, and the output
directory is the one behind the current directory that the monitor looks for artifacts in. -/
theorem build_runs_beside_script {final : String} (rooted : isAbsolute current = true)
    (ends : (components config.build.script).getLast? = some (.name final))
    (outputNamed : config.artifacts.outputDirectory ≠ "")
    (cacheNamed : config.artifacts.cacheDirectory ≠ "") :
    ∃ script output cache parent,
      parent? script = some parent ∧
      (∀ given, given ≠ some "" → ∃ command,
        (config.runningIn given).command current = .ok command ∧
        command.Calls script output cache ∧
        (given = none → components command.workingDirectory = components parent)) ∧
      (∀ path ∈ [script, output, cache], isAbsolute path = true ∧
        ∀ (files : Files) follow here elsewhere,
          files.resolve here follow path = files.resolve elsewhere follow path) ∧
      components output = components (join current config.artifacts.outputDirectory) ∧
      ∀ host : Host, host.workingDirectory = current → host.Stands → ∀ given monitor,
        Monitor.ofConfig (config.runningIn given) host = .ok monitor →
        monitor.command.Calls script output cache ∧
        (Artifact.Usable monitor.outputDirectory → Artifact.Usable output → ∀ elsewhere,
          inspect { host with directory := elsewhere } output =
            inspect host monitor.outputDirectory) := by
  have scriptNamed : config.build.script ≠ "" := by
    intro none
    rw [none] at ends
    cases ends
  obtain ⟨script, scriptMade⟩ := Path.exists_absolute scriptNamed current
  obtain ⟨output, outputMade⟩ := Path.exists_absolute outputNamed current
  obtain ⟨cache, cacheMade⟩ := Path.exists_absolute cacheNamed current
  obtain ⟨parent, above, lies, lies', beside⟩ := exists_parent_absolute rooted ends scriptMade
  have calls {given : Option String} {command : Build.Command}
      (resolved : (config.runningIn given).command current = .ok command) :
      command.Calls script output cache ∧
        (given = none → components command.workingDirectory = components above) := by
    obtain ⟨first, second, output', cache', third, fourth, environment⟩ :=
      Build.Command.resolve_eq_ok_iff.mp resolved
    have same := Except.ok.inj (scriptMade.symm.trans first)
    have same' := Except.ok.inj (outputMade.symm.trans third)
    have same'' := Except.ok.inj (cacheMade.symm.trans fourth)
    refine ⟨⟨same.symm, by rw [environment, same', same''],
      (names_absolute_of_rooted rooted second).1⟩, ?_⟩
    rintro rfl
    refine (beside _ ?_).2
    rw [← second]
    simp only [Build.effectiveWorkingDirectory, Config.runningIn, lies]
  have fixed {path whole : String} (made : Path.absolute current path = .ok whole) :
      isAbsolute whole = true ∧ ∀ (files : Files) follow here elsewhere,
        files.resolve here follow whole = files.resolve elsewhere follow whole := by
    have absolute := (names_absolute_of_rooted rooted made).1
    exact ⟨absolute, Files.resolve_of_isAbsolute absolute⟩
  refine ⟨script, output, cache, above, lies', ?_, ?_, components_absolute rooted outputMade, ?_⟩
  case refine_1 =>
    intro given named
    obtain ⟨-, command, resolved⟩ | ⟨unnamed, -⟩ := Build.Command.resolve_cases current
      config.build.script given config.artifacts.outputDirectory config.artifacts.cacheDirectory
    · exact ⟨command, resolved, calls resolved⟩
    · simp [scriptNamed, named, outputNamed, cacheNamed] at unnamed
  case refine_2 =>
    simp only [List.forall_mem_cons, List.not_mem_nil, false_imp_iff, implies_true, and_true]
    exact ⟨fixed scriptMade, fixed outputMade, fixed cacheMade⟩
  case refine_3 =>
    rintro host rfl stands given monitor wired
    obtain ⟨resolved, looks⟩ := Monitor.of_ofConfig wired
    refine ⟨(calls resolved).1, fun usable usable' elsewhere => ?_⟩
    rw [looks] at usable ⊢
    exact inspect_absolute stands outputMade usable usable' elsewhere

/-- The script is named by a path with dots and slashes that mean nothing, and two dots that do. -/
def crookedScript : Config :=
  { Config.default with
    build := { Config.Build.default with script := "./ci/..//tools/build.sh/." }
    artifacts := { Config.Artifacts.default with outputDirectory := "./out/" } }

/-- A host with a working directory and nothing else. -/
def plainHost : Host :=
  { Host.bare .system ["srv"] ⟨0, 0⟩ with files := ⟨[(["srv"], .directory default)]⟩ }

/-- How the script is called there. -/
def crookedCommand : Build.Command :=
  ⟨"/srv/ci/../tools/build.sh", "/srv/ci/../tools",
    [("OUTPUT_DIR", "/srv/out/"), ("CACHE_DIR", "/srv/cache")]⟩

/-- A script whose path goes down and up again is run in its own directory, and the output is found
from elsewhere too. -/
theorem crookedScript_runs_beside :
    plainHost.Stands ∧ ∃ monitor parent, Monitor.ofConfig crookedScript plainHost = .ok monitor ∧
      monitor.command = crookedCommand ∧
      parent? monitor.command.script = some parent ∧
      components monitor.command.workingDirectory = components parent ∧
      inspect { plainHost with directory := [] } "/srv/out/" =
        inspect plainHost monitor.outputDirectory := by
  have stands : plainHost.Stands := ⟨by decide, by decide, ⟨default, rfl⟩, trivial⟩
  obtain ⟨script, output, cache, parent, lies, calls, -, -, looks⟩ :=
    build_runs_beside_script (show isAbsolute plainHost.workingDirectory = true by decide)
      (show (components crookedScript.build.script).getLast? = some (.name "build.sh") by
        decide +kernel)
      (by decide) (by decide)
  have resolved : crookedScript.command plainHost.workingDirectory = .ok crookedCommand := rfl
  obtain ⟨command, resolved', called, beside⟩ := calls none nofun
  obtain rfl : crookedCommand = command := Except.ok.inj (resolved.symm.trans resolved')
  obtain ⟨rfl, told, -⟩ := called
  obtain rfl : "/srv/out/" = output := congrArg Prod.snd (List.cons.inj told).1
  have wired : Monitor.ofConfig crookedScript plainHost = .ok
      ⟨plainHost, "/tmp/build-db-vm.lock", "./out/", crookedCommand,
        LogSink.create "/tmp/trivy-db-build.log" 1000, []⟩ := by
    rw [Monitor.ofConfig, resolved]
    rfl
  exact ⟨stands, _, parent, wired, rfl, lies, beside rfl,
    (looks plainHost rfl stands none _ wired).2 (by decide +kernel) (by decide +kernel) []⟩

end BuildMonitor
