import BuildMonitor.Proofs.Config.Validity

/-!
# From a valid configuration to a monitor

The call of the script is made up of four paths in their absolute form, and an empty path has none.
The checks of a configuration look at one of the four, the path of the script. So a configuration
can be valid and still make no monitor: `unnamedOutput_not_wired`. What is missing is said exactly:
a valid configuration makes a monitor on every host, unless it names an empty working, output or
cache directory; then it makes none on any: `valid_config_wired`. Where a monitor is made, the
commands that need one do not fail for want of it.

Main definition: `Config.NamesDirectories`. Main statement: `valid_config_wired`.
-/

namespace BuildMonitor

open Host

variable {config loaded : Config} {path script : String} {given : Option String}

/-! ## Paths that are made absolute -/

/-- An empty path has no absolute form. -/
theorem Host.Path.absolute_empty (directory : String) :
    Path.absolute directory "" = .error .emptyPath := by
  rw [Path.absolute, if_pos rfl]

/-- Every path but the empty one has an absolute form. -/
theorem Host.Path.exists_absolute (named : path ≠ "") (directory : String) :
    ∃ whole, Path.absolute directory path = .ok whole := by
  rw [Path.absolute, if_neg named]
  exact ⟨_, rfl⟩

/-- Where no working directory is given there is one all the same. -/
theorem Build.effectiveWorkingDirectory_eq_empty_iff :
    effectiveWorkingDirectory script given = "" ↔ given = some "" := by
  cases given with
  | some directory => simp [effectiveWorkingDirectory]
  | none =>
    rw [effectiveWorkingDirectory]
    cases Path.parent? script with
    | none => decide
    | some parent =>
      dsimp only
      split
      · decide
      · next named => simp [named]

/-- The call of a script can be made up if all its paths are named; else it fails, for one and the
same reason. -/
theorem Build.Command.resolve_cases (directory script : String) (given : Option String)
    (output cache : String) :
    ((script ≠ "" ∧ given ≠ some "" ∧ output ≠ "" ∧ cache ≠ "") ∧
        ∃ command, Command.resolve directory script given output cache = .ok command) ∨
      ((script = "" ∨ given = some "" ∨ output = "" ∨ cache = "") ∧
        Command.resolve directory script given output cache = .error .emptyPath) := by
  -- The paths are made absolute in turn, and the first that is empty ends it.
  rw [Command.resolve]
  by_cases noScript : script = ""
  · rw [noScript, Path.absolute_empty]
    exact Or.inr ⟨Or.inl rfl, rfl⟩
  obtain ⟨absoluteScript, first⟩ := Path.exists_absolute noScript directory
  rw [first]
  by_cases noGiven : given = some ""
  · rw [effectiveWorkingDirectory_eq_empty_iff.mpr noGiven, Path.absolute_empty]
    exact Or.inr ⟨Or.inr (Or.inl noGiven), rfl⟩
  obtain ⟨runsIn, second⟩ :=
    Path.exists_absolute (mt effectiveWorkingDirectory_eq_empty_iff.mp noGiven) directory
  rw [second]
  by_cases noOutput : output = ""
  · rw [noOutput, Path.absolute_empty]
    exact Or.inr ⟨Or.inr (Or.inr (Or.inl rfl)), rfl⟩
  obtain ⟨outputDirectory, third⟩ := Path.exists_absolute noOutput directory
  rw [third]
  by_cases noCache : cache = ""
  · rw [noCache, Path.absolute_empty]
    exact Or.inr ⟨Or.inr (Or.inr (Or.inr rfl)), rfl⟩
  obtain ⟨cacheDirectory, fourth⟩ := Path.exists_absolute noCache directory
  rw [fourth]
  exact Or.inl ⟨⟨noScript, noGiven, noOutput, noCache⟩, _, rfl⟩

/-! ## Configurations -/

/-- What the script works in and on is not named by an empty path. -/
structure Config.NamesDirectories (config : Config) : Prop where
  working : config.build.workingDirectory ≠ some ""
  output : config.artifacts.outputDirectory ≠ ""
  cache : config.artifacts.cacheDirectory ≠ ""

/-- What the checks of a configuration say about the script and the log. -/
theorem Config.of_validate (valid : config.validate = .ok ()) :
    config.build.script ≠ "" ∧ 1 ≤ config.build.maxLogLines ∧
      config.build.maxLogLines ≤ greatestLogLines :=
  have others := validButLevel_of_validate valid
  ⟨others.script, others.least, others.greatest⟩

/-- On every host the same configurations make a monitor: those whose call of the script can be made
up. -/
theorem Monitor.ofConfig_cases (scriptNamed : config.build.script ≠ "") (host : Host) :
    (config.NamesDirectories ∧ ∃ monitor, Monitor.ofConfig config host = .ok monitor ∧
        monitor.sink.capacity = max config.build.maxLogLines 1) ∨
      (¬ config.NamesDirectories ∧ Monitor.ofConfig config host = .error .emptyPath) := by
  rw [Monitor.ofConfig, Config.command]
  obtain ⟨⟨-, working, output, cache⟩, command, resolved⟩ | ⟨unnamed, failed⟩ :=
    Build.Command.resolve_cases host.workingDirectory config.build.script
      config.build.workingDirectory config.artifacts.outputDirectory
      config.artifacts.cacheDirectory
  · rw [resolved]
    exact Or.inl ⟨⟨working, output, cache⟩, _, rfl, rfl⟩
  · rw [failed]
    refine Or.inr ⟨fun named => ?_, rfl⟩
    rcases unnamed with script | working | output | cache
    · exact scriptNamed script
    · exact named.working working
    · exact named.output output
    · exact named.cache cache

/-! ## Commands -/

namespace Cli

variable {host : Host} {environment : Config.Environment} {file : Option String}

/-- Once the configuration is loaded, status and clear-lock have a monitor if it makes one. -/
theorem openMonitor_eq_ok {monitor : Monitor}
    (loads : Config.load host environment file = .ok config)
    (wired : Monitor.ofConfig config host = .ok monitor) :
    openMonitor host environment file = .ok (config, monitor) := by
  simp only [openMonitor, loads, wired]

/-- Once its directories are made, a server whose configuration makes a monitor can fail only for
its address. -/
theorem serve_eq {address : Option String} {port : Option Nat} {logged prepared : Host}
    {monitor : Monitor} (loads : Config.load host environment file = .ok loaded)
    (valid : (override loaded address port).validate = .ok ())
    (logs : openServiceLog loaded.logging host = .ok logged)
    (makes : makeOutput loaded logged = .ok prepared)
    (wired : Monitor.ofConfig (override loaded address port) prepared = .ok monitor) :
    serve address port host environment file =
      (((Http.Address.resolve host.addresses (address.getD loaded.server.host)
          (port.getD loaded.server.port)).mapError (·.message)).map fun _ =>
        listening s!"{address.getD loaded.server.host}:{port.getD loaded.server.port}",
      prepared) := by
  have logs' : openServiceLog (override loaded address port).logging host = .ok logged := logs
  have makes' : makeOutput (override loaded address port) logged = .ok prepared := makes
  obtain ⟨level, starts⟩ := exists_startServiceLog_eq valid host
  have starts' : startServiceLog (override loaded address port).logging host =
      .ok (level, logged) := by
    rw [starts, logs']
    rfl
  simp only [serve, loads, valid, starts', makes', wired]
  simp only [override]
  cases Http.Address.resolve host.addresses (address.getD loaded.server.host)
    (port.getD loaded.server.port) <;> rfl

end Cli

/-! ## Valid configurations -/

/-- The configuration with nothing set but an empty output directory. -/
def unnamedOutput : Config :=
  { Config.default with artifacts := { Config.Artifacts.default with outputDirectory := "" } }

/-- A host with nothing on it. -/
def emptyHost : Host := .bare .system [] ⟨0, 0⟩

/-- A valid configuration with an empty output directory of which no monitor can be made. -/
theorem unnamedOutput_not_wired :
    unnamedOutput.validate = .ok () ∧
      Monitor.ofConfig unnamedOutput emptyHost = .error .emptyPath :=
  ⟨rfl, rfl⟩

/-- A valid configuration makes a monitor on every host, unless it names an empty working, output or
cache directory, which makes none on any. The log of the monitor keeps as many lines as the
configuration says, which is between one and a thousand. When the configuration was loaded, status
and clear-lock get that monitor, and a server that has made its directories can fail only for its
address. -/
theorem valid_config_wired (valid : config.validate = .ok ()) (host : Host) :
    (config.NamesDirectories →
      (∃ monitor, Monitor.ofConfig config host = .ok monitor ∧
        monitor.sink.capacity = config.build.maxLogLines ∧
        1 ≤ monitor.sink.capacity ∧ monitor.sink.capacity ≤ 1000 ∧
        ∀ environment file, Config.load host environment file = .ok config →
          Cli.openMonitor host environment file = .ok (config, monitor)) ∧
      ∀ environment file loaded address port logged prepared,
        Config.load host environment file = .ok loaded →
        Cli.override loaded address port = config →
        Cli.openServiceLog config.logging host = .ok logged →
        Cli.makeOutput config logged = .ok prepared →
        Cli.serve address port host environment file =
          (((Http.Address.resolve host.addresses config.server.host
              config.server.port).mapError (·.message)).map fun _ =>
            Cli.listening s!"{config.server.host}:{config.server.port}",
          prepared)) ∧
      (¬ config.NamesDirectories → Monitor.ofConfig config host = .error .emptyPath) := by
  obtain ⟨scriptNamed, least, greatest⟩ := Config.of_validate valid
  refine ⟨fun named => ⟨?_, ?_⟩, fun unnamed => ?_⟩
  case refine_1 =>
    obtain ⟨-, monitor, wired, capacity⟩ | ⟨unnamed, -⟩ := Monitor.ofConfig_cases scriptNamed host
    · rw [Nat.max_eq_left least] at capacity
      exact ⟨monitor, wired, capacity, capacity ▸ least, capacity ▸ greatest,
        fun _ _ loads => Cli.openMonitor_eq_ok loads wired⟩
    · exact absurd named unnamed
  case refine_2 =>
    rintro environment file loaded address port logged prepared loads rfl logs makes
    obtain ⟨-, monitor, wired, -⟩ | ⟨unnamed, -⟩ := Monitor.ofConfig_cases scriptNamed prepared
    · exact Cli.serve_eq loads valid logs makes wired
    · exact absurd named unnamed
  case refine_3 =>
    obtain ⟨named, -⟩ | ⟨-, failed⟩ := Monitor.ofConfig_cases scriptNamed host
    · exact absurd named unnamed
    · exact failed

/-- With nothing set the log keeps a thousand lines. -/
theorem default_wired :
    Config.default.validate = .ok () ∧
      ∃ monitor, Monitor.ofConfig Config.default emptyHost = .ok monitor ∧
        monitor.sink.capacity = 1000 := by
  have valid : Config.default.validate = .ok () := rfl
  have named : Config.default.NamesDirectories := ⟨by decide, by decide, by decide⟩
  obtain ⟨monitor, wired, capacity, -⟩ := ((valid_config_wired valid emptyHost).1 named).1
  exact ⟨valid, monitor, wired, capacity⟩

end BuildMonitor
