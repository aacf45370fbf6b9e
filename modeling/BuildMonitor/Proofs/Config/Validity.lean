import BuildMonitor.Cli.Run

/-!
# Valid configurations

The checks of a configuration come in an order, and the first that fails is reported. What a
configuration that passes is like is said without an order: `validButLevel_of_validate` for all its
fields but the level, and for the level, which is the last to be checked, `validate_eq_ok_iff`.

The level is looked up twice: in a list of words by the checks, and word by word when the service
starts its own log. Both know the same words, so a valid configuration never fails for its level
there: `exists_startServiceLog_eq`.

Main definition: `ValidButLevel`.
-/

namespace BuildMonitor

open Host Text

/-! ## Levels by their words -/

namespace Config.Level

variable {text word : String} {level : Level}

/-- A text names a level exactly if its lower case is the word for the level. -/
theorem ofText?_eq_some_iff : ofText? text = some level ↔ lower text = level.word := by
  constructor
  · intro named
    rw [ofText?] at named
    split at named <;> cases named <;> assumption
  · intro lowered
    rw [ofText?, lowered]
    cases level <;> rfl

/-- The words that are accepted are those for the levels. -/
theorem mem_words_iff : word ∈ words ↔ ∃ level : Level, word = level.word := by
  have listed : words = all.map Level.word := rfl
  rw [listed, List.mem_map]
  constructor
  · rintro ⟨level, -, rfl⟩
    exact ⟨level, rfl⟩
  · rintro ⟨level, rfl⟩
    exact ⟨level, by cases level <;> decide, rfl⟩

/-- The list of words and the look-up of a level know the same words. -/
theorem contains_words_iff :
    words.contains (lower text) = true ↔ ∃ level, ofText? text = some level := by
  rw [List.contains_iff_mem, mem_words_iff]
  exact exists_congr fun level => ofText?_eq_some_iff.symm

end Config.Level

/-! ## Fields -/

namespace Config

variable {config : Config}

/-- Nothing is wrong with the configuration but perhaps its level. -/
structure ValidButLevel (config : Config) : Prop where
  script : config.build.script ≠ ""
  apart : Path.same config.build.lockFile config.build.logFile = false
  least : 1 ≤ config.build.maxLogLines
  greatest : config.build.maxLogLines ≤ greatestLogLines
  port : config.server.port ≠ 0

/-- Where all else is right the level decides. -/
theorem ValidButLevel.validate_eq (others : config.ValidButLevel) :
    config.validate =
      match Level.ofText? config.logging.level with
      | some _ => .ok ()
      | none => .error (.logLevel config.logging.level) := by
  have inRange : ¬ (config.build.maxLogLines = 0 ∨
      greatestLogLines < config.build.maxLogLines) := by
    have least := others.least
    have greatest := others.greatest
    omega
  have unlike : ¬ Path.same config.build.lockFile config.build.logFile = true :=
    Bool.eq_false_iff.mp others.apart
  rw [validate, if_neg others.script, if_neg unlike, if_neg inRange, if_neg others.port]
  cases named : Level.ofText? config.logging.level with
  | some level =>
    have listed := Level.contains_words_iff.mpr ⟨level, named⟩
    rw [listed]
    rfl
  | none =>
    have unlisted : Level.words.contains (lower config.logging.level) = false := by
      rw [Bool.eq_false_iff, ne_eq, Level.contains_words_iff, named]
      exact nofun
    rw [unlisted]
    rfl

/-- Nothing is wrong with a valid configuration, its level apart or not. -/
theorem validButLevel_of_validate (valid : config.validate = .ok ()) : config.ValidButLevel := by
  rw [validate] at valid
  split at valid
  · cases valid
  next script =>
  split at valid
  · cases valid
  next unlike =>
  split at valid
  · cases valid
  next inRange =>
  split at valid
  · cases valid
  next port =>
  exact ⟨script, Bool.eq_false_iff.mpr unlike, by omega, by omega, port⟩

/-- A configuration is valid if nothing else is wrong with it and its level is known. -/
theorem validate_eq_ok_iff : config.validate = .ok () ↔
    config.ValidButLevel ∧ ∃ level, Level.ofText? config.logging.level = some level := by
  constructor
  · intro valid
    have others := validButLevel_of_validate valid
    refine ⟨others, ?_⟩
    rw [others.validate_eq] at valid
    split at valid
    · next level named => exact ⟨level, named⟩
    · cases valid
  · rintro ⟨others, level, named⟩
    rw [others.validate_eq, named]

end Config

/-! ## The service's own log -/

namespace Cli

variable {config : Config} {logging : Config.Logging} {level : Config.Level} {host : Host}

/-- At a level that is known, the service's own log is started if its file is opened. -/
theorem startServiceLog_of_level (named : Config.Level.ofText? logging.level = some level)
    (host : Host) :
    startServiceLog logging host =
      ((openServiceLog logging host).mapError .file).map (level, ·) := by
  rw [startServiceLog, named]

/-- With a level that has no name there is no log of the service. -/
theorem startServiceLog_of_none (unknown : Config.Level.ofText? logging.level = none)
    (host : Host) : startServiceLog logging host = .error (.unknownLevel logging.level) := by
  rw [startServiceLog, unknown]

/-- In a valid configuration the level is no reason for the service's own log not to start. -/
theorem exists_startServiceLog_eq (valid : config.validate = .ok ()) (host : Host) :
    ∃ level, startServiceLog config.logging host =
      ((openServiceLog config.logging host).mapError .file).map (level, ·) := by
  obtain ⟨-, level, named⟩ := Config.validate_eq_ok_iff.mp valid
  exact ⟨level, startServiceLog_of_level named host⟩

end Cli

end BuildMonitor
