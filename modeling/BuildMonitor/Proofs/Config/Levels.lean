import BuildMonitor.Proofs.Config.Validity
import BuildMonitor.Proofs.Text.LowerCase

/-!
# The levels that a configuration may name

A level is looked up in the lower case of a text, which Unicode defines for letters of all scripts.
None of the five words for a level has a `k`, the one letter that a character outside ASCII becomes,
so what names a level is its word in ASCII letters, small or capital. The checks of a configuration
and the start of the service's own log accept these texts and refuse all others:
`level_checks_agree`.

Main statement: `level_checks_agree`.
-/

namespace BuildMonitor.Config

open Text

variable {config : Config} {text : String} {level : Level}

namespace Level

/-- The words for levels are in small letters. -/
theorem isLower_of_mem_word (level : Level) :
    ∀ letter ∈ level.word.toList, letter.isLower = true := by
  cases level <;> exact List.all_eq_true.mp rfl

/-- No word for a level has a `k`, which a sign of a unit has for its lower case as well. -/
theorem k_notMem_word (level : Level) : 'k' ∉ level.word.toList := by
  cases level <;> decide

/-- A text names a level exactly if it spells its word, in small or capital letters. -/
theorem ofText?_eq_some_iff_spellsWord :
    ofText? text = some level ↔ SpellsWord text level.word := by
  rw [ofText?_eq_some_iff, lower_eq_iff_spellsWord level.isLower_of_mem_word level.k_notMem_word]

/-- A text names some level exactly if it spells one of the words. -/
theorem exists_ofText?_iff_spellsWord :
    (∃ level, ofText? text = some level) ↔ ∃ word ∈ words, SpellsWord text word := by
  constructor
  · rintro ⟨level, named⟩
    exact ⟨level.word, mem_words_iff.mpr ⟨level, rfl⟩, ofText?_eq_some_iff_spellsWord.mp named⟩
  · rintro ⟨word, listed, spells⟩
    obtain ⟨level, rfl⟩ := mem_words_iff.mp listed
    exact ⟨level, ofText?_eq_some_iff_spellsWord.mpr spells⟩

/-- No character outside ASCII helps to name a level. -/
theorem ascii_of_ofText? (named : ofText? text = some level) :
    ∀ character ∈ text.toList, character.toNat < 0x80 := fun character member =>
  (ofText?_eq_some_iff_spellsWord.mp named).ascii level.isLower_of_mem_word character member

end Level

/-- The configuration with another level. -/
def atLevel (config : Config) (text : String) : Config :=
  { config with logging := { config.logging with level := text } }

/-- The level is no part of what else may be wrong. -/
theorem ValidButLevel.atLevel (others : config.ValidButLevel) (text : String) :
    (config.atLevel text).ValidButLevel :=
  ⟨others.script, others.apart, others.least, others.greatest, others.port⟩

/-- Where nothing else is wrong with it, a configuration is valid at just those levels that the
look-up of a level knows. These are the five words, with each letter a small or a capital one of
ASCII, and the level found is the one whose word it is. Every other text is called no level by the
checks, and would be by the service's own log; at a level that the checks let pass that log starts,
unless its file cannot be opened. -/
theorem level_checks_agree (others : config.ValidButLevel) (text : String) :
    let given := config.atLevel text
    (given.validate = .ok () ↔ ∃ level, Level.ofText? text = some level) ∧
    (given.validate = .ok () ↔
      ∃ word ∈ ["trace", "debug", "info", "warn", "error"], SpellsWord text word) ∧
    (∀ level, Level.ofText? text = some level ↔ SpellsWord text level.word) ∧
    (given.validate = .ok () → ∀ character ∈ text.toList, character.toNat < 0x80) ∧
    (given.validate ≠ .ok () → given.validate = .error (.logLevel text)) ∧
    ∀ host,
      (given.validate = .ok () → ∃ level, SpellsWord text level.word ∧
        Cli.startServiceLog given.logging host =
          ((Cli.openServiceLog given.logging host).mapError .file).map (level, ·)) ∧
      (given.validate ≠ .ok () →
        Cli.startServiceLog given.logging host = .error (.unknownLevel text)) := by
  intro given
  have accepted : given.validate = .ok () ↔ ∃ level, Level.ofText? text = some level :=
    validate_eq_ok_iff.trans (and_iff_right (others.atLevel text))
  have refused (invalid : given.validate ≠ .ok ()) : Level.ofText? text = none :=
    Option.eq_none_iff_forall_ne_some.mpr fun level named => invalid (accepted.mpr ⟨level, named⟩)
  refine ⟨accepted, accepted.trans Level.exists_ofText?_iff_spellsWord,
    fun level => Level.ofText?_eq_some_iff_spellsWord, fun valid => ?_, fun invalid => ?_,
    fun host => ⟨fun valid => ?_, fun invalid => ?_⟩⟩
  · obtain ⟨level, named⟩ := accepted.mp valid
    exact Level.ascii_of_ofText? named
  · have checks := (others.atLevel text).validate_eq
    have unknown : Level.ofText? given.logging.level = none := refused invalid
    rwa [unknown] at checks
  · obtain ⟨level, named⟩ := accepted.mp valid
    have known : Level.ofText? given.logging.level = some level := named
    exact ⟨level, Level.ofText?_eq_some_iff_spellsWord.mp named,
      Cli.startServiceLog_of_level known host⟩
  · have unknown : Level.ofText? given.logging.level = none := refused invalid
    exact Cli.startServiceLog_of_none unknown host

/-- With nothing else set, capitals are taken for the letters they are, and a capital I with a dot
for none. -/
theorem capitals_pass_dotted_refused :
    Config.default.ValidButLevel ∧
    (Config.default.atLevel "wArN").validate = .ok () ∧ Level.ofText? "wArN" = some .warn ∧
    (Config.default.atLevel "İNFO").validate = .error (.logLevel "İNFO") ∧
    ∀ host, Cli.startServiceLog (Config.default.atLevel "İNFO").logging host =
      .error (.unknownLevel "İNFO") := by
  have others : Config.default.ValidButLevel := validButLevel_of_validate rfl
  obtain ⟨-, spelled, found, -⟩ := level_checks_agree others "wArN"
  obtain ⟨-, -, -, ascii, refused, log⟩ := level_checks_agree others "İNFO"
  have invalid : (Config.default.atLevel "İNFO").validate ≠ .ok () := fun valid =>
    absurd (ascii valid (Char.ofNat 0x130) (by decide)) (by decide)
  exact ⟨others, spelled.mpr ⟨"warn", by decide, by decide⟩, (found .warn).mpr (by decide),
    refused invalid, fun host => (log host).2 invalid⟩

end BuildMonitor.Config
