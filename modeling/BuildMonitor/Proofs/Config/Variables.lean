import Mathlib.Data.List.Infix
import BuildMonitor.Config.Load
import BuildMonitor.Proofs.Text.Blanks
import BuildMonitor.Proofs.Text.LowerCase
import BuildMonitor.Proofs.Text.Split

/-!
# The names of variables

A variable of the program's own names a section and a field, parted by two underscores. Its name is
turned into a path by putting a dot in place of every two underscores, and no two names give the
same path: `dotted_injective`. So a variable leads to a setting if it has the name made of the names
of the section and the field, in any case, and it never leads to more or less than a field of a
section: `prefixedPath?_eq_some_iff`, `prefixedPath?_of_namesSetting`.

Main definitions: `IsWord`, `NamesSetting`, `lastValue?`.
-/

namespace BuildMonitor.Config

open BuildMonitor.Text

/-! ## Words between underscores -/

/-- Two underscores stand nowhere side by side. -/
def SingleUnderscores (word : List Char) : Prop := ¬ ['_', '_'] <:+: word

/-- A part of the name of a variable: some characters, among them no blank and no dot, as a dot
would part names too, and no two underscores side by side. -/
structure IsWord (word : List Char) : Prop where
  filled : word ≠ []
  plain : ∀ character ∈ word, character ≠ '.' ∧ isBlank character = false
  single : SingleUnderscores word

/-- No character is a dot or a blank. -/
theorem all_plain_iff {word : List Char} :
    word.all (fun character => character != '.' && !isBlank character) = true ↔
      ∀ character ∈ word, character ≠ '.' ∧ isBlank character = false := by
  simp

instance : DecidablePred IsWord := fun word =>
  decidable_of_iff
    (word ≠ [] ∧ word.all (fun character => character != '.' && !isBlank character) = true ∧
      ¬ ['_', '_'] <:+: word)
    ⟨fun ⟨filled, plain, single⟩ => ⟨filled, all_plain_iff.mp plain, single⟩,
      fun ⟨filled, plain, single⟩ => ⟨filled, all_plain_iff.mpr plain, single⟩⟩

/-- The name of a variable as it is compared: without the blanks around it, and in lower case. -/
def comparedName (name : String) : String := lowerAscii (trim name)

/-- The variable is named for a field of a section behind the prefix of the program. -/
def NamesSetting (name : String) : Prop :=
  ∃ section_ field, IsWord section_ ∧ IsWord field ∧
    (comparedName name).toList =
      variablePrefix.toList ++ (section_ ++ '_' :: '_' :: field)

/-- The value of the last variable whose name passes a test, if there is one. -/
def lastWhere? (environment : Environment) (test : String → Bool) : Option String :=
  ((environment.filter fun entry => test entry.1).getLast?).map Prod.snd

/-- The value of the variable with a name, if it is set; were there several, the last would count.
-/
def lastValue? (environment : Environment) (name : String) : Option String :=
  lastWhere? environment fun other => comparedName other = name

section LastWhere

variable {environment : Environment} {test other : String → Bool}

/-- The last variable counts if its name passes, and otherwise those before it. -/
theorem lastWhere?_concat (environment : Environment) (entry : String × String)
    (test : String → Bool) :
    lastWhere? (environment ++ [entry]) test =
      if test entry.1 then some entry.2 else lastWhere? environment test := by
  rw [lastWhere?, List.filter_append]
  by_cases passes : test entry.1 = true
  · simp [passes]
  · simp [passes, lastWhere?]

/-- Tests that agree on the variables that are set choose the same value. -/
theorem lastWhere?_congr (same : ∀ entry ∈ environment, test entry.1 = other entry.1) :
    lastWhere? environment test = lastWhere? environment other := by
  rw [lastWhere?, lastWhere?, List.filter_congr same]

/-- If no name passes there is no value. -/
theorem lastWhere?_eq_none (fails : ∀ entry ∈ environment, test entry.1 = false) :
    lastWhere? environment test = none := by
  have none : (environment.filter fun entry => test entry.1) = [] :=
    List.filter_eq_nil_iff.mpr fun entry found => Bool.eq_false_iff.mp (fails entry found)
  rw [lastWhere?, none]
  rfl

end LastWhere

/-! ## Dots in place of underscores -/

variable {word rest first second : List Char} {name key : String}

/-- The rest of a word has no two underscores side by side either. -/
theorem SingleUnderscores.of_cons {character : Char}
    (single : SingleUnderscores (character :: rest)) : SingleUnderscores rest :=
  fun twice => single (twice.trans (List.infix_cons (List.infix_refl rest)))

/-- In front of a word with single underscores a character stays what it is. -/
theorem dotted_cons {character : Char} (single : SingleUnderscores (character :: rest)) :
    dotted (character :: rest) = character :: dotted rest := by
  refine dotted.eq_2 character rest ?_
  rintro later rfl rfl
  exact single ⟨[], later, rfl⟩

/-- A word with single underscores has no dot put into it. -/
theorem dotted_eq_self (single : SingleUnderscores word) : dotted word = word := by
  induction word with
  | nil => rfl
  | cons character rest inductionHypothesis =>
    rw [dotted_cons single, inductionHypothesis single.of_cons]

/-- What follows a word that does not end in an underscore is dotted by itself. -/
theorem dotted_append (single : SingleUnderscores word) (final : word.getLast? ≠ some '_') :
    dotted (word ++ rest) = word ++ dotted rest := by
  induction word with
  | nil => rfl
  | cons character later inductionHypothesis =>
    have goesOn : dotted (character :: (later ++ rest)) = character :: dotted (later ++ rest) := by
      refine dotted.eq_2 character _ ?_
      rintro behind rfl twice
      cases later with
      | nil => exact final rfl
      | cons next others =>
        obtain rfl : next = '_' := (List.cons.inj twice).1
        exact single ⟨[], others, rfl⟩
    rw [List.cons_append, goesOn]
    cases later with
    | nil => rfl
    | cons next others =>
      rw [List.getLast?_cons_cons] at final
      exact congrArg _ (inductionHypothesis single.of_cons final)

/-- Texts without dots are told apart by what becomes of them. -/
theorem dotted_injective (plain : '.' ∉ first) (plain' : '.' ∉ second)
    (same : dotted first = dotted second) : first = second := by
  fun_induction dotted first generalizing second with
  | case1 rest inductionHypothesis =>
    -- Only two underscores become a dot.
    fun_cases dotted second with
    | case1 rest' =>
      rw [dotted] at same
      simp only [List.mem_cons, not_or] at plain plain'
      rw [inductionHypothesis plain.2.2 plain'.2.2 (List.cons.inj same).2]
    | case2 character rest' goesOn =>
      rw [dotted.eq_2 _ _ goesOn] at same
      exact absurd (List.cons.inj same).1 fun dot => plain' (dot ▸ List.mem_cons_self)
    | case3 => cases same
  | case2 character rest goesOn inductionHypothesis =>
    fun_cases dotted second with
    | case1 rest' =>
      rw [dotted] at same
      exact absurd (List.cons.inj same).1.symm fun dot => plain (dot ▸ List.mem_cons_self)
    | case2 character' rest' goesOn' =>
      rw [dotted.eq_2 _ _ goesOn'] at same
      obtain ⟨rfl, sameRest⟩ := List.cons.inj same
      rw [List.mem_cons, not_or] at plain plain'
      rw [inductionHypothesis plain.2 plain'.2 sameRest]
    | case3 => cases same
  | case3 =>
    fun_cases dotted second with
    | case1 => cases same
    | case2 _ _ goesOn => rw [dotted.eq_2 _ _ goesOn] at same; cases same
    | case3 => rfl

/-- A word has no dot. -/
theorem IsWord.noDot (isWord : IsWord word) : '.' ∉ word :=
  fun found => (isWord.plain '.' found).1 rfl

/-- A word, two underscores and a word are cut into two pieces, or into pieces of which one is
empty. -/
theorem splitOn_dotted_words {section_ field : List Char} (isSection : IsWord section_)
    (isField : IsWord field) :
    [] ∈ splitOn (· == '.') (dotted (section_ ++ '_' :: '_' :: field)) ∨
      ∃ one other,
        splitOn (· == '.') (dotted (section_ ++ '_' :: '_' :: field)) = [one, other] := by
  by_cases ends : section_.getLast? = some '_'
  · -- The first two underscores of the three are those that become the dot.
    obtain ⟨before, rfl⟩ := List.getLast?_eq_some_iff.mp ends
    have single : SingleUnderscores before := fun twice =>
      isSection.single (twice.trans (List.infix_append [] before ['_']))
    have final : before.getLast? ≠ some '_' := by
      intro twice
      obtain ⟨earlier, rfl⟩ := List.getLast?_eq_some_iff.mp twice
      exact isSection.single ⟨earlier, [], by simp⟩
    have noDot : '.' ∉ before := fun found => isSection.noDot (List.mem_append_left _ found)
    rw [List.append_assoc, List.singleton_append, dotted_append single final, dotted,
      splitOn_append_cons noDot]
    cases field with
    | nil => exact absurd rfl isField.filled
    | cons first others =>
      by_cases underscore : first = '_'
      · subst underscore
        refine Or.inl (List.mem_cons_of_mem _ ?_)
        rw [dotted, splitOn, if_pos (beq_self_eq_true '.')]
        exact List.mem_cons_self
      · have kept : dotted ('_' :: first :: others) = '_' :: first :: others := by
          rw [dotted.eq_2 _ _ fun _ _ same => underscore (List.cons.inj same).1,
            dotted_eq_self isField.single]
        have noDot : '.' ∉ '_' :: first :: others := by
          rw [List.mem_cons, not_or]
          exact ⟨by decide, isField.noDot⟩
        rw [kept, splitOn_eq_singleton noDot]
        exact Or.inr ⟨_, _, rfl⟩
  · rw [dotted_append isSection.single ends, dotted, dotted_eq_self isField.single,
      splitOn_append_cons isSection.noDot, splitOn_eq_singleton isField.noDot]
    exact Or.inr ⟨_, _, rfl⟩

/-! ## Paths -/

/-- The path that a variable of the program's own leads to. -/
def prefixedPath? (name : String) : Option (List String) := (prefixedKey? (trim name)).bind keyPath?

/-- The path that a variable for a directory leads to. -/
def directoryPath? (name : String) : Option (List String) :=
  (directoryKey? (trim name)).bind keyPath?

/-- The path that the variable for the port leads to. -/
def portPath? (name : String) : Option (List String) := (portKey? (trim name)).bind keyPath?

/-- A key in lower case and without blanks is cut at its dots. -/
theorem keyPath?_ofList {key : List Char}
    (plain : ∀ character ∈ key, isBlank character = false ∧ character.toLower = character) :
    keyPath? (String.ofList key) =
      if [] ∈ splitOn (· == '.') key then none
      else some ((splitOn (· == '.') key).map String.ofList) := by
  have lowered : lowerAscii (trim (String.ofList key)) = String.ofList key := by
    rw [trim, String.toList_ofList, trimBlanks_eq_self fun character found =>
      (plain character found).1, lowerAscii, String.toList_ofList]
    exact congrArg _ ((List.map_congr_left fun character found => (plain character found).2).trans
      (List.map_id key))
  rw [keyPath?, lowered, splitText, String.toList_ofList]
  have some_empty : ((splitOn (· == '.') key).map String.ofList).any (· == "") = true ↔
      [] ∈ splitOn (· == '.') key := by
    simp [List.any_map, Function.comp_def]
  by_cases empty : [] ∈ splitOn (· == '.') key
  · rw [if_pos empty]
    exact if_pos (some_empty.mpr empty)
  · rw [if_neg empty]
    exact if_neg fun found => empty (some_empty.mp found)

/-- Nothing but dots is put into a name. -/
theorem mem_dotted {character : Char} (found : character ∈ dotted word) :
    character = '.' ∨ character ∈ word := by
  fun_induction dotted word with
  | case1 rest inductionHypothesis =>
    rcases List.mem_cons.mp found with dot | found
    · exact Or.inl dot
    · exact (inductionHypothesis found).imp_right fun later =>
        List.mem_cons_of_mem _ (List.mem_cons_of_mem _ later)
  | case2 first rest _ inductionHypothesis =>
    rcases List.mem_cons.mp found with same | found
    · exact Or.inr (same ▸ List.mem_cons_self)
    · exact (inductionHypothesis found).imp_right (List.mem_cons_of_mem _)
  | case3 => cases found

/-- Behind the prefix the name of a variable is dotted and cut. -/
private theorem prefixedPath?_eq {rest : List Char}
    (named : (comparedName name).toList = variablePrefix.toList ++ rest)
    (solid : ∀ character ∈ rest, isBlank character = false) :
    prefixedPath? name =
      if [] ∈ splitOn (· == '.') (dotted rest) then none
      else some ((splitOn (· == '.') (dotted rest)).map String.ofList) := by
  have key : prefixedKey? (trim name) = some (String.ofList (dotted rest)) := by
    rw [prefixedKey?, ← comparedName, named]
    simp only [List.isPrefixOf_iff_prefix]
    rw [if_pos (List.prefix_append _ _), ← String.length_toList, List.drop_left]
  have lowered : ∀ character ∈ rest, character.toLower = character := by
    intro character found
    have inName : character ∈ (comparedName name).toList := named ▸ List.mem_append_right _ found
    rw [comparedName, lowerAscii, String.toList_ofList] at inName
    obtain ⟨upper, -, rfl⟩ := List.mem_map.mp inName
    exact toLower_toLower upper
  rw [prefixedPath?, key, Option.bind_some, keyPath?_ofList]
  intro character found
  rcases mem_dotted found with rfl | found
  · decide
  · exact ⟨solid character found, lowered character found⟩

/-- Where the prefix is missing there is no path. -/
theorem prefixedPath?_eq_none
    (other : ¬ variablePrefix.toList <+: (comparedName name).toList) :
    prefixedPath? name = none := by
  have noKey : prefixedKey? (trim name) = none := by
    rw [prefixedKey?, ← comparedName]
    simp only [List.isPrefixOf_iff_prefix]
    rw [if_neg other]
  rw [prefixedPath?, noKey, Option.bind_none]

private theorem solid_of_words {section_ field : List Char} (isSection : IsWord section_)
    (isField : IsWord field) :
    ∀ character ∈ section_ ++ '_' :: '_' :: field, isBlank character = false := by
  intro character found
  simp only [List.mem_append, List.mem_cons] at found
  rcases found with found | rfl | rfl | found
  · exact (isSection.plain character found).2
  · decide
  · decide
  · exact (isField.plain character found).2

/-- A variable that is named for a field of a section leads to a field of a section, or nowhere. -/
theorem prefixedPath?_of_namesSetting (formed : NamesSetting name) :
    prefixedPath? name = none ∨ ∃ one other, prefixedPath? name = some [one, other] := by
  obtain ⟨section_, field, isSection, isField, named⟩ := formed
  rw [prefixedPath?_eq named (solid_of_words isSection isField)]
  rcases splitOn_dotted_words isSection isField with empty | ⟨one, other, cut⟩
  · exact Or.inl (if_pos empty)
  · rw [cut]
    split
    · exact Or.inl rfl
    · exact Or.inr ⟨_, _, rfl⟩

/-- What the names of sections and fields are like: words, those of sections without an underscore
at the end. -/
structure AreNames (section_ field : String) : Prop where
  isSection : IsWord section_.toList
  isField : IsWord field.toList
  final : section_.toList.getLast? ≠ some '_'

instance (section_ field : String) : Decidable (AreNames section_ field) :=
  decidable_of_iff
    (IsWord section_.toList ∧ IsWord field.toList ∧ section_.toList.getLast? ≠ some '_')
    ⟨fun ⟨isSection, isField, final⟩ => ⟨isSection, isField, final⟩,
      fun ⟨isSection, isField, final⟩ => ⟨isSection, isField, final⟩⟩

/-- A variable leads to a field if it has the name made of the names of the section and the
field. -/
theorem prefixedPath?_eq_some_iff {section_ field : String} (areNames : AreNames section_ field)
    (formed : variablePrefix.toList <+: (comparedName name).toList → NamesSetting name) :
    prefixedPath? name = some [section_, field] ↔
      comparedName name = variablePrefix ++ section_ ++ "__" ++ field := by
  obtain ⟨isSection, isField, final⟩ := areNames
  have spelled : comparedName name = variablePrefix ++ section_ ++ "__" ++ field ↔
      (comparedName name).toList =
        variablePrefix.toList ++ (section_.toList ++ '_' :: '_' :: field.toList) := by
    rw [← String.toList_inj]
    simp
  have dots : dotted (section_.toList ++ '_' :: '_' :: field.toList) =
      section_.toList ++ '.' :: field.toList := by
    rw [dotted_append isSection.single final, dotted, dotted_eq_self isField.single]
  have noDot : ∀ {section_ field : List Char}, IsWord section_ → IsWord field →
      '.' ∉ section_ ++ '_' :: '_' :: field := by
    intro section_ field isSection isField
    simp [isSection.noDot, isField.noDot]
  rw [spelled]
  constructor
  · intro leads
    by_cases own : variablePrefix.toList <+: (comparedName name).toList
    · obtain ⟨section', field', isSection', isField', named⟩ := formed own
      rw [prefixedPath?_eq named (solid_of_words isSection' isField')] at leads
      split at leads
      · cases leads
      have cut : splitOn (· == '.') (dotted (section' ++ '_' :: '_' :: field')) =
          [section_.toList, field.toList] := by
        have texts := congrArg (List.map String.toList) (Option.some.inj leads)
        simpa [Function.comp_def] using texts
      have joined := joinWith_splitOn '.' (dotted (section' ++ '_' :: '_' :: field'))
      rw [cut] at joined
      have same :
          section_.toList ++ '_' :: '_' :: field.toList = section' ++ '_' :: '_' :: field' :=
        dotted_injective (noDot isSection isField) (noDot isSection' isField') (by
          rw [dots, ← joined]
          simp [joinWith])
      rw [named, same]
    · rw [prefixedPath?_eq_none own] at leads
      cases leads
  · intro named
    have notEmpty : [] ∉ [section_.toList, field.toList] := by
      simp only [List.mem_cons, List.not_mem_nil, or_false, not_or]
      exact ⟨isSection.filled.symm, isField.filled.symm⟩
    rw [prefixedPath?_eq named (solid_of_words isSection isField), dots,
      splitOn_append_cons isSection.noDot, splitOn_eq_singleton isField.noDot, if_neg notEmpty]
    simp

/-! ## Variables with a name of their own -/

/-- The variables for directories are named like the two fields, blanks around them and the case of
letters apart. -/
theorem directoryPath?_eq (name : String) :
    directoryPath? name =
      if comparedName name = "output_dir" ∨ comparedName name = "cache_dir" then
        some ["artifacts", comparedName name]
      else none := by
  rw [directoryPath?, directoryKey?, ← comparedName]
  split
  · next own =>
    have outputPath : keyPath? "artifacts.output_dir" = some ["artifacts", "output_dir"] := by
      decide
    have cachePath : keyPath? "artifacts.cache_dir" = some ["artifacts", "cache_dir"] := by decide
    rcases own with output | cache
    · rw [output]
      exact outputPath
    · rw [cache]
      exact cachePath
  · rfl

/-- The variable for the port is named like the field, blanks around it and the case of letters
apart. -/
theorem portPath?_eq (name : String) :
    portPath? name =
      if comparedName name = "port" then some ["server", comparedName name] else none := by
  rw [portPath?, portKey?, ← comparedName]
  split
  · next own =>
    have path : keyPath? "server.port" = some ["server", "port"] := by decide
    rw [own]
    exact path
  · rfl

variable {section_ one other compared : String}

/-- A variable with a name of its own leads to the field of that name, in a section. -/
theorem path_eq_some_iff (own : String → Prop) [DecidablePred own] :
    (if own compared then some [section_, compared] else none) = some [one, other] ↔
      (one = section_ ∧ own other) ∧ compared = other := by
  split
  · next isOwn =>
    simp only [Option.some.injEq, List.cons.injEq, and_true]
    constructor
    · rintro ⟨rfl, rfl⟩
      exact ⟨⟨rfl, isOwn⟩, rfl⟩
    · rintro ⟨⟨rfl, -⟩, rfl⟩
      exact ⟨rfl, rfl⟩
  · next different =>
    refine iff_of_false nofun ?_
    rintro ⟨⟨-, isOwn⟩, rfl⟩
    exact different isOwn

/-- A variable with one place to lead to leads there, or nowhere. -/
theorem none_or_exists_path {own : Prop} [Decidable own] :
    (if own then some [section_, compared] else none) = none ∨
      ∃ one other, (if own then some [section_, compared] else none) = some [one, other] := by
  split
  · exact Or.inr ⟨_, _, rfl⟩
  · exact Or.inl rfl

/-- A variable leads to a directory exactly if it is named like the field. -/
theorem directoryPath?_eq_some_iff :
    directoryPath? name = some [one, other] ↔
      (one = "artifacts" ∧ (other = "output_dir" ∨ other = "cache_dir")) ∧
        comparedName name = other := by
  rw [directoryPath?_eq]
  exact path_eq_some_iff fun name => name = "output_dir" ∨ name = "cache_dir"

/-- A variable leads to the port exactly if it is named like the field. -/
theorem portPath?_eq_some_iff :
    portPath? name = some [one, other] ↔
      (one = "server" ∧ other = "port") ∧ comparedName name = other := by
  rw [portPath?_eq]
  exact path_eq_some_iff (· = "port")

end BuildMonitor.Config
