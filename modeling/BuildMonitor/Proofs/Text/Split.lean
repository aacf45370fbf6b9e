import BuildMonitor.Text.Split

/-!
# Cutting at separators

Cutting leaves a piece at least, a separator at the end leaves an empty last piece, and the pieces
joined are what was cut. What is joined is cut into its pieces again, if they hold no separator.
-/

namespace BuildMonitor.Text

variable {α : Type} {isSeparator : α → Bool}

/-- There is always a piece, be it an empty one. -/
theorem splitOn_ne_nil (elements : List α) : splitOn isSeparator elements ≠ [] := by
  cases elements with
  | nil => simp [splitOn]
  | cons element rest =>
    rw [splitOn]
    split
    · simp
    · split <;> simp

/-- What is before a separator and what is behind it are cut for themselves. -/
theorem splitOn_append {separator : α} (separates : isSeparator separator) (before behind : List α) :
    splitOn isSeparator (before ++ separator :: behind) =
      splitOn isSeparator before ++ splitOn isSeparator behind := by
  induction before with
  | nil => simp [splitOn, separates]
  | cons element rest inductionHypothesis =>
    simp only [List.cons_append, splitOn, inductionHypothesis]
    split
    · rfl
    · cases cut : splitOn isSeparator rest with
      | nil => exact absurd cut (splitOn_ne_nil rest)
      | cons piece others => rfl

/-- A separator at the end leaves an empty piece behind it. -/
theorem splitOn_concat {separator : α} (separates : isSeparator separator) (elements : List α) :
    splitOn isSeparator (elements ++ [separator]) = splitOn isSeparator elements ++ [[]] :=
  splitOn_append separates elements []

/-- No piece holds a separator. -/
theorem isSeparator_eq_false_of_mem_splitOn {piece elements : List α} {element : α}
    (isPiece : piece ∈ splitOn isSeparator elements) (found : element ∈ piece) :
    isSeparator element = false := by
  induction elements generalizing piece with
  | nil =>
    rw [splitOn, List.mem_singleton] at isPiece
    subst isPiece
    cases found
  | cons first rest inductionHypothesis =>
    rw [splitOn] at isPiece
    split at isPiece
    · rcases List.mem_cons.mp isPiece with rfl | isPiece
      · cases found
      · exact inductionHypothesis isPiece found
    · next plain =>
      cases cut : splitOn isSeparator rest with
      | nil => exact absurd cut (splitOn_ne_nil rest)
      | cons head others =>
        rw [cut] at isPiece inductionHypothesis
        rcases List.mem_cons.mp isPiece with rfl | isPiece
        · rcases List.mem_cons.mp found with rfl | found
          · exact Bool.eq_false_iff.mpr plain
          · exact inductionHypothesis List.mem_cons_self found
        · exact inductionHypothesis (List.mem_cons_of_mem _ isPiece) found

/-- What holds no separator is one piece. -/
theorem splitOn_eq_singleton [BEq α] [LawfulBEq α] {separator : α} {elements : List α}
    (absent : separator ∉ elements) : splitOn (· == separator) elements = [elements] := by
  induction elements with
  | nil => rfl
  | cons element rest inductionHypothesis =>
    obtain ⟨different, absent⟩ := not_or.mp (mt List.mem_cons.mpr absent)
    rw [splitOn, beq_eq_false_iff_ne.mpr (Ne.symm different), inductionHypothesis absent]
    rfl

/-- The first piece ends at the first separator. -/
theorem splitOn_append_cons [BEq α] [LawfulBEq α] {separator : α} {piece : List α}
    (absent : separator ∉ piece) (rest : List α) :
    splitOn (· == separator) (piece ++ separator :: rest) =
      piece :: splitOn (· == separator) rest := by
  have cut : splitOn (· == separator) (piece ++ separator :: rest) =
      splitOn (· == separator) piece ++ splitOn (· == separator) rest :=
    @splitOn_append α (· == separator) separator (beq_self_eq_true separator) piece rest
  rwa [splitOn_eq_singleton absent] at cut

/-- The pieces joined are what was cut. -/
theorem joinWith_splitOn [BEq α] [LawfulBEq α] (separator : α) (elements : List α) :
    joinWith [separator] (splitOn (· == separator) elements) = elements := by
  induction elements with
  | nil => rfl
  | cons element rest inductionHypothesis =>
    cases cut : splitOn (· == separator) rest with
    | nil => exact absurd cut (splitOn_ne_nil rest)
    | cons piece others =>
      rw [cut] at inductionHypothesis
      by_cases same : element = separator
      · simp [splitOn, same, cut, joinWith, inductionHypothesis]
      · cases others with
        | nil => simpa [splitOn, same, cut, joinWith] using inductionHypothesis
        | cons next others => simpa [splitOn, same, cut, joinWith] using inductionHypothesis

/-- What is joined from pieces without a separator is cut into them again. -/
theorem splitOn_joinWith [BEq α] [LawfulBEq α] {separator : α} {pieces : List (List α)}
    (some : pieces ≠ []) (solid : ∀ piece ∈ pieces, separator ∉ piece) :
    splitOn (· == separator) (joinWith [separator] pieces) = pieces := by
  induction pieces with
  | nil => exact absurd rfl some
  | cons piece rest inductionHypothesis =>
    obtain ⟨absent, restSolid⟩ := List.forall_mem_cons.mp solid
    cases rest with
    | nil => exact splitOn_eq_singleton absent
    | cons next others =>
      rw [joinWith, List.append_assoc, List.singleton_append, splitOn_append_cons absent,
        inductionHypothesis (List.cons_ne_nil _ _) restSolid]
      exact List.cons_ne_nil _ _

/-- What is cut at a character has none of it in front. -/
theorem cutAtFirst_append {separator : Char} {before : List Char} (absent : separator ∉ before)
    (behind : List Char) :
    cutAtFirst separator (before ++ separator :: behind) = (before, some behind) := by
  have passed : ∀ character ∈ before, (character != separator) = true := fun character found =>
    bne_iff_ne.mpr fun same => absent (same ▸ found)
  rw [cutAtFirst, List.takeWhile_append_of_pos passed, List.dropWhile_append_of_pos passed]
  simp

/-- A text joined from texts without a separator is cut into them again. -/
theorem splitText_joinTexts {separator : Char} {texts : List String} (some : texts ≠ [])
    (solid : ∀ text ∈ texts, separator ∉ text.toList) :
    splitText separator (joinTexts (String.ofList [separator]) texts) = texts := by
  have solid' : ∀ piece ∈ texts.map String.toList, separator ∉ piece := by
    simpa using solid
  rw [splitText, joinTexts, String.toList_ofList, String.toList_ofList,
    splitOn_joinWith (by simpa using some) solid']
  simp [Function.comp_def]

end BuildMonitor.Text
