import BuildMonitor.Proofs.Host.Spelling

/-!
# The parent of a path

The parent of a path is spelled as the path is, without its last name and what stands around it:
dots, and slashes that are repeated. What it means does not depend on the spelling. It has the front
of the path, and all names but the last: `parent?_eq`. So the parent of the absolute form of a path
has the components of the absolute form of its parent: `exists_parent_absolute`.
-/

namespace BuildMonitor.Host.Path

open Text

variable {path first final current whole : String} {rest reversed before : List String}

/-! ## Pieces that are no components -/

/-- Dropping what is no component leaves the components. -/
theorem filter_dropInsignificant (reversed : List String) :
    (dropInsignificant reversed).filter isSignificant = reversed.filter isSignificant := by
  induction reversed with
  | nil => rfl
  | cons piece rest inductionHypothesis =>
    rw [dropInsignificant] at inductionHypothesis ⊢
    cases significant : isSignificant piece with
    | true => rw [List.dropWhile_cons_of_neg (by simp [significant])]
    | false =>
      rw [List.dropWhile_cons_of_pos (by simp [significant]), inductionHypothesis,
        List.filter_cons_of_neg (by simp [significant])]

/-- Where there is something left, it starts with a component. -/
theorem dropInsignificant_eq_cons (dropped : dropInsignificant reversed = final :: before) :
    isSignificant final = true ∧
      reversed.reverse.filter isSignificant = before.reverse.filter isSignificant ++ [final] := by
  have significant : isSignificant final = true := by
    have head := List.head?_dropWhile_not (fun piece => !isSignificant piece) reversed
    rw [← dropInsignificant, dropped] at head
    simpa using head
  refine ⟨significant, ?_⟩
  have kept := filter_dropInsignificant reversed
  rw [dropped, List.filter_cons_of_pos significant] at kept
  rw [List.filter_reverse, List.filter_reverse, ← kept, List.reverse_cons]

/-- Where everything is dropped there is no component. -/
theorem dropInsignificant_eq_nil (dropped : dropInsignificant reversed = []) :
    reversed.reverse.filter isSignificant = [] := by
  rw [List.filter_reverse, ← filter_dropInsignificant, dropped]
  rfl

/-- What is left behind the last component is made of pieces before it. -/
theorem mem_of_mem_dropInsignificant {piece : String}
    (dropped : dropInsignificant rest.reverse = final :: before)
    (kept : piece ∈ dropInsignificant before) : piece ∈ rest := by
  have behind : piece ∈ final :: before :=
    List.mem_cons_of_mem final ((List.dropWhile_suffix _).subset kept)
  rw [← dropped] at behind
  exact List.mem_reverse.mp ((List.dropWhile_suffix _).subset behind)

/-! ## The front and the first piece -/

/-- A path is absolute if there is a slash with nothing before it. -/
theorem isAbsolute_iff_pieces (cut : pieces path = first :: rest) :
    isAbsolute path = true ↔ first = "" ∧ rest ≠ [] := by
  rw [pieces, splitText] at cut
  unfold isAbsolute
  cases characters : path.toList with
  | nil =>
    rw [characters] at cut
    obtain ⟨-, rfl⟩ := List.cons.inj cut
    simp
  | cons character others =>
    rw [characters, splitOn] at cut
    by_cases slash : character = '/'
    · rw [slash, beq_self_eq_true, if_pos rfl, List.map_cons] at cut
      obtain ⟨rfl, rfl⟩ := List.cons.inj cut
      simp [slash, splitOn_ne_nil]
    · refine iff_of_false ?_ fun absolute => ?_
      · split
        · next same => exact absurd (List.cons.inj same).1 slash
        · exact Bool.false_ne_true
      · rw [if_neg (by simpa using slash)] at cut
        split at cut
        all_goals
          obtain ⟨rfl, -⟩ := List.cons.inj cut
          simp at absolute

/-- Paths with the same front are absolute or relative together. -/
theorem isAbsolute_congr {other : String} (alike : front other = front path) :
    isAbsolute other = isAbsolute path := by
  rw [Bool.eq_iff_iff, isAbsolute_iff_front, isAbsolute_iff_front, alike]

/-- The front of a path is read off its first piece. -/
theorem front_eq (cut : pieces path = first :: rest) :
    front path =
      if first = "" ∧ rest ≠ [] then [.root] else if first = "." then [.current] else [] := by
  have dot : (pieces path).head? = some "." ↔ first = "." := by simp [cut]
  simp only [front, isAbsolute_iff_pieces cut, dot]

/-! ## The parent -/

/-- A path that is one name has nothing in front of it. -/
theorem parent?_of_alone (cut : pieces path = first :: rest)
    (dropped : dropInsignificant rest.reverse = []) (significant : isSignificant first = true) :
    parent? path = some "" := by
  have some : first ≠ "" := by
    rintro rfl
    cases significant
  have relative : isAbsolute path = false :=
    Bool.eq_false_iff.mpr fun absolute => some ((isAbsolute_iff_pieces cut).mp absolute).1
  simp [parent?, cut, dropped, relative, some]

/-- A path with one component behind its first piece lies in that piece, or in the root. -/
theorem parent?_of_first (cut : pieces path = first :: rest)
    (dropped : dropInsignificant rest.reverse = final :: before)
    (left : dropInsignificant before = []) :
    parent? path = some (if first = "" then "/" else first) := by
  have more : rest ≠ [] := by
    rintro rfl
    cases dropped
  have absolute_iff : isAbsolute path = true ↔ first = "" := by
    simpa [more] using isAbsolute_iff_pieces cut
  by_cases isRoot : first = ""
  · simp [parent?, cut, dropped, left, absolute_iff.mpr isRoot, isRoot]
  · have relative : isAbsolute path = false := Bool.eq_false_iff.mpr (mt absolute_iff.mp isRoot)
    have stays : (first == "." || isSignificant first) = true := by
      by_cases isDot : first = "." <;> simp [isSignificant, isRoot, isDot]
    simp only [parent?, cut, dropped, left, relative, Bool.false_or, stays, if_neg isRoot,
      Bool.false_eq_true, if_false, if_true]

/-- Where a component is left before the last one, the parent is the path up to it. -/
theorem parent?_of_kept {last : String} {kept : List String} (cut : pieces path = first :: rest)
    (dropped : dropInsignificant rest.reverse = final :: before)
    (left : dropInsignificant before = last :: kept) :
    parent? path = some (joinTexts "/" (first :: (last :: kept).reverse)) := by
  simp only [parent?, cut, dropped, left]

/-- The parent of a path with a name has the front of the path, and all names but the last. -/
theorem parent?_eq (named : names path = before ++ [final]) :
    ∃ parent, parent? path = some parent ∧ front parent = front path ∧ names parent = before := by
  obtain ⟨first, rest, cut⟩ := List.exists_cons_of_ne_nil (Files.pieces_ne_nil path)
  have solid : ∀ piece ∈ first :: rest, '/' ∉ piece.toList := fun piece found =>
    solid_of_mem_pieces (cut ▸ found)
  rw [names, cut, ← List.singleton_append, List.filter_append] at named
  rw [front_eq cut]
  cases dropped : dropInsignificant rest.reverse with
  | nil =>
    -- The first piece is the name, so the path is relative.
    have none := dropInsignificant_eq_nil dropped
    rw [List.reverse_reverse] at none
    rw [none, List.append_nil] at named
    have significant : isSignificant first = true := by
      cases plain : isSignificant first with
      | true => rfl
      | false => simp [plain] at named
    rw [List.filter_cons_of_pos significant] at named
    obtain ⟨rfl, -⟩ := List.append_inj' ((List.nil_append [first]).trans named) rfl
    obtain ⟨some, notDot⟩ : first ≠ "" ∧ first ≠ "." := by simpa [isSignificant] using significant
    refine ⟨"", parent?_of_alone cut dropped significant, ?_, names_empty⟩
    rw [if_neg fun absolute => some absolute.1, if_neg notDot]
    decide
  | cons found rest' =>
    obtain ⟨-, behind⟩ := dropInsignificant_eq_cons dropped
    rw [List.reverse_reverse] at behind
    rw [behind, ← List.append_assoc] at named
    obtain ⟨rfl, -⟩ := List.append_inj' named rfl
    have more : rest ≠ [] := by
      rintro rfl
      cases dropped
    cases left : dropInsignificant rest' with
    | nil =>
      -- The first piece may be a name, the dot of a relative path or the start of an absolute one.
      rw [dropInsignificant_eq_nil left, List.append_nil]
      refine ⟨_, parent?_of_first cut dropped left, ?_⟩
      by_cases isRoot : first = ""
      · rw [if_pos isRoot, if_pos ⟨isRoot, more⟩, isRoot]
        decide
      · have alone : pieces first = [first] := pieces_of_solid (solid first List.mem_cons_self)
        rw [if_neg isRoot, front_eq alone, names, alone]
        simp [isRoot]
    | cons last kept =>
      have solid' : ∀ piece ∈ first :: (last :: kept).reverse, '/' ∉ piece.toList := by
        intro piece held
        rcases List.mem_cons.mp held with rfl | held
        · exact solid piece List.mem_cons_self
        · rw [List.mem_reverse, ← left] at held
          exact solid piece (List.mem_cons_of_mem _ (mem_of_mem_dropInsignificant dropped held))
      have spelled := pieces_joinTexts (List.cons_ne_nil _ _) solid'
      refine ⟨_, parent?_of_kept cut dropped left, ?_, ?_⟩
      · rw [front_eq spelled]
        simp [more]
      · rw [names, spelled, ← List.singleton_append, List.filter_append, List.filter_reverse,
          ← left, filter_dropInsignificant, ← List.filter_reverse]

/-! ## Absolute forms -/

/-- An absolute path is the root and its names. -/
theorem components_of_isAbsolute (absolute : isAbsolute path = true) :
    components path = .root :: (names path).map componentOf := by
  rw [components_eq, isAbsolute_iff_front.mp absolute]
  rfl

/-- The absolute form of a path has the components of the path behind the working directory. -/
theorem components_absolute (rooted : isAbsolute current = true)
    (made : absolute current path = .ok whole) :
    components whole = components (join current path) := by
  obtain ⟨wholeRooted, named⟩ := names_absolute_of_rooted rooted made
  rw [components_of_isAbsolute wholeRooted, named]
  cases absolute : isAbsolute path with
  | true =>
    rw [join, absolute, if_pos rfl, if_pos rfl, components_of_isAbsolute absolute]
    rfl
  | false =>
    have stays := isAbsolute_join (ne_empty_of_isAbsolute rooted) absolute
    rw [components_of_isAbsolute (stays.trans rooted), names_join absolute]
    rfl

/-- A last component that is a name is the last name. -/
theorem names_eq_concat (ends : (components path).getLast? = some (.name final)) :
    ∃ before, names path = before ++ [final] := by
  rw [components_eq] at ends
  obtain none | ⟨before, last, named⟩ := (names path).eq_nil_or_concat
  · rw [none, List.map_nil, List.append_nil] at ends
    unfold front at ends
    split at ends
    · cases ends
    split at ends <;> cases ends
  · rw [List.concat_eq_append] at named
    rw [named, List.map_append, ← List.append_assoc, List.map_singleton,
      List.getLast?_concat] at ends
    have same : last = final := by
      rw [← text_componentOf last, Option.some.inj ends]
      rfl
    exact ⟨before, same ▸ named⟩

/-- The parent of the absolute form of a path has the components of the absolute form of the parent.
A path of one name lies in the working directory. -/
theorem exists_parent_absolute (rooted : isAbsolute current = true)
    (ends : (components path).getLast? = some (.name final))
    (made : absolute current path = .ok whole) :
    ∃ parent above, parent? path = some parent ∧ parent? whole = some above ∧
      ∀ directory, absolute current (if parent = "" then "." else parent) = .ok directory →
        isAbsolute directory = true ∧ components directory = components above := by
  obtain ⟨before, named⟩ := names_eq_concat ends
  obtain ⟨parent, lies, sameFront, parentNamed⟩ := parent?_eq named
  obtain ⟨wholeRooted, wholeNamed⟩ := names_absolute_of_rooted rooted made
  rw [named, ← List.append_assoc] at wholeNamed
  obtain ⟨above, lies', sameFront', aboveNamed⟩ := parent?_eq wholeNamed
  refine ⟨parent, above, lies, lies', fun directory made' => ?_⟩
  obtain ⟨stays, directoryNamed⟩ := names_absolute_of_rooted rooted made'
  have aboveRooted : isAbsolute above = true :=
    isAbsolute_iff_front.mpr (sameFront'.trans (isAbsolute_iff_front.mp wholeRooted))
  have alike : isAbsolute (if parent = "" then "." else parent) = isAbsolute path ∧
      names (if parent = "" then "." else parent) = before := by
    rw [← isAbsolute_congr sameFront, ← parentNamed]
    split
    · next none =>
      rw [none]
      decide
    · exact ⟨rfl, rfl⟩
  rw [alike.1, alike.2] at directoryNamed
  refine ⟨stays, ?_⟩
  rw [components_of_isAbsolute stays, components_of_isAbsolute aboveRooted, directoryNamed,
    aboveNamed]

end BuildMonitor.Host.Path
