import BuildMonitor.Proofs.Host.Apart

/-!
# Places that paths spell

A path spells a place: the names that are in it, behind the working directory if it is relative.
Dots and repeated slashes make no difference to the place, but a dot in front of a relative path is a
component of it. So two paths may have different components and spell one place. They do not if they
have the same front: `placeOf_ne_of_front_eq`.

The absolute forms of two paths are the same if the paths spell one place: `same_absolute_iff`.
Where no links are in the way, and no two dots in the path, the place that a path spells is the only
one it leads to: `LeadsTo.eq_placeOf`.

Main definitions: `Path.names`, `Path.placeOf`, `Path.front`.
-/

namespace BuildMonitor.Host

open Files Text

namespace Path

/-! ## Names -/

/-- The names in a path; two dots are one. -/
def names (path : String) : List String := (pieces path).filter isSignificant

/-- A name that may stand in a path by itself. -/
structure IsName (name : String) : Prop where
  significant : isSignificant name = true
  solid : '/' ∉ name.toList

instance : DecidablePred IsName := fun name =>
  decidable_of_iff (isSignificant name = true ∧ '/' ∉ name.toList)
    ⟨fun ⟨significant, solid⟩ => ⟨significant, solid⟩,
      fun isName => ⟨isName.significant, isName.solid⟩⟩

/-- The place that a path spells in a working directory. -/
def placeOf (directory : Location) (path : String) : Location :=
  startOf directory path ++ names path

/-- The component in front of the names: the root if the path is absolute, or the dot that a
relative path starts with. -/
def front (path : String) : List Component :=
  if isAbsolute path then [.root]
  else if (pieces path).head? = some "." then [.current]
  else []

variable {first second path name text whole : String} {directory : Location} {parts : List String}

/-- Different pieces are different components. -/
theorem componentOf_injective (first second : String)
    (same : componentOf first = componentOf second) : first = second := by
  unfold componentOf at same
  split at same <;> split at same
  · next up up' => exact up.trans up'.symm
  · cases same
  · cases same
  · exact Component.name.inj same

/-- The text of a component is the piece that it was made of. -/
theorem text_componentOf (name : String) : (componentOf name).text = name := by
  unfold componentOf
  split
  · next up => exact up.symm
  · rfl

/-- The components of a path are its front and its names. -/
theorem components_eq (path : String) :
    components path = front path ++ (names path).map componentOf := by
  unfold components front
  dsimp only
  split
  · rfl
  split <;> rfl

/-- A path is absolute exactly if its front is the root. -/
theorem isAbsolute_iff_front : isAbsolute path = true ↔ front path = [.root] := by
  unfold front
  split
  · next absolute => exact iff_of_true absolute rfl
  · next relative =>
    refine iff_of_false relative ?_
    split <;> exact nofun

/-- Different paths with the same front spell different places. -/
theorem placeOf_ne_of_front_eq (alike : front first = front second)
    (differ : same first second = false) (directory : Location) :
    placeOf directory first ≠ placeOf directory second := by
  intro together
  have start : startOf directory first = startOf directory second := by
    simp only [startOf, isAbsolute_iff_front, alike]
  rw [placeOf, placeOf, start] at together
  rw [same, components_eq, components_eq, alike, List.append_cancel_left together,
    beq_self_eq_true] at differ
  cases differ

/-! ## Absolute forms -/

/-- A slash between two paths parts their pieces. -/
theorem pieces_slash (first second : String) :
    pieces (first ++ "/" ++ second) = pieces first ++ pieces second := by
  have cut : splitOn (· == '/') (first.toList ++ '/' :: second.toList) =
      splitOn (· == '/') first.toList ++ splitOn (· == '/') second.toList :=
    @splitOn_append Char (· == '/') '/' rfl first.toList second.toList
  have spelled : (first ++ "/" ++ second).toList = first.toList ++ '/' :: second.toList := by simp
  rw [pieces, splitText, spelled, cut, List.map_append]
  rfl

/-- A slash between two paths parts their names. -/
theorem names_slash (first second : String) :
    names (first ++ "/" ++ second) = names first ++ names second := by
  rw [names, pieces_slash, List.filter_append]
  rfl

/-- The empty path has no names. -/
theorem names_empty : names "" = [] := by decide

/-- A text without a slash is one piece. -/
theorem pieces_of_solid (solid : '/' ∉ name.toList) : pieces name = [name] := by
  rw [pieces, splitText, splitOn_eq_singleton solid]
  simp

/-- A name is the one name in it. -/
theorem IsName.names_eq (isName : IsName name) : names name = [name] := by
  rw [names, pieces_of_solid isName.solid]
  simp [isName.significant]

/-- A name is relative. -/
theorem IsName.not_isAbsolute (isName : IsName name) : isAbsolute name = false := by
  unfold isAbsolute
  split
  · next same => exact absurd (same ▸ List.mem_cons_self) isName.solid
  · rfl

/-- There is no slash in a piece. -/
theorem solid_of_mem_pieces {piece : String} (found : piece ∈ pieces path) :
    '/' ∉ piece.toList := by
  obtain ⟨characters, cut, rfl⟩ := List.mem_map.mp found
  intro slash
  rw [String.toList_ofList] at slash
  have noSlash := isSeparator_eq_false_of_mem_splitOn cut slash
  simp at noSlash

/-- The names in a path may stand in a path by themselves. -/
theorem isName_of_mem_names (found : name ∈ names path) : IsName name := by
  obtain ⟨isPiece, significant⟩ := List.mem_filter.mp found
  exact ⟨significant, solid_of_mem_pieces isPiece⟩

/-- Whether a path is absolute is said by its start. -/
theorem isAbsolute_append (some : text ≠ "") (more : String) :
    isAbsolute (text ++ more) = isAbsolute text := by
  unfold isAbsolute
  rw [String.toList_append]
  cases characters : text.toList with
  | nil => exact absurd (String.toList_eq_nil_iff.mp characters) some
  | cons character rest =>
    rw [List.cons_append]
    split <;> split <;> simp_all

/-- An absolute path is not empty. -/
theorem ne_empty_of_isAbsolute (absolute : isAbsolute text = true) : text ≠ "" := by
  rintro rfl
  cases absolute

/-- A slash at the end adds no name. -/
theorem names_concat_slash (text : String) : names (text ++ "/") = names text := by
  have behind := names_slash text ""
  rwa [String.append_empty, names_empty, List.append_nil] at behind

/-- A relative path is put behind another with one slash between them. -/
theorem join_eq (some : text ≠ "") (relative : isAbsolute path = false) :
    ∃ bare, (text = bare ∨ text = bare ++ "/") ∧ join text path = bare ++ "/" ++ path := by
  rw [join, relative, if_neg (by decide), if_neg some]
  split
  · next slash =>
    obtain ⟨before, ended⟩ := List.getLast?_eq_some_iff.mp (beq_iff_eq.mp slash)
    have spelled : text = String.ofList before ++ "/" := by
      rw [← String.toList_inj, ended]
      simp
    exact ⟨String.ofList before, Or.inr spelled, by rw [spelled]⟩
  · exact ⟨text, Or.inl rfl, rfl⟩

/-- A relative path behind a directory is absolute if the directory is. -/
theorem isAbsolute_join (some : text ≠ "") (relative : isAbsolute path = false) :
    isAbsolute (join text path) = isAbsolute text := by
  obtain ⟨bare, rfl | spelled, joined⟩ := join_eq some relative
  · rw [joined, String.append_assoc, isAbsolute_append some]
  · rw [joined, ← spelled, isAbsolute_append some]

/-- A relative path put behind another adds its names. -/
theorem names_join (relative : isAbsolute path = false) :
    names (join text path) = names text ++ names path := by
  by_cases some : text = ""
  · rw [some, names_empty, join, relative, if_neg (by decide), if_pos rfl]
    rfl
  obtain ⟨bare, rfl | rfl, joined⟩ := join_eq some relative
  · rw [joined, names_slash]
  · rw [joined, names_slash, names_concat_slash]

/-- A name put behind a path is one more name. -/
theorem names_join_name (isName : IsName name) :
    names (join text name) = names text ++ [name] := by
  rw [names_join isName.not_isAbsolute, isName.names_eq]

/-- Names put behind an absolute path are more names. -/
theorem names_foldl_join (absolute : isAbsolute text = true)
    (areNames : ∀ name ∈ parts, IsName name) :
    isAbsolute (parts.foldl join text) = true ∧
      names (parts.foldl join text) = names text ++ parts := by
  induction parts generalizing text with
  | nil => exact ⟨absolute, (List.append_nil _).symm⟩
  | cons name rest inductionHypothesis =>
    obtain ⟨isName, restAre⟩ := List.forall_mem_cons.mp areNames
    have stays := isAbsolute_join (ne_empty_of_isAbsolute absolute) isName.not_isAbsolute
    have rest := inductionHypothesis (stays.trans absolute) restAre
    rwa [names_join_name isName, List.append_assoc] at rest

/-- What is joined from pieces without a slash has just these pieces. -/
theorem pieces_joinTexts (some : parts ≠ []) (solid : ∀ piece ∈ parts, '/' ∉ piece.toList) :
    pieces (joinTexts "/" parts) = parts :=
  splitText_joinTexts some solid

/-- The working directory spells its location. -/
theorem names_joinTexts (areNames : ∀ name ∈ directory, IsName name) :
    names (joinTexts "/" directory) = directory := by
  by_cases some : directory = []
  · rw [some]
    decide
  · rw [names, pieces_joinTexts some fun name found => (areNames name found).solid]
    exact List.filter_eq_self.mpr fun name found => (areNames name found).significant

/-- The components of a path that stay in its absolute form are its names. -/
theorem filter_components (path : String) :
    ((components path).filter fun component => component != .root && component != .current) =
      (names path).map componentOf := by
  have kept : ((names path).map componentOf).filter
      (fun component => component != .root && component != .current) =
        (names path).map componentOf := by
    refine List.filter_eq_self.mpr fun component found => ?_
    obtain ⟨name, -, rfl⟩ := List.mem_map.mp found
    unfold componentOf
    split <;> simp
  rw [components_eq, List.filter_append, kept]
  unfold front
  split
  · rfl
  split <;> rfl

/-- The absolute form of a path has its names, behind those of the working directory if the path is
relative. -/
theorem names_absolute_of_rooted {current : String} (rooted : isAbsolute current = true)
    (made : absolute current path = .ok whole) :
    isAbsolute whole = true ∧
      names whole = (if isAbsolute path then [] else names current) ++ names path := by
  rw [absolute] at made
  split at made
  · cases made
  simp only [filter_components, List.foldl_map, text_componentOf, Except.ok.injEq] at made
  generalize started : (if isAbsolute path then (if hasTwoLeadingSlashes path then "//" else "/")
    else current) = start at made
  have isStart : isAbsolute start = true ∧
      names start = if isAbsolute path then [] else names current := by
    rw [← started]
    split
    · split <;> decide
    · exact ⟨rooted, rfl⟩
  have areNames : ∀ name ∈ names path, IsName name := fun name => isName_of_mem_names
  obtain ⟨stays, named⟩ := names_foldl_join isStart.1 areNames
  rw [isStart.2] at named
  rw [← made]
  split
  · rw [names_concat_slash, isAbsolute_append (ne_empty_of_isAbsolute stays)]
    exact ⟨stays, named⟩
  · exact ⟨stays, named⟩

/-- The absolute form of a path has the names of the place that the path spells. -/
theorem names_absolute (areNames : ∀ name ∈ directory, IsName name)
    (made : absolute ("/" ++ joinTexts "/" directory) path = .ok whole) :
    isAbsolute whole = true ∧ names whole = placeOf directory path := by
  have rooted : isAbsolute ("/" ++ joinTexts "/" directory) = true :=
    isAbsolute_append (by decide) _
  have slashed := names_slash "" (joinTexts "/" directory)
  rw [String.empty_append, names_empty, List.nil_append, names_joinTexts areNames] at slashed
  have made' := names_absolute_of_rooted rooted made
  rwa [slashed] at made'

/-- Absolute forms are the same if the paths spell one place. -/
theorem same_absolute_iff {whole' : String} (areNames : ∀ name ∈ directory, IsName name)
    (made : absolute ("/" ++ joinTexts "/" directory) first = .ok whole)
    (made' : absolute ("/" ++ joinTexts "/" directory) second = .ok whole') :
    same whole whole' = true ↔ placeOf directory first = placeOf directory second := by
  obtain ⟨isAbsolute_, named⟩ := names_absolute areNames made
  obtain ⟨isAbsolute', named'⟩ := names_absolute areNames made'
  rw [same, beq_iff_eq, components_eq, components_eq, isAbsolute_iff_front.mp isAbsolute_,
    isAbsolute_iff_front.mp isAbsolute', List.append_cancel_left_eq,
    List.map_inj_right componentOf_injective, named, named']

end Path

/-! ## Where paths lead -/

/-- No location holds a link. -/
def Files.NoLinks (files : Files) : Prop :=
  ∀ location target, files.get? location ≠ some (.link target)

variable {files : Files} {links : Nat} {here place : Location} {rest : List String} {host : Host}
  {path first second : String}

/-- Without links and two dots a walk stands, at its end, behind all names. -/
theorem Files.Ends.eq_append (noLinks : files.NoLinks) (stands : Ends files links here rest place)
    (noUp : ".." ∉ rest) : place = here ++ rest.filter (· != ".") := by
  induction stands with
  | here => exact (List.append_nil _).symm
  | dot _ inductionHypothesis =>
    rw [inductionHypothesis fun found => noUp (List.mem_cons_of_mem _ found)]
    rfl
  | up => exact absurd List.mem_cons_self noUp
  | last walkable => simp [walkable.notDot]
  | into walkable _ _ inductionHypothesis =>
    rw [inductionHypothesis fun found => noUp (List.mem_cons_of_mem _ found)]
    simp [walkable.notDot]
  | through _ held => exact absurd held (noLinks _ _)

/-- The pieces that are walked are the names, with dots between them. -/
theorem Path.filter_walkPieces (path : String) :
    (walkPieces path).filter (· != ".") = Path.names path := by
  have both : (fun piece : String => piece != "." && piece != "") = Path.isSignificant := by
    funext piece
    rw [Path.isSignificant, Bool.and_comm]
  rw [walkPieces, Path.names, ← both, ← List.filter_filter]
  split
  · rw [List.filter_append]
    exact List.append_nil _
  · rfl

/-- The path leads nowhere but to the place that it spells. -/
theorem LeadsTo.eq_placeOf (noLinks : host.files.NoLinks) (leads : host.LeadsTo path place)
    (noUp : ".." ∉ Path.names path) : place = Path.placeOf host.directory path := by
  have noUp' : ".." ∉ walkPieces path := fun found =>
    noUp (Path.filter_walkPieces path ▸ List.mem_filter.mpr ⟨found, by decide⟩)
  rw [leads.2.eq_append noLinks noUp', Path.filter_walkPieces, Path.placeOf]

/-- Paths that spell different places are apart. -/
theorem apart_of_placeOf_ne (noLinks : host.files.NoLinks) (noUp : ".." ∉ Path.names first)
    (noUp' : ".." ∉ Path.names second)
    (differ : Path.placeOf host.directory first ≠ Path.placeOf host.directory second) :
    host.Apart first second := by
  intro place leads leads'
  exact differ ((leads.eq_placeOf noLinks noUp).symm.trans (leads'.eq_placeOf noLinks noUp'))

end BuildMonitor.Host
