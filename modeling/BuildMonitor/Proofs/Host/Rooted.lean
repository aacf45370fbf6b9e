import BuildMonitor.Proofs.Host.Spelling

/-!
# Paths from the root

An absolute path leads to the same place from everywhere. The absolute form of a path leads from
everywhere to where the path leads from the working directory, if the working directory is there
and no links are on the way to it: `resolve_join_absolute`. This holds of the names in the directory
that the path names, and not of the path itself: a dot at its end asks for a directory, and is left
out of the absolute form.

Main definition: `Host.Stands`. Main statement: `resolve_join_absolute`.
-/

namespace BuildMonitor.Host

open Files BuildMonitor.Host.Path

variable {files : Files} {follow : Bool} {links : Nat} {here directory elsewhere : Location}
  {rest : List String} {path whole name : String} {host : Host}

/-- An absolute path is resolved in the same way from everywhere. -/
theorem Files.resolve_of_isAbsolute (absolute : isAbsolute path = true) (files : Files)
    (follow : Bool) (here elsewhere : Location) :
    files.resolve here follow path = files.resolve elsewhere follow path := by
  simp only [resolve, absolute, if_true]

/-! ## Dots on the way -/

/-- Dots before the last piece make no difference to a walk. -/
theorem Files.walk_concat (links : Nat) (here : Location) (rest : List String) (final : String) :
    files.walk follow links here (rest ++ [final]) =
      files.walk follow links here (rest.filter (· != ".") ++ [final]) := by
  induction links using Nat.strongRecOn generalizing here rest with
  | ind links fewer =>
    induction rest generalizing here with
    | nil => rfl
    | cons first rest inductionHypothesis =>
      by_cases dot : first = "."
      · rw [List.filter_cons_of_neg (by simp [dot]), ← inductionHypothesis, dot, List.cons_append,
          walk, if_pos rfl]
      -- A link puts its target before the rest, and fewer links are followed from there.
      have through {few : Nat} (less : few < links) (start : Location) (target : String) :
          files.walk follow few start (walkPieces target ++ (rest ++ [final])) =
            files.walk follow few start
              (walkPieces target ++ (rest.filter (· != ".") ++ [final])) := by
        rw [← List.append_assoc, ← List.append_assoc, fewer few less start (_ ++ rest),
          fewer few less start (_ ++ rest.filter _), List.filter_append, List.filter_append,
          List.filter_filter]
        simp only [Bool.and_self]
      have unended (more : List String) : (more ++ [final]).isEmpty = false := by simp
      rw [List.filter_cons_of_pos (by simp [dot]), List.cons_append, List.cons_append, walk, walk]
      simp only [dot, if_false, unended, Bool.false_and, Bool.false_eq_true, inductionHypothesis]
      cases links with
      | zero => rfl
      | succ few => simp only [through few.lt_succ_self]

/-- A path with a name behind it ends in that name. -/
theorem Path.getLast?_pieces_join (isName : IsName name) (path : String) :
    (pieces (join path name)).getLast? = some name := by
  by_cases none : path = ""
  · rw [none, join, isName.not_isAbsolute, if_neg (by decide), if_pos rfl,
      pieces_of_solid isName.solid]
    rfl
  · obtain ⟨bare, -, joined⟩ := join_eq none isName.not_isAbsolute
    rw [joined, pieces_slash, pieces_of_solid isName.solid, List.getLast?_concat]

/-- The walk to a name in a directory is the walk along the names of the path. -/
theorem Files.walk_join (isName : IsName name) (links : Nat) (here : Location) (path : String) :
    files.walk follow links here (walkPieces (join path name)) =
      files.walk follow links here (Path.names path ++ [name]) := by
  obtain ⟨some, notDot⟩ : name ≠ "" ∧ name ≠ "." := by
    simpa [isSignificant] using isName.significant
  have last := getLast?_pieces_join isName path
  obtain ⟨before, walked⟩ := List.getLast?_eq_some_iff.mp
    (getLast?_walkPieces last some (not_endsWithSlash last some))
  have named := filter_walkPieces (join path name)
  rw [walked, List.filter_append, List.filter_cons_of_pos (by simpa using notDot),
    names_join_name isName] at named
  rw [walked, walk_concat, List.append_inj' named rfl |>.1]

/-! ## The working directory -/

/-- Every name on the way is one of a directory. -/
def Files.Stands (files : Files) : Location → List String → Prop
  | _, [] => True
  | here, name :: rest =>
    IsName name ∧ Walkable name ∧
      (∃ modified, files.get? (here ++ [name]) = some (.directory modified)) ∧
      files.Stands (here ++ [name]) rest

/-- The names of directories that are there may stand in a path by themselves. -/
theorem Files.Stands.areNames (stands : files.Stands here rest) : ∀ name ∈ rest, IsName name := by
  induction rest generalizing here with
  | nil => exact nofun
  | cons name rest inductionHypothesis =>
    obtain ⟨isName, -, -, later⟩ := stands
    exact List.forall_mem_cons.mpr ⟨isName, inductionHypothesis later⟩

/-- A walk goes through directories as they are named. -/
theorem Files.Stands.walk_append (stands : files.Stands here rest) (more : List String) :
    files.walk follow links here (rest ++ more) = files.walk follow links (here ++ rest) more := by
  induction rest generalizing here with
  | nil => rw [List.nil_append, List.append_nil]
  | cons name rest inductionHypothesis =>
    obtain ⟨-, walkable, ⟨modified, held⟩, later⟩ := stands
    rw [List.cons_append, walk, if_neg walkable.notDot, if_neg walkable.notUp,
      if_neg walkable.fits]
    simp only [held]
    rw [inductionHypothesis later, List.append_assoc, List.singleton_append]

/-- The working directory is there, and no links are on the way to it. -/
def Stands (host : Host) : Prop := host.files.Stands [] host.directory

/-- In the absolute form of a path a name leads from everywhere to what it leads to in the path from
the working directory. -/
theorem resolve_join_absolute (stands : host.Stands) (isName : IsName name)
    (made : host.absolute path = .ok whole) (usable : Usable (join path name))
    (usable' : Usable (join whole name)) (elsewhere : Location) :
    host.files.resolve elsewhere follow (join whole name) =
      host.files.resolve host.directory follow (join path name) := by
  have some : path ≠ "" := by
    rintro rfl
    cases made
  obtain ⟨rooted, named⟩ := names_absolute stands.areNames made
  have wholeAbsolute : isAbsolute (join whole name) = true :=
    (isAbsolute_join (ne_empty_of_isAbsolute rooted) isName.not_isAbsolute).trans rooted
  rw [resolve_of_usable usable, resolve_of_usable usable', walk_join isName, walk_join isName,
    startOf, if_pos wholeAbsolute, startOf, isAbsolute_join some isName.not_isAbsolute, named,
    placeOf, startOf]
  split
  · rfl
  · rw [List.append_assoc, Files.Stands.walk_append stands, List.nil_append]

end BuildMonitor.Host
