import BuildMonitor.Host.Files

/-!
# Where a walk comes to

The walk along a path is a function; its successes and its misses are stated here as relations, with
a constructor for each thing that a walk does with a name. `Reaches` is a walk that comes to an end,
`Misses` one that meets a name that is not there, and `Ends` holds the places at which a walk stands
with nothing left to walk: the place it comes to, and the links it followed last. `LooksAt` holds all
locations that a walk depends on: `walk_of_not_looksAt`.

A change of one location matters to a walk only if the walk goes through it or ends there:
`Reaches.of_stopsAt`, `Reaches.onto`, `Misses.of_reaches`.
-/

namespace BuildMonitor.Host

/-- Whether a walk can go on behind a node. -/
def Node.leadsOn : Node → Bool
  | .directory _ => true
  | .link _ => true
  | _ => false

/-- The location a path leads to. -/
def Resolved.location : Resolved → Location
  | .found location _ => location
  | .vacant location => location

/-- The content of the file a path leads to; a free name has an empty one. -/
def Resolved.content? : Resolved → Option Blob
  | .found _ (.file file) => some file.content
  | .vacant _ => some Blob.empty
  | _ => none

namespace Files

/-- A name that a walk looks up: neither a dot nor two, and not too long. -/
structure Walkable (name : String) : Prop where
  notDot : name ≠ "."
  notUp : name ≠ ".."
  fits : ¬ nameLimit < name.utf8ByteSize

instance (name : String) : Decidable (Walkable name) :=
  decidable_of_iff (name ≠ "." ∧ name ≠ ".." ∧ ¬ nameLimit < name.utf8ByteSize)
    ⟨fun ⟨notDot, notUp, fits⟩ => ⟨notDot, notUp, fits⟩,
      fun walkable => ⟨walkable.notDot, walkable.notUp, walkable.fits⟩⟩

/-- Where a path, or the target of a link, is walked from. -/
def startOf (directory : Location) (path : String) : Location :=
  if Path.isAbsolute path then [] else directory

/-- A walk that comes to an end. -/
inductive Reaches (files : Files) (follow : Bool) :
    Nat → Location → List String → Resolved → Prop where
  | here {links here} :
      Reaches files follow links here []
        (.found here ((files.get? here).getD (.directory default)))
  | dot {links here rest resolved} (walked : Reaches files follow links here rest resolved) :
      Reaches files follow links here ("." :: rest) resolved
  | up {links here rest resolved}
      (walked : Reaches files follow links here.dropLast rest resolved) :
      Reaches files follow links here (".." :: rest) resolved
  | vacant {links here name} (walkable : Walkable name)
      (free : files.get? (here ++ [name]) = none) :
      Reaches files follow links here [name] (.vacant (here ++ [name]))
  | into {links here name rest modified resolved} (walkable : Walkable name)
      (held : files.get? (here ++ [name]) = some (.directory modified))
      (walked : Reaches files follow links (here ++ [name]) rest resolved) :
      Reaches files follow links here (name :: rest) resolved
  | lastLink {links here name target} (walkable : Walkable name)
      (held : files.get? (here ++ [name]) = some (.link target)) (stays : follow = false) :
      Reaches files follow links here [name] (.found (here ++ [name]) (.link target))
  | through {links here name rest target resolved} (walkable : Walkable name)
      (held : files.get? (here ++ [name]) = some (.link target))
      (goesOn : rest ≠ [] ∨ follow = true)
      (walked : Reaches files follow links (startOf here target) (walkPieces target ++ rest)
        resolved) :
      Reaches files follow (links + 1) here (name :: rest) resolved
  | last {links here name node} (walkable : Walkable name)
      (held : files.get? (here ++ [name]) = some node) (final : node.leadsOn = false) :
      Reaches files follow links here [name] (.found (here ++ [name]) node)

/-- A walk that meets a name that is not there. -/
inductive Misses (files : Files) (follow : Bool) : Nat → Location → List String → Prop where
  | missing {links here name rest} (walkable : Walkable name)
      (free : files.get? (here ++ [name]) = none) : Misses files follow links here (name :: rest)
  | dot {links here rest} (walked : Misses files follow links here rest) :
      Misses files follow links here ("." :: rest)
  | up {links here rest} (walked : Misses files follow links here.dropLast rest) :
      Misses files follow links here (".." :: rest)
  | into {links here name rest modified} (walkable : Walkable name)
      (held : files.get? (here ++ [name]) = some (.directory modified))
      (walked : Misses files follow links (here ++ [name]) rest) :
      Misses files follow links here (name :: rest)
  | through {links here name rest target} (walkable : Walkable name)
      (held : files.get? (here ++ [name]) = some (.link target))
      (goesOn : rest ≠ [] ∨ follow = true)
      (walked : Misses files follow links (startOf here target) (walkPieces target ++ rest)) :
      Misses files follow (links + 1) here (name :: rest)

/-- The places at which a walk that follows links stands with nothing left to walk. -/
inductive Ends (files : Files) : Nat → Location → List String → Location → Prop where
  | here {links here} : Ends files links here [] here
  | dot {links here rest place} (walked : Ends files links here rest place) :
      Ends files links here ("." :: rest) place
  | up {links here rest place} (walked : Ends files links here.dropLast rest place) :
      Ends files links here (".." :: rest) place
  | last {links here name} (walkable : Walkable name) :
      Ends files links here [name] (here ++ [name])
  | into {links here name rest modified place} (walkable : Walkable name)
      (held : files.get? (here ++ [name]) = some (.directory modified))
      (walked : Ends files links (here ++ [name]) rest place) :
      Ends files links here (name :: rest) place
  | through {links here name rest target place} (walkable : Walkable name)
      (held : files.get? (here ++ [name]) = some (.link target))
      (walked : Ends files links (startOf here target) (walkPieces target ++ rest) place) :
      Ends files (links + 1) here (name :: rest) place

/-- The locations that a walk which follows links looks at, to go on or at its end. -/
inductive LooksAt (files : Files) : Nat → Location → List String → Location → Prop where
  | here {links here} : LooksAt files links here [] here
  | dot {links here rest place} (later : LooksAt files links here rest place) :
      LooksAt files links here ("." :: rest) place
  | up {links here rest place} (later : LooksAt files links here.dropLast rest place) :
      LooksAt files links here (".." :: rest) place
  | name {links here name rest} (walkable : Walkable name) :
      LooksAt files links here (name :: rest) (here ++ [name])
  | into {links here name rest modified place} (walkable : Walkable name)
      (held : files.get? (here ++ [name]) = some (.directory modified))
      (later : LooksAt files links (here ++ [name]) rest place) :
      LooksAt files links here (name :: rest) place
  | through {links here name rest target place} (walkable : Walkable name)
      (held : files.get? (here ++ [name]) = some (.link target))
      (later : LooksAt files links (startOf here target) (walkPieces target ++ rest) place) :
      LooksAt files (links + 1) here (name :: rest) place

/-! ## The relations are the walk -/

variable {files changed : Files} {follow : Bool} {links : Nat} {here place location : Location}
  {name : String} {rest : List String} {node : Node} {resolved : Resolved}

/-- A walk that gives a result comes to an end there. -/
theorem reaches_of_walk (walked : files.walk follow links here rest = .ok resolved) :
    Reaches files follow links here rest resolved := by
  fun_induction files.walk follow links here rest with
  | case1 => cases walked; exact .here
  | case2 links here rest ih => exact .dot (ih walked)
  | case3 links here rest _ ih => exact .up (ih walked)
  | case4 => cases walked
  | case5 links here name rest notDot notUp fits location free last =>
    cases walked
    obtain rfl := List.isEmpty_iff.mp last
    exact .vacant ⟨notDot, notUp, fits⟩ free
  | case6 => cases walked
  | case7 links here name rest notDot notUp fits location modified held ih =>
    exact .into ⟨notDot, notUp, fits⟩ held (ih walked)
  | case8 links here name rest notDot notUp fits location target held stays =>
    cases walked
    simp only [Bool.and_eq_true, List.isEmpty_iff, Bool.not_eq_true'] at stays
    obtain ⟨rfl, stays⟩ := stays
    exact .lastLink ⟨notDot, notUp, fits⟩ held stays
  | case9 => cases walked
  | case10 here name rest notDot notUp fits location target held goesOn links start ih =>
    refine .through ⟨notDot, notUp, fits⟩ held ?_ (ih walked)
    by_cases last : rest = []
    · exact Or.inr (by simpa [last] using goesOn)
    · exact Or.inl last
  | case11 links here name rest notDot notUp fits location node notDirectory notLink held last =>
    cases walked
    obtain rfl := List.isEmpty_iff.mp last
    refine .last ⟨notDot, notUp, fits⟩ held ?_
    cases node with
    | file => rfl
    | device => rfl
    | directory modified => exact (notDirectory modified rfl).elim
    | link target => exact (notLink target rfl).elim
  | case12 => cases walked

/-- A walk that comes to an end gives that as its result. -/
theorem walk_of_reaches (reached : Reaches files follow links here rest resolved) :
    files.walk follow links here rest = .ok resolved := by
  induction reached with
  | here => rw [walk]
  | dot _ ih => rw [walk, if_pos rfl, ih]
  | up _ ih => rw [walk, if_neg (by decide), if_pos rfl, ih]
  | vacant walkable free =>
    rw [walk, if_neg walkable.notDot, if_neg walkable.notUp, if_neg walkable.fits]
    simp [free]
  | into walkable held _ ih =>
    rw [walk, if_neg walkable.notDot, if_neg walkable.notUp, if_neg walkable.fits]
    simp [held, ih]
  | lastLink walkable held stays =>
    rw [walk, if_neg walkable.notDot, if_neg walkable.notUp, if_neg walkable.fits]
    simp [held, stays]
  | @through _ _ _ rest _ _ walkable held goesOn _ ih =>
    have passes : (rest.isEmpty && !follow) = false := by
      rcases goesOn with more | follows
      · simp [more]
      · simp [follows]
    rw [walk, if_neg walkable.notDot, if_neg walkable.notUp, if_neg walkable.fits]
    simpa [held, passes, startOf] using ih
  | @last _ _ _ node walkable held final =>
    rw [walk, if_neg walkable.notDot, if_neg walkable.notUp, if_neg walkable.fits]
    cases node with
    | file => simp [held]
    | device => simp [held]
    | directory => cases final
    | link => cases final

/-- A walk fails for want of a name, or comes to a free one, exactly when it misses a name. -/
theorem misses_iff_walk : Misses files follow links here rest ↔
    files.walk follow links here rest = .error .noEntry ∨
      ∃ location, files.walk follow links here rest = .ok (.vacant location) := by
  constructor
  · intro missed
    induction missed with
    | @missing _ _ _ rest walkable free =>
      rw [walk, if_neg walkable.notDot, if_neg walkable.notUp, if_neg walkable.fits]
      by_cases last : rest = [] <;> simp [free, last]
    | dot _ ih => rw [walk, if_pos rfl]; exact ih
    | up _ ih => rw [walk, if_neg (by decide), if_pos rfl]; exact ih
    | into walkable held _ ih =>
      rw [walk, if_neg walkable.notDot, if_neg walkable.notUp, if_neg walkable.fits]
      simpa [held] using ih
    | @through _ _ _ rest _ walkable held goesOn _ ih =>
      have passes : (rest.isEmpty && !follow) = false := by
        rcases goesOn with more | follows
        · simp [more]
        · simp [follows]
      rw [walk, if_neg walkable.notDot, if_neg walkable.notUp, if_neg walkable.fits]
      simpa [held, passes, startOf] using ih
  · intro failed
    fun_induction files.walk follow links here rest with
    | case1 => simp at failed
    | case2 links here rest ih => exact .dot (ih failed)
    | case3 links here rest _ ih => exact .up (ih failed)
    | case4 => simp at failed
    | case5 links here name rest notDot notUp fits location free last =>
      exact .missing ⟨notDot, notUp, fits⟩ free
    | case6 links here name rest notDot notUp fits location free last =>
      exact .missing ⟨notDot, notUp, fits⟩ free
    | case7 links here name rest notDot notUp fits location modified held ih =>
      exact .into ⟨notDot, notUp, fits⟩ held (ih failed)
    | case8 => simp at failed
    | case9 => simp at failed
    | case10 here name rest notDot notUp fits location target held goesOn links start ih =>
      refine .through ⟨notDot, notUp, fits⟩ held ?_ (ih failed)
      by_cases last : rest = []
      · exact Or.inr (by simpa [last] using goesOn)
      · exact Or.inl last
    | case11 => simp at failed
    | case12 => simp at failed

/-- A walk that misses a name finds nothing. -/
theorem Misses.not_found (missed : Misses files follow links here rest) :
    ¬ Reaches files follow links here rest (.found place node) := by
  intro reached
  have walked := walk_of_reaches reached
  rcases misses_iff_walk.mp missed with failed | ⟨location, failed⟩
  · rw [failed] at walked; cases walked
  · rw [failed] at walked; cases walked

/-- A walk that comes to a free name misses it. -/
theorem Reaches.misses (reached : Reaches files follow links here rest (.vacant location)) :
    Misses files follow links here rest :=
  misses_iff_walk.mpr (Or.inr ⟨location, walk_of_reaches reached⟩)

/-- A walk stands at the end where it comes to, whether or not it followed the last link. -/
theorem Reaches.ends (reached : Reaches files follow links here rest resolved) :
    Ends files links here rest resolved.location := by
  induction reached with
  | here => exact .here
  | dot _ ih => exact .dot ih
  | up _ ih => exact .up ih
  | vacant walkable _ => exact .last walkable
  | into walkable held _ ih => exact .into walkable held ih
  | lastLink walkable _ _ => exact .last walkable
  | through walkable held _ _ ih => exact .through walkable held ih
  | last walkable _ _ => exact .last walkable

/-! ## More to walk, and links followed -/

/-- A missing name is missed also with more to walk, and when the last link is followed. -/
theorem Misses.append {follow' : Bool} (missed : Misses files follow links here rest)
    (follows : follow = true → follow' = true) (more : List String) :
    Misses files follow' links here (rest ++ more) := by
  induction missed with
  | missing walkable free => exact .missing walkable free
  | dot _ ih => exact .dot ih
  | up _ ih => exact .up ih
  | into walkable held _ ih => exact .into walkable held ih
  | through walkable held goesOn _ ih =>
    exact .through walkable held (goesOn.imp (by simp +contextual) follows)
      (by simpa [List.append_assoc] using ih)

/-! ## Changing one location -/

/-- Files that differ at one location at most, and hold there nothing that a walk can go on behind.
-/
structure StopsAt (changed files : Files) (place : Location) : Prop where
  agree : ∀ other, other ≠ place → changed.get? other = files.get? other
  stops : ∀ node, changed.get? place = some node → node.leadsOn = false

/-- What leads on after the change was there before it. -/
theorem StopsAt.held (same : StopsAt changed files place)
    (found : changed.get? location = some node) (leads : node.leadsOn = true) :
    files.get? location = some node := by
  have elsewhere : location ≠ place := by
    rintro rfl
    rw [same.stops node found] at leads
    cases leads
  rw [← same.agree location elsewhere, found]

/-- A walk stands at the end only where it stood before. -/
theorem Ends.of_stopsAt (same : StopsAt changed files place)
    (stands : Ends changed links here rest location) : Ends files links here rest location := by
  induction stands with
  | here => exact .here
  | dot _ ih => exact .dot ih
  | up _ ih => exact .up ih
  | last walkable => exact .last walkable
  | into walkable held _ ih => exact .into walkable (same.held held rfl) ih
  | through walkable held _ ih => exact .through walkable (same.held held rfl) ih

/-- What a walk finds elsewhere was there before. -/
theorem Reaches.of_stopsAt (same : StopsAt changed files place)
    (away : ¬ Ends changed links here rest place)
    (reached : Reaches changed true links here rest (.found location node)) :
    Reaches files true links here rest (.found location node) := by
  generalize outcome : Resolved.found location node = resolved at reached
  induction reached with
  | @here links here =>
    have elsewhere : here ≠ place := by
      rintro rfl
      exact away .here
    rw [same.agree here elsewhere]
    exact .here
  | dot _ ih => exact .dot (ih (fun stands => away (.dot stands)) outcome)
  | up _ ih => exact .up (ih (fun stands => away (.up stands)) outcome)
  | vacant => cases outcome
  | into walkable held _ ih =>
    exact .into walkable (same.held held rfl)
      (ih (fun stands => away (.into walkable held stands)) outcome)
  | lastLink _ _ stays => cases stays
  | through walkable held goesOn _ ih =>
    exact .through walkable (same.held held rfl) goesOn
      (ih (fun stands => away (.through walkable held stands)) outcome)
  | @last links here name node walkable held final =>
    have elsewhere : here ++ [name] ≠ place := by
      intro there
      exact away (there ▸ .last walkable)
    exact .last walkable (by rw [← same.agree _ elsewhere, held]) final

/-- A walk that comes to the location finds there what is put there. -/
theorem Reaches.onto (same : StopsAt files changed resolved.location)
    (held : changed.get? resolved.location = some node) (final : node.leadsOn = false)
    (reached : Reaches files true links here rest resolved) :
    Reaches changed true links here rest (.found resolved.location node) := by
  have kept : ∀ {location passed}, files.get? location = some passed → passed.leadsOn = true →
      changed.get? location = some passed := same.held
  induction reached with
  | @here links here =>
    have found : Reaches changed true links here []
        (.found here ((changed.get? here).getD (.directory default))) := .here
    rwa [show changed.get? here = some node from held] at found
  | dot _ ih => exact .dot (ih same held)
  | up _ ih => exact .up (ih same held)
  | vacant walkable _ => exact .last walkable held final
  | into walkable passed _ ih => exact .into walkable (kept passed rfl) (ih same held)
  | lastLink _ _ stays => cases stays
  | through walkable passed goesOn _ ih =>
    exact .through walkable (kept passed rfl) goesOn (ih same held)
  | last walkable _ _ => exact .last walkable held final

/-- Where the last thing to walk is a name and it was found without following it, every walk misses
it once it is gone. -/
theorem Misses.of_reaches (agree : ∀ other, other ≠ place → changed.get? other = files.get? other)
    (gone : changed.get? place = none)
    (named : ∀ final ∈ rest.getLast?, final ≠ "." ∧ final ≠ "..") (some : rest ≠ [])
    (reached : Reaches files false links here rest (.found place node)) :
    Misses changed follow links here rest := by
  generalize outcome : Resolved.found place node = resolved at reached
  induction reached with
  | here => exact absurd rfl some
  | @dot _ _ rest _ _ ih =>
    cases rest with
    | nil => exact absurd rfl (named "." rfl).1
    | cons next others => exact .dot (ih (by simpa using named) (by simp) outcome)
  | @up _ _ rest _ _ ih =>
    cases rest with
    | nil => exact absurd rfl (named ".." rfl).2
    | cons next others => exact .up (ih (by simpa using named) (by simp) outcome)
  | vacant => cases outcome
  | @into _ here name rest _ _ walkable held walked ih =>
    by_cases there : here ++ [name] = place
    · exact .missing walkable (there ▸ gone)
    · cases rest with
      | nil =>
        cases walked
        cases outcome
        exact absurd rfl there
      | cons next others =>
        exact .into walkable (by rw [agree _ there, held])
          (ih (by simpa using named) (by simp) outcome)
  | lastLink walkable _ _ =>
    cases outcome
    exact .missing walkable gone
  | @through _ here name rest _ _ walkable held goesOn walked ih =>
    by_cases there : here ++ [name] = place
    · exact .missing walkable (there ▸ gone)
    · have more : rest ≠ [] := goesOn.resolve_right (by simp)
      refine .through walkable (by rw [agree _ there, held]) (Or.inl more)
        (ih ?_ (by simp [more]) outcome)
      intro final last
      refine named final ?_
      obtain ⟨before, behind, rfl⟩ := (List.eq_nil_or_concat rest).resolve_left more
      rw [List.concat_eq_append, ← List.cons_append, List.getLast?_concat]
      simpa using last
  | last walkable _ _ =>
    cases outcome
    exact .missing walkable gone

/-- A walk that does not look at the location that was changed goes as before. -/
theorem walk_of_not_looksAt
    (agree : ∀ other, other ≠ place → changed.get? other = files.get? other)
    (passes : ¬ LooksAt files links here rest place) :
    changed.walk follow links here rest = files.walk follow links here rest := by
  have same : ∀ {links here name rest}, Walkable name →
      ¬ LooksAt files links here (name :: rest) place →
      changed.get? (here ++ [name]) = files.get? (here ++ [name]) := by
    intro links here name rest walkable passes
    refine agree _ fun there => passes ?_
    rw [← there]
    exact .name walkable
  fun_induction files.walk follow links here rest with
  | case1 links here =>
    have elsewhere : here ≠ place := by
      rintro rfl
      exact passes .here
    rw [walk, agree here elsewhere]
  | case2 links here rest ih => rw [walk, if_pos rfl, ih fun later => passes (.dot later)]
  | case3 links here rest _ ih =>
    rw [walk, if_neg (by decide), if_pos rfl, ih fun later => passes (.up later)]
  | case4 links here name rest notDot notUp long =>
    rw [walk, if_neg notDot, if_neg notUp, if_pos long]
  | case5 links here name rest notDot notUp fits location free last =>
    rw [walk, if_neg notDot, if_neg notUp, if_neg fits]
    simp [same ⟨notDot, notUp, fits⟩ passes, free, last, location]
  | case6 links here name rest notDot notUp fits location free last =>
    rw [walk, if_neg notDot, if_neg notUp, if_neg fits]
    simp [same ⟨notDot, notUp, fits⟩ passes, free, last, location]
  | case7 links here name rest notDot notUp fits location modified held ih =>
    have walkable : Walkable name := ⟨notDot, notUp, fits⟩
    rw [walk, if_neg notDot, if_neg notUp, if_neg fits]
    simp only [same walkable passes, show files.get? (here ++ [name]) = _ from held]
    exact ih fun later => passes (.into walkable held later)
  | case8 links here name rest notDot notUp fits location target held stays =>
    rw [walk, if_neg notDot, if_neg notUp, if_neg fits]
    simp [same ⟨notDot, notUp, fits⟩ passes, held, stays, location]
  | case9 here name rest notDot notUp fits location target held goesOn =>
    rw [walk, if_neg notDot, if_neg notUp, if_neg fits]
    simp [same ⟨notDot, notUp, fits⟩ passes, held, goesOn, location]
  | case10 here name rest notDot notUp fits location target held goesOn links start ih =>
    have walkable : Walkable name := ⟨notDot, notUp, fits⟩
    rw [walk, if_neg notDot, if_neg notUp, if_neg fits]
    simp only [same walkable passes, show files.get? (here ++ [name]) = _ from held, if_neg goesOn]
    exact ih fun later => passes (.through walkable held later)
  | case11 links here name rest notDot notUp fits location node notDirectory notLink held last =>
    rw [walk, if_neg notDot, if_neg notUp, if_neg fits]
    simp [same ⟨notDot, notUp, fits⟩ passes, held, last, location]
  | case12 links here name rest notDot notUp fits location node notDirectory notLink held last =>
    rw [walk, if_neg notDot, if_neg notUp, if_neg fits]
    simp [same ⟨notDot, notUp, fits⟩ passes, held, last, location]

end Files

end BuildMonitor.Host
