import BuildMonitor.Host.Basic
import BuildMonitor.Proofs.Host.Walk
import BuildMonitor.Proofs.Text.Split

/-!
# What operations do along a path

The operations on files resolve a path and change one location. What they do is stated here with
the relations of `Proofs.Host.Walk`: what a path names is where a walk along it comes to, bytes are
added to the file that the walk comes to or to a new one, and what is removed is found by a walk
that does not follow the last link. A path that nothing was removed from, because nothing was
there, names nothing.

Main statements: `node_eq_ok_iff`, `appendTo_eq_ok`, `unlink_eq_ok`, `node_ne_ok_of_unlink`.
-/

namespace BuildMonitor.Host

open BuildMonitor.Text

namespace Files

/-- A path that can be walked at all. -/
structure Usable (path : String) : Prop where
  noNul : path.toList.contains '\x00' = false
  some : path ≠ ""
  short : ¬ pathLimit ≤ path.utf8ByteSize

instance (path : String) : Decidable (Usable path) :=
  decidable_of_iff
    (path.toList.contains '\x00' = false ∧ path ≠ "" ∧ ¬ pathLimit ≤ path.utf8ByteSize)
    ⟨fun ⟨noNul, someName, short⟩ => ⟨noNul, someName, short⟩,
      fun usable => ⟨usable.noNul, usable.some, usable.short⟩⟩

variable {files changed : Files} {directory place : Location} {follow : Bool} {path : String}
  {node : Node} {resolved : Resolved}

/-- A path passes exactly if it can be walked at all. -/
theorem vet_eq_ok_iff : vet path = .ok () ↔ Usable path := by
  unfold vet
  constructor
  · intro vetted
    split at vetted
    · cases vetted
    split at vetted
    · cases vetted
    split at vetted
    · cases vetted
    · next noNul some short => exact ⟨by simpa using noNul, some, short⟩
  · intro usable
    rw [usable.noNul, if_neg (by decide), if_neg usable.some, if_neg usable.short]

/-- Only the empty path is refused for want of an entry. -/
theorem vet_ne_noEntry (some : path ≠ "") : vet path ≠ .error (.os .noEntry) := by
  unfold vet
  rw [if_neg some]
  split
  · nofun
  · split <;> nofun

/-- A path that can be walked is resolved by the walk. -/
theorem resolve_of_usable (usable : Usable path) :
    files.resolve directory follow path =
      (files.walk follow linkLimit (startOf directory path) (walkPieces path)).mapError .os := by
  rw [resolve, vet_eq_ok_iff.mpr usable]
  rfl

/-- A path is resolved exactly if it can be walked at all and the walk comes to an end. -/
theorem resolve_eq_ok_iff : files.resolve directory follow path = .ok resolved ↔
    Usable path ∧
      Reaches files follow linkLimit (startOf directory path) (walkPieces path) resolved := by
  constructor
  · intro found
    have usable : Usable path := by
      cases vetted : vet path with
      | error => rw [resolve, vetted] at found; cases found
      | ok => exact vet_eq_ok_iff.mp vetted
    rw [resolve_of_usable usable] at found
    refine ⟨usable, reaches_of_walk ?_⟩
    generalize files.walk follow linkLimit (startOf directory path) (walkPieces path) = walked
      at found
    cases walked with
    | error => cases found
    | ok => exact congrArg _ (Except.ok.inj found)
  · rintro ⟨usable, reached⟩
    rw [resolve_of_usable usable, walk_of_reaches reached]
    rfl

/-- A node is found where the walk that follows links comes to one. -/
theorem node_eq_ok_iff : files.node directory path = .ok (place, node) ↔
    Usable path ∧
      Reaches files true linkLimit (startOf directory path) (walkPieces path)
        (.found place node) := by
  rw [← resolve_eq_ok_iff, Files.node]
  cases files.resolve directory true path with
  | error => constructor <;> intro found <;> cases found
  | ok resolved =>
    cases resolved with
    | vacant => constructor <;> intro found <;> cases found
    | found other held =>
      constructor
      · intro found
        cases found
        rfl
      · intro found
        cases found
        rfl

/-- Where the walk misses a name there is no entry. -/
theorem node_of_misses (usable : Usable path)
    (missed : Misses files true linkLimit (startOf directory path) (walkPieces path)) :
    files.node directory path = .error (.os .noEntry) := by
  rw [Files.node, resolve_of_usable usable]
  rcases misses_iff_walk.mp missed with failed | ⟨location, failed⟩ <;> rw [failed] <;> rfl

/-- What a walk finds is what the location holds. -/
theorem Reaches.eq_getD {links : Nat} {here : Location} {rest : List String}
    (reached : Reaches files follow links here rest (.found place node)) :
    node = (files.get? place).getD (.directory default) := by
  generalize outcome : Resolved.found place node = resolved at reached
  induction reached with
  | here => cases outcome; rfl
  | dot _ ih => exact ih outcome
  | up _ ih => exact ih outcome
  | vacant => cases outcome
  | into _ _ _ ih => exact ih outcome
  | lastLink _ held _ => cases outcome; rw [held]; rfl
  | through _ _ _ _ ih => exact ih outcome
  | last _ held _ => cases outcome; rw [held]; rfl

/-- A free name holds nothing. -/
theorem Reaches.vacant_get? {links : Nat} {here : Location} {rest : List String}
    (reached : Reaches files follow links here rest (.vacant place)) : files.get? place = none := by
  generalize outcome : Resolved.vacant place = resolved at reached
  induction reached with
  | here => cases outcome
  | dot _ ih => exact ih outcome
  | up _ ih => exact ih outcome
  | vacant _ free => cases outcome; exact free
  | into _ _ _ ih => exact ih outcome
  | lastLink => cases outcome
  | through _ _ _ _ ih => exact ih outcome
  | last => cases outcome

/-! ## Adding to a file -/

/-- A file that a walk comes to, or a free name, is below the root, and no walk goes on behind it.
-/
theorem Reaches.stops {links : Nat} {here : Location} {rest : List String} {content : Blob}
    (reached : Reaches files follow links here rest resolved)
    (holds : resolved.content? = some content) :
    resolved.location ≠ [] ∧
      ∀ node, files.get? resolved.location = some node → node.leadsOn = false := by
  cases resolved with
  | found place node =>
    have held := reached.eq_getD
    cases node with
    | file file =>
      have there : files.get? place = some (.file file) := by
        cases found : files.get? place with
        | none => rw [found] at held; cases held
        | some node => rw [found] at held; exact congrArg some held.symm
      constructor
      · rintro rfl
        cases there
      · intro node found
        rw [Resolved.location, there] at found
        cases found
        rfl
    | link => cases holds
    | directory => cases holds
    | device => cases holds
  | vacant place =>
    have free := reached.vacant_get?
    constructor
    · rintro rfl
      cases free
    · intro node found
      rw [Resolved.location, free] at found
      cases found

/-- What adding bytes at the end of a path does: a device takes them, or a file there grows, a new
one if there was none. -/
theorem appendTo_eq_ok {now : Instant} {bytes : List UInt8}
    (appended : files.appendTo directory path now bytes = .ok changed) :
    ∃ resolved, Usable path ∧
      Reaches files true linkLimit (startOf directory path) (walkPieces path) resolved ∧
      ((∃ place kind, resolved = .found place (.device kind) ∧ changed = files) ∨
        ∃ content file, resolved.content? = some content ∧ file.content = content.append bytes ∧
          changed = files.set resolved.location (.file file)) := by
  unfold appendTo update at appended
  cases led : files.resolve directory true path with
  | error => rw [led] at appended; cases appended
  | ok resolved =>
    rw [led] at appended
    obtain ⟨usable, reached⟩ := resolve_eq_ok_iff.mp led
    refine ⟨resolved, usable, reached, ?_⟩
    cases resolved with
    | vacant place =>
      cases appended
      exact Or.inr ⟨Blob.empty, ⟨_, _, _⟩, rfl, rfl, rfl⟩
    | found place node =>
      cases node with
      | file file =>
        cases appended
        exact Or.inr ⟨file.content,
          { file with content := file.content.append bytes, modified := now }, rfl, rfl, rfl⟩
      | device kind => cases appended; exact Or.inl ⟨place, kind, rfl, rfl⟩
      | link => cases appended
      | directory => cases appended

/-! ## Removing -/

/-- The pieces of a path with slashes behind it are those of the path and empty ones. -/
private theorem pieces_append_slashes (path : String) (count : Nat) :
    Path.pieces (path ++ String.ofList (List.replicate count '/')) =
      Path.pieces path ++ List.replicate count "" := by
  simp only [Path.pieces, splitText, String.toList_append, String.toList_ofList]
  induction count with
  | zero => simp
  | succ count inductionHypothesis =>
    rw [List.replicate_succ', ← List.append_assoc, splitOn_concat (by simp), List.map_append,
      inductionHypothesis, List.append_assoc, List.replicate_succ']
    rfl

/-- A path ends with a slash exactly if it is another path with a slash behind it. -/
private theorem endsWithSlash_iff : Path.endsWithSlash path = true ↔ ∃ bare, path = bare ++ "/" := by
  rw [Path.endsWithSlash, beq_iff_eq, List.getLast?_eq_some_iff]
  constructor
  · rintro ⟨before, ended⟩
    exact ⟨String.ofList before, by rw [← String.toList_inj, ended]; simp⟩
  · rintro ⟨bare, rfl⟩
    exact ⟨bare.toList, by simp⟩

/-- Behind a slash at the end there is an empty piece. -/
private theorem getLast?_pieces_of_slash (slash : Path.endsWithSlash path = true) :
    (Path.pieces path).getLast? = some "" := by
  obtain ⟨bare, rfl⟩ := endsWithSlash_iff.mp slash
  have pieces := pieces_append_slashes bare 1
  rw [List.replicate_one, List.replicate_one] at pieces
  rw [show "/" = String.ofList ['/'] from rfl, pieces, List.getLast?_concat]

/-- Only a path with a slash at its end has an empty last piece, or the empty path. -/
theorem not_endsWithSlash {final : String} (last : (Path.pieces path).getLast? = some final)
    (some : final ≠ "") : Path.endsWithSlash path = false := by
  cases slash : Path.endsWithSlash path with
  | false => rfl
  | true =>
    rw [getLast?_pieces_of_slash slash] at last
    exact absurd (Option.some.inj last).symm some

/-- A path is slashes alone, or it is the path without the slashes at its end and those slashes. -/
theorem withoutSlashes_cases (path : String) : Path.withoutSlashes path = path ∨
    ∃ count, path = Path.withoutSlashes path ++ String.ofList (List.replicate count '/') ∧
      Path.withoutSlashes path ≠ "" := by
  obtain ⟨slashes, areSlashes, cut⟩ : ∃ slashes, (∀ character ∈ slashes, character = '/') ∧
      path.toList.reverse = slashes ++ path.toList.reverse.dropWhile (· == '/') :=
    ⟨_, fun character taken => beq_iff_eq.mp (List.all_eq_true.mp List.all_takeWhile character taken),
      List.takeWhile_append_dropWhile.symm⟩
  rw [Path.withoutSlashes]
  split
  · exact Or.inl rfl
  · next some =>
    refine Or.inr ⟨slashes.length, ?_, ?_⟩
    · have whole := congrArg List.reverse cut
      rw [List.reverse_reverse, List.reverse_append, List.eq_replicate_of_mem areSlashes,
        List.reverse_replicate] at whole
      rw [← String.toList_inj, String.toList_append, String.toList_ofList, String.toList_ofList]
      exact whole
    · simpa using some

/-- A path with no slash at its end loses nothing. -/
theorem withoutSlashes_of_not_endsWithSlash (open_ : Path.endsWithSlash path = false) :
    Path.withoutSlashes path = path := by
  rcases withoutSlashes_cases path with same | ⟨count, whole, -⟩
  · exact same
  · cases count with
    | zero => simpa using whole.symm
    | succ count =>
      have slash : Path.endsWithSlash path = true := by
        rw [whole, Path.endsWithSlash, List.replicate_succ']
        simp
      cases open_.symm.trans slash

/-- Every path has a piece, be it an empty one. -/
theorem pieces_ne_nil (path : String) : Path.pieces path ≠ [] := by
  simp [Path.pieces, splitText, splitOn_ne_nil]

/-- The last thing walked along a path is its last piece, if that is a name. -/
theorem getLast?_walkPieces {final : String} (last : (Path.pieces path).getLast? = some final)
    (some : final ≠ "") (open_ : Path.endsWithSlash path = false) :
    (walkPieces path).getLast? = Option.some final := by
  obtain ⟨before, pieces⟩ := List.getLast?_eq_some_iff.mp last
  rw [walkPieces, pieces, open_]
  simp [some]

/-- A path that is refused as a directory is removed by no operation. -/
private theorem refused_ne_ok {bare : String} :
    (do let _ ← files.resolve directory false bare; throw (.os .isDirectory) :
      Except IoError Files) ≠ .ok changed := by
  cases files.resolve directory false bare <;> exact nofun

/-- Along a path that can be walked at all, what is found is removed. -/
theorem unlink_of_usable (usable : Usable path) :
    files.unlink directory path = files.unlinkFound directory path := by
  rw [unlink, vet_eq_ok_iff.mpr usable]
  rfl

/-- What was removed had a path that can be walked. -/
theorem usable_of_unlink (removed : files.unlink directory path = .ok changed) : Usable path := by
  cases vetted : vet path with
  | error => rw [unlink, vetted] at removed; cases removed
  | ok => exact vet_eq_ok_iff.mp vetted

/-- The path ends in a name, neither a dot nor two, with no slash behind it. -/
structure EndsInName (path final : String) : Prop where
  last : (Path.pieces path).getLast? = some final
  notDot : final ≠ "."
  notUp : final ≠ ".."
  nonempty : final ≠ ""

/-- The walk along a path that ends in a name ends with that name. -/
theorem EndsInName.walks {final : String} (named : EndsInName path final) :
    (walkPieces path).getLast? = some final :=
  getLast?_walkPieces named.last named.nonempty (not_endsWithSlash named.last named.nonempty)

/-- A path that ends in a name is looked up as it stands, and what is found is erased. -/
theorem unlink_of_endsInName {final : String} (usable : Usable path)
    (named : EndsInName path final) :
    files.unlink directory path = (do
      match ← files.resolve directory false path with
      | .vacant _ => throw (.os .noEntry)
      | .found _ (.directory _) => throw (.os .isDirectory)
      | .found location _ => return files.erase location) := by
  have open_ := not_endsWithSlash named.last named.nonempty
  rw [unlink_of_usable usable, unlinkFound]
  simp only [withoutSlashes_of_not_endsWithSlash open_, open_, Bool.false_eq_true, if_false,
    named.last]
  split
  · next same => exact absurd (Option.some.inj same) named.notDot
  · next same => exact absurd (Option.some.inj same) named.notUp
  · next same => exact absurd (Option.some.inj same) named.nonempty
  · rfl

/-- Only what a path ends in a name for is removed. -/
theorem exists_endsInName_of_unlink (removed : files.unlink directory path = .ok changed) :
    ∃ final, EndsInName path final := by
  rw [unlink_of_usable (usable_of_unlink removed), unlinkFound] at removed
  split at removed
  iterate 3 exact absurd removed refused_ne_ok
  next notDot notUp some =>
  cases slash : Path.endsWithSlash path with
  | true =>
    simp only [if_pos slash] at removed
    generalize files.resolve directory false _ = led at removed
    rcases led with _ | ⟨_, _ | _ | _ | _⟩ | _ <;> cases removed
  | false =>
    rw [withoutSlashes_of_not_endsWithSlash slash] at notDot notUp some
    obtain ⟨final, last⟩ : ∃ final, (Path.pieces path).getLast? = Option.some final :=
      ⟨_, List.getLast?_eq_some_getLast (pieces_ne_nil path)⟩
    refine ⟨final, last, ?_, ?_, ?_⟩
    · rintro rfl; exact notDot last
    · rintro rfl; exact notUp last
    · rintro rfl; exact some last

/-- What removing a path does: what it names below the root, without following it, is erased. -/
theorem unlink_eq_ok (removed : files.unlink directory path = .ok changed) :
    ∃ place node, Usable path ∧
      Reaches files false linkLimit (startOf directory path) (walkPieces path)
        (.found place node) ∧
      place ≠ [] ∧ changed = files.erase place ∧ node.isDirectory = false ∧
      ∃ final, EndsInName path final := by
  have usable := usable_of_unlink removed
  obtain ⟨final, named⟩ := exists_endsInName_of_unlink removed
  rw [unlink_of_endsInName usable named] at removed
  cases led : files.resolve directory false path with
  | error => rw [led] at removed; cases removed
  | ok resolved =>
    rw [led] at removed
    obtain ⟨-, reached⟩ := resolve_eq_ok_iff.mp led
    rcases resolved with ⟨place, node⟩ | _
    · refine ⟨place, node, usable, reached, ?_, ?_, ?_, final, named⟩
      · rintro rfl
        obtain rfl : node = .directory default := reached.eq_getD
        cases removed
      · cases node <;> cases removed <;> rfl
      · cases node <;> first | rfl | cases removed
    · cases removed

/-- With slashes behind it a path is walked as without, and then asked to be a directory. -/
private theorem walkPieces_append_slashes {bare : String} {count : Nat}
    (slash : Path.endsWithSlash (bare ++ String.ofList (List.replicate count '/')) = true)
    (open_ : Path.endsWithSlash bare = false) :
    walkPieces (bare ++ String.ofList (List.replicate count '/')) = walkPieces bare ++ ["."] := by
  rw [walkPieces, walkPieces, if_pos slash, open_, pieces_append_slashes]
  simp

private theorem misses_of_resolve (usable : Usable path)
    (failed : files.resolve directory follow path = .error (.os .noEntry)) :
    Misses files follow linkLimit (startOf directory path) (walkPieces path) := by
  rw [resolve_of_usable usable] at failed
  refine misses_iff_walk.mpr (Or.inl ?_)
  generalize files.walk follow linkLimit (startOf directory path) (walkPieces path) = walked
    at failed
  cases walked with
  | error error => cases failed; rfl
  | ok => cases failed

/-- Looking up the last name of a path misses a name if it ends for want of an entry. -/
private theorem misses_of_lookup (usable : Usable path) {slashed : Prop} [Decidable slashed]
    (missing : (do
      match ← files.resolve directory false path with
      | .vacant _ => throw (.os .noEntry)
      | .found _ (.directory _) => throw (.os .isDirectory)
      | .found location _ =>
        if slashed then throw (.os .notDirectory) else return files.erase location :
      Except IoError Files) = .error (.os .noEntry)) :
    Misses files false linkLimit (startOf directory path) (walkPieces path) := by
  cases led : files.resolve directory false path with
  | error error =>
    rw [led] at missing
    cases missing
    exact misses_of_resolve usable led
  | ok resolved =>
    rw [led] at missing
    rcases resolved with ⟨place, node⟩ | place
    · by_cases slash : slashed
      · simp only [if_pos slash] at missing
        cases node <;> cases missing
      · simp only [if_neg slash] at missing
        cases node <;> cases missing
    · exact (resolve_eq_ok_iff.mp led).2.misses

/-- Without what stands at its end a path can be walked, and from the same place. -/
private theorem usable_of_append {bare : String} (directory : Location) (behind : String)
    (usable : Usable (bare ++ behind)) (some : bare ≠ "") :
    Usable bare ∧ startOf directory (bare ++ behind) = startOf directory bare := by
  constructor
  · refine ⟨?_, some, ?_⟩
    · have noNul := usable.noNul
      simp only [String.toList_append, List.contains_append, Bool.or_eq_false_iff] at noNul
      exact noNul.1
    · have short := usable.short
      rw [String.utf8ByteSize_append] at short
      omega
  · have same : Path.isAbsolute (bare ++ behind) = Path.isAbsolute bare := by
      unfold Path.isAbsolute
      rw [String.toList_append]
      cases characters : bare.toList with
      | nil => exact absurd (String.toList_eq_nil_iff.mp characters) some
      | cons first others => by_cases slash : first = '/' <;> simp [slash]
    rw [startOf, startOf, same]

/-- There is nothing at the end of the path, or something on the way to it is missing. -/
def Lacks (files : Files) (directory : Location) (path : String) : Prop :=
  path = "" ∨
    Usable path ∧ Misses files false linkLimit (startOf directory path) (walkPieces path)

/-- Where nothing is there is nothing behind links either. -/
theorem Lacks.node_eq (lacks : files.Lacks directory path) :
    files.node directory path = .error (.os .noEntry) := by
  rcases lacks with rfl | ⟨usable, missed⟩
  · rfl
  · exact node_of_misses usable (by simpa using missed.append (by simp) [])

/-- Where nothing is the path names nothing. -/
theorem Lacks.names_eq (lacks : files.Lacks directory path) :
    files.names directory path = false := by
  rcases lacks with rfl | ⟨usable, missed⟩
  · rfl
  · rw [names, resolve_of_usable usable]
    rcases misses_iff_walk.mp missed with failed | ⟨location, failed⟩ <;> rw [failed] <;> rfl

/-- Where removing finds no entry there is none. -/
theorem lacks_of_unlink (missing : files.unlink directory path = .error (.os .noEntry)) :
    files.Lacks directory path := by
  by_cases empty : path = ""
  · exact Or.inl empty
  have usable : Usable path := by
    cases vetted : vet path with
    | error error =>
      rw [unlink, vetted] at missing
      cases missing
      exact absurd vetted (vet_ne_noEntry empty)
    | ok => exact vet_eq_ok_iff.mp vetted
  refine Or.inr ⟨usable, ?_⟩
  have refused : (do let _ ← files.resolve directory false path; throw (.os .isDirectory) :
      Except IoError Files) = .error (.os .noEntry) →
      Misses files false linkLimit (startOf directory path) (walkPieces path) := by
    intro missing
    cases led : files.resolve directory false path with
    | error error =>
      rw [led] at missing
      cases missing
      exact misses_of_resolve usable led
    | ok => rw [led] at missing; cases missing
  rw [unlink_of_usable usable, unlinkFound] at missing
  split at missing
  iterate 3 exact refused missing
  next notDot notUp some =>
  obtain ⟨final, last⟩ : ∃ final, (Path.pieces (Path.withoutSlashes path)).getLast? =
      Option.some final :=
    ⟨_, List.getLast?_eq_some_getLast (pieces_ne_nil _)⟩
  have nonempty : final ≠ "" := by rintro rfl; exact some last
  have open_ := not_endsWithSlash last nonempty
  cases slash : Path.endsWithSlash path with
  | false =>
    rw [withoutSlashes_of_not_endsWithSlash slash] at missing
    exact misses_of_lookup usable missing
  | true =>
    rcases withoutSlashes_cases path with same | ⟨count, whole, notEmpty⟩
    · rw [same, slash] at open_
      cases open_
    · generalize Path.withoutSlashes path = bare at missing open_ whole notEmpty
      subst whole
      obtain ⟨usableBare, start⟩ := usable_of_append directory _ usable notEmpty
      rw [walkPieces_append_slashes slash open_, start]
      exact (misses_of_lookup usableBare missing).append id ["."]

/-- Where nothing is there, nothing is removed from a path that ends in a name. -/
theorem Lacks.unlink_eq {final : String} (lacks : files.Lacks directory path)
    (named : EndsInName path final) :
    files.unlink directory path = .error (.os .noEntry) := by
  rcases lacks with rfl | ⟨usable, missed⟩
  · rfl
  · rw [unlink_of_endsInName usable named, resolve_of_usable usable]
    rcases misses_iff_walk.mp missed with failed | ⟨location, failed⟩ <;> rw [failed] <;> rfl

/-- What was removed is gone, and cannot be removed again. -/
theorem lacks_of_unlink_ok (removed : files.unlink directory path = .ok changed) :
    changed.Lacks directory path ∧ changed.unlink directory path = .error (.os .noEntry) := by
  obtain ⟨place, node, usable, reached, below, rfl, -, final, named⟩ := unlink_eq_ok removed
  have agree : ∀ other, other ≠ place → (files.erase place).get? other = files.get? other :=
    fun other elsewhere => get?_erase_of_ne _ elsewhere
  have walked : walkPieces path ≠ [] := by
    intro empty
    have last := named.walks
    rw [empty] at last
    cases last
  have missed : Misses (files.erase place) false linkLimit (startOf directory path)
      (walkPieces path) := by
    refine Misses.of_reaches agree (get?_erase_self _ _ below) (fun other same => ?_) walked reached
    rw [named.walks] at same
    cases same
    exact ⟨named.notDot, named.notUp⟩
  have lacks : (files.erase place).Lacks directory path := Or.inr ⟨usable, missed⟩
  exact ⟨lacks, lacks.unlink_eq named⟩

/-- Where removing finds no entry, reading finds none. -/
theorem node_ne_ok_of_unlink (missing : files.unlink directory path = .error (.os .noEntry))
    (place : Location) (node : Node) : files.node directory path ≠ .ok (place, node) := by
  rw [(lacks_of_unlink missing).node_eq]
  nofun

end Files

end BuildMonitor.Host
