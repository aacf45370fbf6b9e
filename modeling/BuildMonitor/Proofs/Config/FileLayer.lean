import BuildMonitor.Config.Load

/-!
# The file among the layers

Which file a name means, and what layer comes of it, said without the search that finds it. The name
is tried in the working directory and on the way up to the root, and the nearest directory that has
a file of the name gives it; an absolute name is the same path wherever it is tried. The layer is
what the text of that file is read as. If no directory on the way has such a file, the layer is
empty, and that is no error.

Main definitions: `NearestFile`, `FileSays`. Main statement: `fileLayer?_eq_some_iff`.
-/

namespace BuildMonitor.Config

open BuildMonitor.Host

/-- A name as it is tried in a directory. -/
def pathIn (directory : Location) (name : String) : String :=
  Path.join (locationText directory) name

/-- The name is that of a file when it is tried in the directory. -/
def HasFile (host : Host) (name : String) (directory : Location) : Prop :=
  host.files.isFile host.directory (pathIn directory name) = true

instance (host : Host) (name : String) : DecidablePred (HasFile host name) :=
  fun _ => inferInstanceAs (Decidable (_ = true))

/-- Going up from the working directory, the directory is the first that has a file of the name. -/
structure NearestFile (host : Host) (name : String) (directory : Location) : Prop where
  onTheWay : directory <+: host.directory
  there : HasFile host name directory
  nearest : ∀ nearer, nearer <+: host.directory → directory.length < nearer.length →
    ¬ HasFile host name nearer

/-- What the file of a name says: a file that is there is read as a document, and one that is not
there says nothing. -/
inductive FileSays (host : Host) (name : String) : Tree → Prop where
  | nothing (missing : ∀ directory, directory <+: host.directory → ¬ HasFile host name directory) :
      FileSays host name (.mapping .defaults [])
  | document {directory text tree} (found : NearestFile host name directory)
      (content : host.readText (pathIn directory name) = .ok text)
      (parsed : treeOfDocument? (.file (fileDisplay host (pathIn directory name))) text =
        some tree) :
      FileSays host name tree

variable {host : Host} {name path : String} {directory : Location} {tree : Tree}

/-- An absolute name is the same path in every directory. -/
theorem pathIn_of_isAbsolute (fromRoot : Path.isAbsolute name = true) (directory : Location) :
    pathIn directory name = name := by
  rw [pathIn, Path.join, if_pos fromRoot]

/-- The paths that are tried are those in the directories on the way up, the nearest first. -/
theorem filePaths_of_relative (fromHere : Path.isAbsolute name = false) (directory : Location) :
    filePaths directory name =
      (List.range (directory.length + 1)).map fun removed =>
        pathIn (directory.take (directory.length - removed)) name := by
  simp only [filePaths, fromHere, Bool.false_eq_true, if_false, List.map_map]
  rfl

/-- The search finds the path in the nearest directory that has a file of the name. -/
theorem findFile?_eq_some_iff : findFile? host name = some path ↔
    ∃ directory, NearestFile host name directory ∧ path = pathIn directory name := by
  cases fromRoot : Path.isAbsolute name with
  | true =>
    have paths : filePaths host.directory name = [name] := by rw [filePaths, if_pos fromRoot]
    rw [findFile?, paths, List.find?_singleton]
    constructor
    · intro found
      split at found
      · next there =>
        obtain rfl := Option.some.inj found
        refine ⟨host.directory, ⟨List.prefix_rfl, ?_, fun nearer onTheWay further => ?_⟩, ?_⟩
        · rwa [HasFile, pathIn_of_isAbsolute fromRoot]
        · exact absurd onTheWay.length_le (Nat.not_le.mpr further)
        · rw [pathIn_of_isAbsolute fromRoot]
      · cases found
    · rintro ⟨directory, nearest, rfl⟩
      have there := nearest.there
      rw [HasFile, pathIn_of_isAbsolute fromRoot] at there
      rw [if_pos there, pathIn_of_isAbsolute fromRoot]
  | false =>
    rw [findFile?, filePaths_of_relative fromRoot, List.find?_map, Option.map_eq_some_iff]
    simp only [List.find?_range_eq_some, Function.comp_apply, List.mem_range, Bool.not_eq_true']
    constructor
    · rintro ⟨removed, ⟨there, inRange, before⟩, rfl⟩
      refine ⟨host.directory.take (host.directory.length - removed),
        ⟨List.take_prefix _ _, there, fun nearer onTheWay further => ?_⟩, rfl⟩
      have fits := onTheWay.length_le
      rw [List.length_take] at further
      have passed := before (host.directory.length - nearer.length) (by omega)
      rw [Nat.sub_sub_self fits, ← List.prefix_iff_eq_take.mp onTheWay] at passed
      exact Bool.eq_false_iff.mp passed
    · rintro ⟨directory, ⟨onTheWay, there, nearest⟩, rfl⟩
      have fits := onTheWay.length_le
      have taken : host.directory.take (host.directory.length -
          (host.directory.length - directory.length)) = directory := by
        rw [Nat.sub_sub_self fits, ← List.prefix_iff_eq_take.mp onTheWay]
      refine ⟨host.directory.length - directory.length, ⟨?_, by omega, fun removed fewer => ?_⟩, ?_⟩
      · rw [taken]
        exact there
      · refine Bool.eq_false_iff.mpr (nearest _ (List.take_prefix _ _) ?_)
        rw [List.length_take]
        omega
      · rw [taken]

/-- The search tries the directories on the way up and no others. -/
theorem mem_filePaths_iff : path ∈ filePaths host.directory name ↔
    ∃ directory, directory <+: host.directory ∧ path = pathIn directory name := by
  cases fromRoot : Path.isAbsolute name with
  | true =>
    rw [filePaths, if_pos fromRoot, List.mem_singleton]
    constructor
    · rintro rfl
      exact ⟨host.directory, List.prefix_rfl, (pathIn_of_isAbsolute fromRoot _).symm⟩
    · rintro ⟨directory, -, rfl⟩
      exact pathIn_of_isAbsolute fromRoot directory
  | false =>
    rw [filePaths_of_relative fromRoot, List.mem_map]
    constructor
    · rintro ⟨removed, -, rfl⟩
      exact ⟨_, List.take_prefix _ _, rfl⟩
    · rintro ⟨directory, onTheWay, rfl⟩
      have fits := onTheWay.length_le
      refine ⟨host.directory.length - directory.length, List.mem_range.mpr (by omega), ?_⟩
      rw [Nat.sub_sub_self fits, ← List.prefix_iff_eq_take.mp onTheWay]

/-- The search finds nothing where no directory on the way has a file of the name. -/
theorem findFile?_eq_none_iff : findFile? host name = none ↔
    ∀ directory, directory <+: host.directory → ¬ HasFile host name directory := by
  rw [findFile?, List.find?_eq_none]
  constructor
  · exact fun missing directory onTheWay => missing _ (mem_filePaths_iff.mpr ⟨_, onTheWay, rfl⟩)
  · intro missing path tried
    obtain ⟨directory, onTheWay, rfl⟩ := mem_filePaths_iff.mp tried
    exact missing directory onTheWay

/-- The layer of a file is what the file says. -/
theorem fileLayer?_eq_some_iff : fileLayer? host name = some tree ↔ FileSays host name tree := by
  constructor
  · intro layer
    rw [fileLayer?] at layer
    cases found : findFile? host name with
    | none =>
      rw [found] at layer
      obtain rfl := Option.some.inj layer
      exact .nothing (findFile?_eq_none_iff.mp found)
    | some path =>
      obtain ⟨directory, nearest, rfl⟩ := findFile?_eq_some_iff.mp found
      rw [found] at layer
      dsimp only at layer
      cases content : host.readText (pathIn directory name) with
      | error => rw [content] at layer; cases layer
      | ok text =>
        rw [content] at layer
        exact .document nearest content layer
  · intro told
    cases told with
    | nothing missing => rw [fileLayer?, findFile?_eq_none_iff.mpr missing]
    | document nearest content parsed =>
      rw [fileLayer?, findFile?_eq_some_iff.mpr ⟨_, nearest, rfl⟩]
      dsimp only
      rw [content]
      exact parsed

end BuildMonitor.Config
