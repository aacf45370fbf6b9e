import BuildMonitor.Host.Blob
import BuildMonitor.Host.Instant
import BuildMonitor.Host.Path

/-!
# Files

The files of a host are a finite map from locations to nodes. A location is the list of names on the
way from the root, free of dots and links; a node is a regular file, a symbolic link, a directory
or one of two devices. The root is always a directory.

A path is *resolved* to a location by walking its pieces. A link in the middle is always followed,
one at the end only if the operation asks for what it points to. At most forty links are followed.
Resolution changes nothing; each operation resolves first and then changes one location.

Main definitions: `Files`, `Files.resolve`, `Files.read`, `Files.update`, `Files.unlink`.
-/

namespace BuildMonitor.Host

open BuildMonitor.Text

/-- The names on the way from the root. -/
abbrev Location := List String

/-- A regular file. -/
structure RegularFile where
  content : Blob
  executable : Bool
  modified : Instant
  deriving DecidableEq, Repr, Inhabited

/-- A device that scripts use. -/
inductive Device where
  /-- Takes everything and gives nothing. -/
  | null
  /-- Gives zero bytes without end. -/
  | zero
  deriving DecidableEq, Repr

/-- What a location holds. -/
inductive Node where
  | file (file : RegularFile)
  | link (target : String)
  | directory (modified : Instant)
  | device (kind : Device)
  deriving DecidableEq, Repr

/-- Whether a node is a directory. -/
def Node.isDirectory : Node → Bool
  | .directory _ => true
  | _ => false

/-- Where a path leads: to a node, or to a free name in a directory that exists. -/
inductive Resolved where
  | found (location : Location) (node : Node)
  | vacant (location : Location)
  deriving DecidableEq, Repr

/-- What is known of a node without reading it. -/
structure Metadata where
  isFile : Bool
  size : Nat
  modified : Instant
  deriving DecidableEq, Repr

/-- The files of a host: locations with what they hold. -/
structure Files where
  entries : List (Location × Node)
  deriving DecidableEq, Repr, Inhabited

namespace Files

/-- No files but the root. -/
def empty : Files := ⟨[]⟩

/-- What a location holds. -/
def get? (files : Files) (location : Location) : Option Node :=
  if location = [] then some (.directory default) else files.entries.lookup location

/-- The files without a location. -/
def erase (files : Files) (location : Location) : Files :=
  ⟨files.entries.filter fun entry => entry.1 != location⟩

/-- The files with a node set at a location. -/
def set (files : Files) (location : Location) (node : Node) : Files :=
  ⟨(location, node) :: (files.erase location).entries⟩

/-- The files without a location and all locations below it. -/
def eraseTree (files : Files) (location : Location) : Files :=
  ⟨files.entries.filter fun entry => !location.isPrefixOf entry.1⟩

/-- Whether a directory has anything in it. -/
def isOccupied (files : Files) (location : Location) : Bool :=
  files.entries.any fun entry => location.isPrefixOf entry.1 && entry.1 != location

/-! ## Resolution -/

/-- The greatest length of a name in bytes. -/
def nameLimit : Nat := 255

/-- The length in bytes that a path must stay below. -/
def pathLimit : Nat := 4096

/-- The number of links followed in one resolution. -/
def linkLimit : Nat := 40

/-- The pieces of a path to be walked; a slash at the end asks for a directory, as a dot does. -/
def walkPieces (path : String) : List String :=
  let names := (Path.pieces path).filter (· != "")
  if Path.endsWithSlash path then names ++ ["."] else names

/-- Walks pieces from a directory. `links` counts the links that may still be followed. -/
def walk (files : Files) (follow : Bool) (links : Nat) (here : Location) (rest : List String) :
    Except OsError Resolved :=
  match rest with
  | [] => .ok (.found here ((files.get? here).getD (.directory default)))
  | name :: rest =>
    if name = "." then files.walk follow links here rest
    else if name = ".." then files.walk follow links here.dropLast rest
    else if nameLimit < name.utf8ByteSize then .error .nameTooLong
    else
      let location := here ++ [name]
      match files.get? location with
      | none => if rest.isEmpty then .ok (.vacant location) else .error .noEntry
      | some (.directory _) => files.walk follow links location rest
      | some (.link target) =>
        if rest.isEmpty && !follow then .ok (.found location (.link target))
        else
          match links with
          | 0 => .error .linkLoop
          | links + 1 =>
            let start := if Path.isAbsolute target then [] else here
            files.walk follow links start (walkPieces target ++ rest)
      | some node => if rest.isEmpty then .ok (.found location node) else .error .notDirectory
  termination_by (links, rest.length)

/-- Refuses a path that cannot be walked at all. -/
def vet (path : String) : Except IoError Unit :=
  if path.toList.contains '\x00' then .error .nulInPath
  else if path = "" then .error (.os .noEntry)
  else if pathLimit ≤ path.utf8ByteSize then .error (.os .nameTooLong)
  else .ok ()

/-- Resolves a path against a directory. -/
def resolve (files : Files) (directory : Location) (follow : Bool) (path : String) :
    Except IoError Resolved := do
  vet path
  let start := if Path.isAbsolute path then [] else directory
  (files.walk follow linkLimit start (walkPieces path)).mapError .os

/-- The node a path leads to, links followed. -/
def node (files : Files) (directory : Location) (path : String) :
    Except IoError (Location × Node) := do
  match ← files.resolve directory true path with
  | .found location node => return (location, node)
  | .vacant _ => throw (.os .noEntry)

/-! ## Looking -/

/-- The size that a directory reports. -/
def directorySize : Nat := 4096

/-- What is known of the node a path leads to, links followed. -/
def metadata (files : Files) (directory : Location) (path : String) : Except IoError Metadata := do
  match (← files.node directory path).2 with
  | .file file => return ⟨true, file.content.size, file.modified⟩
  | .directory modified => return ⟨false, directorySize, modified⟩
  | _ => return ⟨false, 0, default⟩

/-- Whether a path leads to a directory. -/
def isDirectory (files : Files) (directory : Location) (path : String) : Bool :=
  match files.node directory path with
  | .ok (_, node) => node.isDirectory
  | .error _ => false

/-- Whether a path leads to a regular file. -/
def isFile (files : Files) (directory : Location) (path : String) : Bool :=
  match files.node directory path with
  | .ok (_, .file _) => true
  | _ => false

/-- Whether a path names anything, links not followed. -/
def names (files : Files) (directory : Location) (path : String) : Bool :=
  match files.resolve directory false path with
  | .ok (.found _ _) => true
  | _ => false

/-- The content of the file that a path leads to. -/
def read (files : Files) (directory : Location) (path : String) : Except IoError Blob := do
  match (← files.node directory path).2 with
  | .file file => return file.content
  | .directory _ => throw (.os .isDirectory)
  | _ => return Blob.empty

/-! ## Changing -/

/-- Changes the content of the file that a path leads to; a missing file is created first. What a
device is given is lost. -/
def update (files : Files) (directory : Location) (path : String) (now : Instant)
    (change : Blob → Blob) : Except IoError Files := do
  match ← files.resolve directory true path with
  | .found location (.file file) =>
    return files.set location (.file { file with content := change file.content, modified := now })
  | .found _ (.device _) => return files
  | .found _ _ => throw (.os .isDirectory)
  | .vacant location => return files.set location (.file ⟨change Blob.empty, false, now⟩)

/-- Adds bytes at the end of a file. -/
def appendTo (files : Files) (directory : Location) (path : String) (now : Instant)
    (bytes : List UInt8) : Except IoError Files :=
  files.update directory path now (·.append bytes)

/-- Removes what is found along a path that can be walked. Slashes at its end are left off to find
it, but only a directory may have them. -/
def unlinkFound (files : Files) (directory : Location) (path : String) : Except IoError Files := do
  let bare := Path.withoutSlashes path
  match (Path.pieces bare).getLast? with
  | some "." | some ".." | some "" =>
    let _ ← files.resolve directory false path
    throw (.os .isDirectory)
  | _ =>
    match ← files.resolve directory false bare with
    | .vacant _ => throw (.os .noEntry)
    | .found _ (.directory _) => throw (.os .isDirectory)
    | .found location _ =>
      if Path.endsWithSlash path then throw (.os .notDirectory) else return files.erase location

/-- Removes a file or a link; a directory is refused. -/
def unlink (files : Files) (directory : Location) (path : String) : Except IoError Files := do
  vet path
  files.unlinkFound directory path

/-- Makes one directory. -/
def makeDirectory (files : Files) (directory : Location) (path : String) (now : Instant) :
    Except IoError Files := do
  vet path
  match ← files.resolve directory false (Path.withoutSlashes path) with
  | .vacant location => return files.set location (.directory now)
  | .found _ _ => throw (.os .exists)

/-- Makes a directory and those above it that are missing; `depth` bounds their number. A directory
that exists is left as it is. -/
def makeDirectoriesTo (files : Files) (directory : Location) (now : Instant) :
    (depth : Nat) → (path : String) → Except IoError Files
  | 0, _ => .ok files
  | depth + 1, path =>
    if path = "" then .ok files
    else
      match files.makeDirectory directory path now with
      | .ok made => .ok made
      | .error error =>
        if error.isNotFound then do
          let made ← match Path.parent? path with
            | some above => files.makeDirectoriesTo directory now depth above
            | none => .error error
          match made.makeDirectory directory path now with
          | .ok made => .ok made
          | .error error => if made.isDirectory directory path then .ok made else .error error
        else if files.isDirectory directory path then .ok files
        else .error error

/-- Makes a directory and those above it that are missing. -/
def makeDirectories (files : Files) (directory : Location) (path : String) (now : Instant) :
    Except IoError Files :=
  files.makeDirectoriesTo directory now (path.length + 1) path

/-- Makes the directories above a path. -/
def makeParents (files : Files) (directory : Location) (path : String) (now : Instant) :
    Except IoError Files :=
  match Path.parent? path with
  | some above => files.makeDirectories directory above now
  | none => .ok files

/-- Puts a regular file at a path, with the directories above it. -/
def put (files : Files) (directory : Location) (path : String) (file : RegularFile) :
    Except IoError Files := do
  let files ← files.makeParents directory path file.modified
  match ← files.resolve directory true path with
  | .found _ (.directory _) => throw (.os .isDirectory)
  | .found location _ => return files.set location (.file file)
  | .vacant location => return files.set location (.file file)

/-- Makes a symbolic link, with the directories above it. -/
def putLink (files : Files) (directory : Location) (path target : String) (now : Instant) :
    Except IoError Files := do
  let files ← files.makeParents directory path now
  match ← files.resolve directory false path with
  | .found _ _ => throw (.os .exists)
  | .vacant location => return files.set location (.link target)

/-- Removes what a path names, a directory with all that is in it. -/
def removeTree (files : Files) (directory : Location) (path : String) : Except IoError Files := do
  match ← files.resolve directory false path with
  | .found location _ => return files.eraseTree location
  | .vacant _ => throw (.os .noEntry)

/-- Sets the time of the last change of what a path leads to. -/
def setModified (files : Files) (directory : Location) (path : String) (modified : Instant) :
    Except IoError Files := do
  match ← files.node directory path with
  | (location, .file file) => return files.set location (.file { file with modified := modified })
  | (location, .directory _) => return files.set location (.directory modified)
  | _ => return files

/-! ## The map -/

/-- A location that was erased holds nothing. -/
theorem get?_erase_self (files : Files) (location : Location) (below : location ≠ []) :
    (files.erase location).get? location = none := by
  simp only [get?, below, if_false, erase]
  rw [List.lookup_eq_none_iff]
  intro entry member
  simp only [List.mem_filter, bne_iff_ne, ne_eq] at member
  exact bne_iff_ne.mpr fun same => member.2 same.symm

/-- A location that was set holds the node. -/
theorem get?_set_self (files : Files) (location : Location) (node : Node)
    (below : location ≠ []) : (files.set location node).get? location = some node := by
  simp [get?, below, set]

/-- What was erased leaves the other locations as they were. -/
theorem get?_erase_of_ne (files : Files) {location other : Location} (different : other ≠ location) :
    (files.erase location).get? other = files.get? other := by
  simp only [get?, erase]
  split
  · rfl
  · induction files.entries with
    | nil => rfl
    | cons entry rest inductionHypothesis =>
      by_cases erased : entry.1 = location
      · have passed : (other == entry.1) = false := beq_false_of_ne (erased ▸ different)
        rw [List.filter_cons_of_neg (by simp [erased]), inductionHypothesis, List.lookup_cons, passed]
      · rw [List.filter_cons_of_pos (by simp [erased]), List.lookup_cons, List.lookup_cons,
          inductionHypothesis]

/-- What was set leaves the other locations as they were. -/
theorem get?_set_of_ne (files : Files) {location other : Location} (node : Node)
    (different : other ≠ location) : (files.set location node).get? other = files.get? other := by
  have passed : (other == location) = false := beq_false_of_ne different
  rw [← get?_erase_of_ne files different]
  simp only [get?, set, List.lookup_cons, passed]

end Files

end BuildMonitor.Host
