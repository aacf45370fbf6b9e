import BuildMonitor.Config.Basic
import BuildMonitor.Config.Tree
import BuildMonitor.Text.Integer

/-!
# From trees to configurations

A tree becomes a configuration field by field. A section is a mapping, whose members are visited in
the order of their names, or a sequence, whose items are taken in the order of the fields; names
that are no field are passed over, and what is missing has its default. The first value of the wrong
kind ends the reading, with the path to it, its source, and the cause.

Documents and layered configurations are read by the same rules but for a few, which a `Dialect`
holds.

Main definitions: `Dialect`, `Cause`, `Failure`, `decode`.
-/

namespace BuildMonitor.Config

open BuildMonitor.Decimal BuildMonitor.Text

/-- What was found where something else was wanted. -/
inductive Finding where
  | scalar (value : Scalar)
  | sequence
  | mapping
  deriving DecidableEq, Repr

/-- What a tree is, seen from outside. -/
def Tree.finding : Tree → Finding
  | .scalar _ value => .scalar value
  | .sequence _ _ => .sequence
  | .mapping _ _ => .mapping

/-- Why a value cannot be taken. -/
inductive Cause where
  /-- It is of another kind. -/
  | wrongKind (found : Finding) (wanted : String)
  /-- It is of the right kind, but out of range. -/
  | wrongValue (found : Finding) (wanted : String)
  /-- It is no name of an alternative. -/
  | unknownName (name : String) (known : List String)
  /-- A sequence has more items than the section has fields. -/
  | tooLong (count : Nat)
  deriving DecidableEq, Repr

/-- A value that cannot be taken: the path to it, where it came from, and why. -/
structure Failure where
  path : List String
  source : Source
  cause : Cause
  deriving DecidableEq, Repr

/-- What differs between the forms a configuration may have. -/
structure Dialect where
  /-- Whether a sequence may not be longer than the section. -/
  countsItems : Bool
  /-- What is wanted where an alternative is to be named, from the name of the type. -/
  alternativeKind : String → String
  /-- What becomes of a mapping that names no alternative, or more than one. -/
  ambiguous : Nat → Option Cause
  deriving Inhabited

/-- The rules for a document given by itself. -/
def Dialect.document : Dialect where
  countsItems := true
  alternativeKind _ := "string or map"
  ambiguous count :=
    if count = 1 then none else some (.wrongValue .mapping "map with a single key")

/-- The rules for a layered configuration: of several alternatives named the first counts. -/
def Dialect.layered : Dialect where
  countsItems := false
  alternativeKind name := s!"enum {name}"
  ambiguous count := if count = 0 then some (.wrongKind .mapping "enum") else none

/-- A reading that may fail. -/
abbrev Reading (α : Type) := Except Failure α

/-- A failure at the value itself. -/
def failAt {α : Type} (tree : Tree) (cause : Cause) : Reading α :=
  .error ⟨[], tree.source, cause⟩

/-- A value of another kind than wanted. -/
def mismatch {α : Type} (tree : Tree) (wanted : String) : Reading α :=
  failAt tree (.wrongKind tree.finding wanted)

/-- Puts a name in front of the path of a failure. -/
def under {α : Type} (name : String) (reading : Reading α) : Reading α :=
  reading.mapError fun failure => { failure with path := name :: failure.path }

/-! ## Scalars -/

/-- Reads a text. -/
def readText (wanted : String) (tree : Tree) : Reading String :=
  match tree with
  | .scalar _ (.text value) => .ok value
  | other => mismatch other wanted

/-- Reads a truth value. -/
def readBoolean (tree : Tree) : Reading Bool :=
  match tree with
  | .scalar _ (.boolean value) => .ok value
  | other => mismatch other "a boolean"

/-- Reads a natural number of at most `limit`. -/
def readNatural (limit : Nat) (wanted : String) (tree : Tree) : Reading Nat :=
  match tree with
  | .scalar _ (.natural value) =>
    if value ≤ limit then .ok value else failAt tree (.wrongValue tree.finding wanted)
  | .scalar _ (.signed value) =>
    if value = 0 then .ok 0 else failAt tree (.wrongValue tree.finding wanted)
  | other => mismatch other wanted

/-- Reads a path. -/
def readPath (tree : Tree) : Reading String := readText "path string" tree

/-- Reads a path that may be absent. -/
def readOptionalPath (tree : Tree) : Reading (Option String) :=
  match tree with
  | .scalar _ .unit => .ok none
  | other => (readPath other).map some

/-- Reads a value that says nothing. -/
def readUnit (tree : Tree) : Reading Unit :=
  match tree with
  | .scalar _ .unit => .ok ()
  | other => mismatch other "unit"

/-- The alternative of a name. -/
def alternativeNamed {α : Type} (alternatives : List (String × α)) (tree : Tree) (name : String) :
    Reading α :=
  match alternatives.lookup name with
  | some value => .ok value
  | none => failAt tree (.unknownName name (alternatives.map Prod.fst))

/-- Reads one of some alternatives: its name, or a mapping of its name to nothing. -/
def readAlternative {α : Type} (dialect : Dialect) (typeName : String)
    (alternatives : List (String × α)) (tree : Tree) : Reading α :=
  match tree with
  | .scalar _ (.text name) => alternativeNamed alternatives tree name
  | .mapping _ members =>
    match dialect.ambiguous members.length, members with
    | some cause, _ => failAt tree cause
    | none, [] => mismatch tree (dialect.alternativeKind typeName)
    | none, (name, content) :: _ => do
      let value ← alternativeNamed alternatives tree name
      under name (readUnit content)
      return value
  | other => mismatch other (dialect.alternativeKind typeName)

/-! ## Sections -/

/-- A field of a section: its name, and how a value is put into the section. -/
structure Field (σ : Type) where
  name : String
  set : Tree → σ → Reading σ

/-- A field from a reader and a setter. -/
def field {σ α : Type} (name : String) (read : Tree → Reading α) (put : α → σ → σ) : Field σ :=
  ⟨name, fun tree section_ => (read tree).map fun value => put value section_⟩

/-- Sets the fields that the members of a mapping name. -/
def readMembers {σ : Type} (fields : List (Field σ)) (start : σ)
    (members : List (String × Tree)) : Reading σ :=
  members.foldlM (fun section_ member =>
    match fields.find? (·.name == member.1) with
    | some field => under member.1 (field.set member.2 section_)
    | none => .ok section_) start

/-- Sets fields in their order from the items of a sequence, numbered from `position`. -/
def readItems {σ : Type} (position : Nat) :
    List (Field σ) → List Tree → σ → Reading σ
  | field :: fields, item :: items, section_ => do
    let next ← under (toString position) (field.set item section_)
    readItems (position + 1) fields items next
  | _, _, section_ => .ok section_

/-- Reads a section. -/
def readSection {σ : Type} (dialect : Dialect) (wanted : String) (fields : List (Field σ))
    (default : σ) (tree : Tree) : Reading σ :=
  match tree with
  | .mapping _ members => readMembers fields default members
  | .sequence _ items => do
    let section_ ← readItems 0 fields items default
    if dialect.countsItems && fields.length < items.length then
      failAt tree (.tooLong items.length)
    else return section_
  | other => mismatch other wanted

/-- The greatest port. -/
def greatestPort : Nat := maxUnsigned 16

/-- The fields of the server section. -/
def serverFields : List (Field Server) :=
  [field "host" (readText "a string") fun value section_ => { section_ with host := value },
   field "port" (readNatural greatestPort "u16") fun value section_ =>
     { section_ with port := value },
   field "enable_cors" readBoolean fun value section_ => { section_ with corsEnabled := value }]

/-- The fields of the build section. -/
def buildFields : List (Field Build) :=
  [field "script_path" readPath fun value section_ => { section_ with script := value },
   field "working_dir" readOptionalPath fun value section_ =>
     { section_ with workingDirectory := value },
   field "lock_file" readPath fun value section_ => { section_ with lockFile := value },
   field "log_file" readPath fun value section_ => { section_ with logFile := value },
   field "max_log_lines" (readNatural (maxUnsigned 64) "usize") fun value section_ =>
     { section_ with maxLogLines := value }]

/-- The fields of the artifacts section. -/
def artifactsFields : List (Field Artifacts) :=
  [field "output_dir" readPath fun value section_ => { section_ with outputDirectory := value },
   field "cache_dir" readPath fun value section_ => { section_ with cacheDirectory := value }]

/-- The formats by name. -/
def formatNames : List (String × LogFormat) :=
  [LogFormat.json, .pretty].map fun format => (format.name, format)

/-- The rotations by name. -/
def rotationNames : List (String × Rotation) :=
  [Rotation.daily, .hourly, .never].map fun rotation => (rotation.name, rotation)

/-- The fields of the logging section. -/
def loggingFields (dialect : Dialect) : List (Field Logging) :=
  [field "level" (readText "a string") fun value section_ => { section_ with level := value },
   field "format" (readAlternative dialect "LogFormat" formatNames) fun value section_ =>
     { section_ with format := value },
   field "log_dir" readOptionalPath fun value section_ => { section_ with directory := value },
   field "enable_stderr" readBoolean fun value section_ =>
     { section_ with stderrEnabled := value },
   field "rotation" (readAlternative dialect "RotationPolicy" rotationNames) fun value section_ =>
     { section_ with rotation := value }]

/-- The sections of a configuration. -/
def configFields (dialect : Dialect) : List (Field Config) :=
  [field "server" (readSection dialect "struct ServerConfig" serverFields .default)
     fun value config => { config with server := value },
   field "build" (readSection dialect "struct BuildConfig" buildFields .default)
     fun value config => { config with build := value },
   field "artifacts" (readSection dialect "struct ArtifactsConfig" artifactsFields .default)
     fun value config => { config with artifacts := value },
   field "logging" (readSection dialect "struct LoggingConfig" (loggingFields dialect) .default)
     fun value config => { config with logging := value }]

/-- Reads a configuration. -/
def decode (dialect : Dialect) (tree : Tree) : Reading Config :=
  readSection dialect "struct Config" (configFields dialect) default tree

end BuildMonitor.Config
