import BuildMonitor.Decimal.Binary64
import BuildMonitor.Json.Value

/-!
# Configuration values before they are typed

A configuration comes from several sources. Each gives a tree of scalars, sequences and mappings, in
which every node remembers its source, so that a value of the wrong kind can be reported with the
place it came from. The members of a mapping stand in the order of their names.

Main definitions: `Source`, `Tree`, `Tree.merge`.
-/

namespace BuildMonitor.Config

open BuildMonitor.Decimal BuildMonitor.Json

/-- Where a value came from. -/
inductive Source where
  /-- The defaults of the program. -/
  | defaults
  /-- A configuration file, by the name it has in messages. -/
  | file (name : String)
  /-- An environment variable with a name of its own. -/
  | environment
  /-- An environment variable whose name starts with the prefix of the program. -/
  | prefixed
  /-- A document given by itself. -/
  | document
  deriving DecidableEq, Repr

/-- A value without structure. -/
inductive Scalar where
  | unit
  | boolean (value : Bool)
  /-- A natural number below `2 ^ 64`. -/
  | natural (value : Nat)
  /-- A number written with a minus sign that fits 64 bits; it may be zero. -/
  | signed (value : Int)
  /-- An integer that needs 128 bits. -/
  | wide (value : Int)
  | floating (value : Binary64)
  | text (value : String)
  deriving DecidableEq, Repr

/-- A value of a configuration before it is typed. -/
inductive Tree where
  | scalar (source : Source) (value : Scalar)
  | sequence (source : Source) (items : List Tree)
  | mapping (source : Source) (members : List (String × Tree))

instance : Inhabited Tree := ⟨.scalar .defaults .unit⟩

namespace Tree

mutual

/-- Decides whether two values are the same. -/
def decEq : (first second : Tree) → Decidable (first = second)
  | .scalar source value, .scalar source' value' =>
    decidable_of_iff (source = source' ∧ value = value') (by rw [scalar.injEq])
  | .sequence source items, .sequence source' items' =>
    haveI := decEqItems items items'
    decidable_of_iff (source = source' ∧ items = items') (by rw [sequence.injEq])
  | .mapping source members, .mapping source' members' =>
    haveI := decEqMembers members members'
    decidable_of_iff (source = source' ∧ members = members') (by rw [mapping.injEq])
  | .scalar .., .sequence .. | .scalar .., .mapping .. | .sequence .., .scalar ..
  | .sequence .., .mapping .. | .mapping .., .scalar .. | .mapping .., .sequence .. =>
    isFalse nofun

/-- Decides whether two lists of values are the same. -/
def decEqItems : (first second : List Tree) → Decidable (first = second)
  | [], [] => isTrue rfl
  | item :: rest, item' :: rest' =>
    haveI := decEq item item'
    haveI := decEqItems rest rest'
    decidable_of_iff (item = item' ∧ rest = rest') (by rw [List.cons.injEq])
  | [], _ :: _ | _ :: _, [] => isFalse nofun

/-- Decides whether two lists of members are the same. -/
def decEqMembers : (first second : List (String × Tree)) → Decidable (first = second)
  | [], [] => isTrue rfl
  | (name, value) :: rest, (name', value') :: rest' =>
    haveI := decEq value value'
    haveI := decEqMembers rest rest'
    decidable_of_iff (name = name' ∧ value = value' ∧ rest = rest')
      (by rw [List.cons.injEq, Prod.mk.injEq, and_assoc])
  | [], _ :: _ | _ :: _, [] => isFalse nofun

end

instance : DecidableEq Tree := decEq

/-- Where a value came from. -/
def source : Tree → Source
  | .scalar source _ => source
  | .sequence source _ => source
  | .mapping source _ => source

/-- A mapping with the given members; of equal names the last is kept. -/
def ofMembers (source : Source) (members : List (String × Tree)) : Tree :=
  .mapping source (sortMembers members)

/-- A text. -/
def text (source : Source) (value : String) : Tree := .scalar source (.text value)

/-- A value at the end of a path of names. -/
def nested (source : Source) : List String → Tree → Tree
  | [], value => value
  | name :: rest, value => .mapping source [(name, nested source rest value)]

mutual

/-- Lays one value over another: mappings member by member, any other value replaces. -/
def merge : (lower : Tree) → (upper : Tree) → Tree
  | .mapping _ lower, .mapping source upper => .mapping source (mergeMembers lower upper)
  | _, upper => upper

/-- Lays the members of one mapping over those of another. -/
def mergeMembers (lower : List (String × Tree)) :
    (upper : List (String × Tree)) → List (String × Tree)
  | [] => lower
  | (name, value) :: rest =>
    let merged := match lower.lookup name with
      | none => value
      | some held => merge held value
    insertMember name merged (mergeMembers lower rest)

end

/-- The value at the end of a path of names. -/
def get? : List String → Tree → Option Tree
  | [], tree => some tree
  | name :: rest, .mapping _ members => (members.lookup name).bind (get? rest)
  | _ :: _, _ => none

mutual

/-- A document as a tree. -/
def ofJson : Value → Tree
  | .null => .scalar .document .unit
  | .boolean value => .scalar .document (.boolean value)
  | .number (.natural value) => .scalar .document (.natural value)
  | .number (.negative value) => .scalar .document (.signed (-(value : Int)))
  | .number (.floating value) => .scalar .document (.floating value)
  | .text value => .scalar .document (.text value)
  | .array items => .sequence .document (ofJsonItems items)
  | .object members => .mapping .document (ofJsonMembers members)

/-- The items of a document as trees. -/
def ofJsonItems : List Value → List Tree
  | [] => []
  | item :: rest => ofJson item :: ofJsonItems rest

/-- The members of a document as trees. -/
def ofJsonMembers : List (String × Value) → List (String × Tree)
  | [] => []
  | (name, value) :: rest => (name, ofJson value) :: ofJsonMembers rest

end

end Tree

end BuildMonitor.Config
