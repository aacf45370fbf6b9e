import BuildMonitor.Decimal.Binary64

/-!
# JSON values

Metadata written by the build, reports sent to clients and the text printed on the command line are
JSON documents. A number is an integer of 64 bits or a binary64 value. The members of an object
stand in the order in which they are printed. A document that is read has them in rising order of
their names, each name once, so such an object is a function from names to values and has one
printed form; a report has them in an order of its own until it is sorted.

Main definitions: `Value`, `insertMember`, `Value.ofMembers`, `Value.member?`, `Value.sorted`.
-/

namespace BuildMonitor.Json

open BuildMonitor.Decimal

/-- A number of a document. -/
inductive Number where
  /-- A natural number below `2 ^ 64`. -/
  | natural (value : Nat)
  /-- `-value`, where `0 < value ≤ 2 ^ 63`. -/
  | negative (value : Nat)
  /-- Any other number, as the binary64 value read for it. -/
  | floating (value : Binary64)
  deriving DecidableEq, Repr

/-- A JSON value. -/
inductive Value where
  | null
  | boolean (value : Bool)
  | number (value : Number)
  | text (value : String)
  | array (items : List Value)
  | object (members : List (String × Value))

instance : Inhabited Value := ⟨.null⟩

/-- Sets a member: it takes its place in the order of names, and replaces one of the same name. -/
def insertMember {α : Type} (name : String) (value : α) :
    List (String × α) → List (String × α)
  | [] => [(name, value)]
  | (other, held) :: rest =>
    if name = other then (name, value) :: rest
    else if name < other then (name, value) :: (other, held) :: rest
    else (other, held) :: insertMember name value rest

/-- Brings members into the order of their names; of equal names the last is kept. -/
def sortMembers {α : Type} (members : List (String × α)) : List (String × α) :=
  members.foldl (fun sorted member => insertMember member.1 member.2 sorted) []

namespace Value

/-- An object with the given members. -/
def ofMembers (members : List (String × Value)) : Value :=
  .object (sortMembers members)

mutual

/-- The value with the members of every object in rising order of their names. -/
def sorted : Value → Value
  | .array items => .array (sortedItems items)
  | .object members => .object (sortMembers (sortedMembers members))
  | value => value

/-- Each item, sorted. -/
def sortedItems : List Value → List Value
  | [] => []
  | item :: rest => item.sorted :: sortedItems rest

/-- Each member with its value sorted. -/
def sortedMembers : List (String × Value) → List (String × Value)
  | [] => []
  | (name, value) :: rest => (name, value.sorted) :: sortedMembers rest

end

/-- The member of an object with the given name. -/
def member? (name : String) : Value → Option Value
  | .object members => members.lookup name
  | _ => none

/-- The text, if the value is one. -/
def text? : Value → Option String
  | .text value => some value
  | _ => none

/-- A natural number as a value. -/
def ofNat (value : Nat) : Value := .number (.natural value)

/-- An integer as a value. -/
def ofInt (value : Int) : Value :=
  if value < 0 then .number (.negative value.natAbs) else .number (.natural value.toNat)

/-- A value that may be missing; `null` stands for none. -/
def ofOption (value : Option Value) : Value := value.getD .null

end Value

end BuildMonitor.Json
