import BuildMonitor.Text.Utf8

/-!
# Words of a script

A script is read byte by byte. Its text is held as a list of characters below 256, one for each
byte, so that a script in any encoding, or in none, passes unchanged.

A word is a list of parts. A part is a literal text, or something that stands for a text when the
script runs: the value of a parameter, of an arithmetic expression, or the output of a command. A
part that was quoted is neither split into fields nor read as a pattern.

Main definitions: `Octets`, `Part`, `Word`.
-/

namespace BuildMonitor.Script

open BuildMonitor.Text

/-- Bytes, each held as the character of its number. -/
abbrev Octets := List Char

namespace Octets

/-- Bytes as characters. -/
def ofBytes (bytes : List UInt8) : Octets := bytes.map fun byte => Char.ofNat byte.toNat

/-- Characters as bytes. -/
def toBytes (octets : Octets) : List UInt8 :=
  octets.map fun character => UInt8.ofNat character.toNat

/-- The bytes of a text. -/
def ofText (text : String) : Octets := ofBytes (Utf8.encode text)

/-- The text that bytes stand for, read leniently. -/
def toText (octets : Octets) : String := Utf8.decodeLossy octets.toBytes

/-- A natural number in decimal digits. -/
def ofNat (value : Nat) : Octets := Nat.toDigits 10 value

/-- An integer in decimal digits. -/
def ofInt (value : Int) : Octets :=
  if value < 0 then '-' :: ofNat value.natAbs else ofNat value.natAbs

end Octets

/-- What is done with the value of a parameter. `orEmpty` says that an empty value counts like a
missing one. -/
inductive Operator where
  /-- Its length. -/
  | length
  /-- A word in the place of a missing value. -/
  | fallback (orEmpty : Bool)
  /-- A word in the place of a missing value, which is set to it. -/
  | assign (orEmpty : Bool)
  /-- A failure if the value is missing. -/
  | demand (orEmpty : Bool)
  /-- A word in the place of a value that is there. -/
  | alternative (orEmpty : Bool)
  /-- The value without a match at its start. -/
  | trimStart (longest : Bool)
  /-- The value without a match at its end. -/
  | trimEnd (longest : Bool)
  /-- Something that is no operator. -/
  | unknown
  deriving DecidableEq, Repr

/-- A part of a word. -/
inductive Part where
  | literal (quoted : Bool) (text : Octets)
  | parameter (quoted : Bool) (name : Octets) (operator : Option Operator) (word : List Part)
  | arithmetic (quoted : Bool) (body : List Part)
  /-- The output of a command that has not run yet. -/
  | output (quoted : Bool) (source : Octets)
  /-- The output of a command that has run. -/
  | captured (quoted : Bool) (text : Octets)
  deriving Repr

instance : Inhabited Part := ⟨.literal false []⟩

/-- A word: parts that stand next to each other. -/
abbrev Word := List Part

/-- The text of a word that is one unquoted literal. -/
def bareText? : Word → Option Octets
  | [.literal false text] => some text
  | _ => none

/-- Whether a character may start a name. -/
def startsName (character : Char) : Bool :=
  ('a' ≤ character && character ≤ 'z') || ('A' ≤ character && character ≤ 'Z') || character = '_'

/-- Whether a character may stand in a name. -/
def isNameCharacter (character : Char) : Bool :=
  startsName character || ('0' ≤ character && character ≤ '9')

/-- Whether a text is a name. -/
def isName : Octets → Bool
  | [] => false
  | first :: rest => startsName first && rest.all isNameCharacter

end BuildMonitor.Script
