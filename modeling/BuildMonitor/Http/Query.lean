import BuildMonitor.Text.Blank
import BuildMonitor.Text.Integer
import BuildMonitor.Text.Split
import BuildMonitor.Text.Utf8

/-!
# Queries

A query is a list of pairs in the form encoding: pairs are parted by ampersands, the first equals
sign parts a name from its value, a plus sign is a space, and a percent sign with two hexadecimal
digits is a byte. A percent sign without them stands for itself, and bytes that are not UTF-8 become
the replacement character, so every query can be read.

The log request takes one parameter, `lines`. It may be missing but not given twice. What it says is
read when it is used: a text that is no number counts like a missing one.

Main definitions: `pairsOf`, `linesParameter`, `lineCount`.
-/

namespace BuildMonitor.Http

open BuildMonitor.Text

/-- The value of a hexadecimal digit of either case. -/
def hexValue? (byte : UInt8) : Option UInt8 :=
  if 0x30 ≤ byte ∧ byte ≤ 0x39 then some (byte - 0x30)
  else if 0x41 ≤ byte ∧ byte ≤ 0x46 then some (byte - 0x37)
  else if 0x61 ≤ byte ∧ byte ≤ 0x66 then some (byte - 0x57)
  else none

/-- The bytes that an encoded text stands for. -/
def decodeBytes : List UInt8 → List UInt8
  | [] => []
  | 0x25 :: high :: low :: rest =>
    match hexValue? high, hexValue? low with
    | some high, some low => (high * 16 + low) :: decodeBytes rest
    | _, _ => 0x25 :: decodeBytes (high :: low :: rest)
  | 0x2B :: rest => 0x20 :: decodeBytes rest
  | byte :: rest => byte :: decodeBytes rest

/-- The text that an encoded name or value stands for. -/
def decodeText (characters : List Char) : String :=
  Utf8.decodeLossy (decodeBytes (Utf8.encodeChars characters))

/-- The pair that a piece of a query stands for; a piece without an equals sign has an empty
value. -/
def pairOf (piece : List Char) : String × String :=
  let (name, value) := cutAtFirst '=' piece
  (decodeText name, decodeText (value.getD []))

/-- The pairs of a query, in their order; empty pieces are passed over. -/
def pairsOf (query : String) : List (String × String) :=
  ((splitOn (· == '&') query.toList).filter (!·.isEmpty)).map pairOf

/-- Why a query was refused. -/
inductive QueryError where
  /-- A parameter that may be given once is given twice. -/
  | duplicate (name : String)
  deriving DecidableEq, Repr

/-- The words for a refusal. -/
def QueryError.message : QueryError → String
  | .duplicate name => s!"Failed to deserialize query string: duplicate field `{name}`"

/-- The name of the parameter for the number of lines. -/
def linesName : String := "lines"

/-- The raw parameter for the number of lines, if it is given. -/
def linesParameter (query : Option String) : Except QueryError (Option String) :=
  match (pairsOf (query.getD "")).filter (·.1 = linesName) with
  | [] => .ok none
  | [given] => .ok (some given.2)
  | _ => .error (.duplicate linesName)

/-- The number of lines when the parameter does not say. -/
def defaultLineCount : Nat := 100

/-- The number of lines that the raw parameter asks for. -/
def lineCount (raw : Option String) : Nat :=
  match raw with
  | none => defaultLineCount
  | some text =>
    match readUnsigned (maxUnsigned 64) (trim text).toList with
    | .ok count => count
    | .error _ => defaultLineCount

end BuildMonitor.Http
