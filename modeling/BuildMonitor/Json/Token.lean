import BuildMonitor.Json.Number

/-!
# JSON tokens

A document is read in two steps. The first cuts the characters into tokens: punctuation, words,
numbers and texts, with the blanks between them left out.

Main definitions: `Token`, `readText?`, `tokens?`.
-/

namespace BuildMonitor.Json

/-- A token of a document. -/
inductive Token where
  | openObject
  | closeObject
  | openArray
  | closeArray
  | colon
  | comma
  | null
  | boolean (value : Bool)
  | number (value : Number)
  | text (value : String)
  deriving DecidableEq, Repr

/-- The value of a hexadecimal digit of either case. -/
def hexValue? (character : Char) : Option Nat :=
  if '0' ≤ character ∧ character ≤ '9' then some (character.toNat - '0'.toNat)
  else if 'a' ≤ character ∧ character ≤ 'f' then some (character.toNat - 'a'.toNat + 10)
  else if 'A' ≤ character ∧ character ≤ 'F' then some (character.toNat - 'A'.toNat + 10)
  else none

/-- The value of four hexadecimal digits. -/
def hexQuad? (a b c d : Char) : Option Nat := do
  let a ← hexValue? a
  let b ← hexValue? b
  let c ← hexValue? c
  let d ← hexValue? d
  return ((a * 16 + b) * 16 + c) * 16 + d

/-- Whether a 16-bit unit is the first half of a pair. -/
def isHighHalf (unit : Nat) : Bool := 0xD800 ≤ unit && unit < 0xDC00

/-- Whether a 16-bit unit is the second half of a pair. -/
def isLowHalf (unit : Nat) : Bool := 0xDC00 ≤ unit && unit < 0xE000

/-- The character that a pair of halves stands for. -/
def joinHalves (high low : Nat) : Char :=
  Char.ofNat (0x10000 + (high - 0xD800) * 0x400 + (low - 0xDC00))

/-- The character that a backslash and a letter stand for. -/
def simpleEscape? : Char → Option Char
  | '"' => some '"'
  | '\\' => some '\\'
  | '/' => some '/'
  | 'b' => some '\x08'
  | 'f' => some '\x0c'
  | 'n' => some '\n'
  | 'r' => some '\r'
  | 't' => some '\t'
  | _ => none

/-- Reads one character of a text, in plain or escaped form, and gives what follows. `none` for a
control character, a broken escape, or half of a pair without the other. -/
def readTextCharacter? : List Char → Option (Char × List Char)
  | '\\' :: 'u' :: a :: b :: c :: d :: rest => do
    let unit ← hexQuad? a b c d
    if isHighHalf unit then
      match rest with
      | '\\' :: 'u' :: e :: f :: g :: h :: rest => do
        let low ← hexQuad? e f g h
        if isLowHalf low then return (joinHalves unit low, rest) else none
      | _ => none
    else if isLowHalf unit then none
    else return (Char.ofNat unit, rest)
  | '\\' :: letter :: rest => (simpleEscape? letter).map fun character => (character, rest)
  | character :: rest =>
    if character.toNat < 0x20 ∨ character = '\\' then none else some (character, rest)
  | [] => none

/-- Reads the characters of a text up to the closing quote; `fuel` bounds their number. The
characters read so far are given latest first. -/
def readTextFrom? (soFar : List Char) : Nat → List Char → Option (List Char × List Char)
  | 0, _ => none
  | fuel + 1, characters =>
    match characters with
    | '"' :: rest => some (soFar.reverse, rest)
    | _ =>
      match readTextCharacter? characters with
      | some (character, rest) => readTextFrom? (character :: soFar) fuel rest
      | none => none

/-- Reads a text behind its opening quote. -/
def readText? (characters : List Char) : Option (List Char × List Char) :=
  readTextFrom? [] (characters.length + 1) characters

/-- Whether a character may stand between tokens. -/
def isJsonBlank (character : Char) : Bool :=
  character = ' ' || character = '\n' || character = '\t' || character = '\r'

/-- The punctuation tokens. -/
def punctuation? : Char → Option Token
  | '\x7b' => some .openObject
  | '\x7d' => some .closeObject
  | '[' => some .openArray
  | ']' => some .closeArray
  | ':' => some .colon
  | ',' => some .comma
  | _ => none

/-- Reads the token in front of a text that does not start with a blank. -/
def readToken? (characters : List Char) : Option (Token × List Char) :=
  match characters with
  | [] => none
  | '"' :: rest => (readText? rest).map fun read => (.text (String.ofList read.1), read.2)
  | 'n' :: 'u' :: 'l' :: 'l' :: rest => some (.null, rest)
  | 't' :: 'r' :: 'u' :: 'e' :: rest => some (.boolean true, rest)
  | 'f' :: 'a' :: 'l' :: 's' :: 'e' :: rest => some (.boolean false, rest)
  | character :: rest =>
    match punctuation? character with
    | some token => some (token, rest)
    | none => do
      let (literal, rest) ← Literal.read? characters
      let number ← literal.number?
      return (.number number, rest)

/-- Reads all tokens, latest first; `fuel` bounds the number of tokens and blanks. -/
def readTokens? (soFar : List Token) : Nat → List Char → Option (List Token)
  | _, [] => some soFar.reverse
  | 0, _ => none
  | fuel + 1, character :: rest =>
    if isJsonBlank character then readTokens? soFar fuel rest
    else
      match readToken? (character :: rest) with
      | some (token, rest) => readTokens? (token :: soFar) fuel rest
      | none => none

/-- The tokens of a document. -/
def tokens? (characters : List Char) : Option (List Token) :=
  readTokens? [] characters.length characters

end BuildMonitor.Json
