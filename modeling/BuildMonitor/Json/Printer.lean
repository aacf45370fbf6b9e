import BuildMonitor.Json.Value
import BuildMonitor.Decimal.Layout
import BuildMonitor.Text.Quoted
import BuildMonitor.Text.Split

/-!
# Printing JSON

A value is printed either compactly, without any blank, or prettily, each item and member on a line
of its own, indented by two spaces a level. In a text only the quote, the backslash and the control
characters are escaped.

Main definitions: `Value.compact`, `Value.pretty`.
-/

namespace BuildMonitor.Json

open BuildMonitor.Decimal BuildMonitor.Text

/-- The form of one character in a text. -/
def escapeCharacter (character : Char) : List Char :=
  if character = '"' then ['\\', '"']
  else if character = '\\' then ['\\', '\\']
  else if character = '\x08' then ['\\', 'b']
  else if character = '\x0c' then ['\\', 'f']
  else if character = '\n' then ['\\', 'n']
  else if character = '\r' then ['\\', 'r']
  else if character = '\t' then ['\\', 't']
  else if character.toNat < 0x10 then ['\\', 'u', '0', '0', '0'] ++ hexDigits character.toNat
  else if character.toNat < 0x20 then ['\\', 'u', '0', '0'] ++ hexDigits character.toNat
  else [character]

/-- A text between quotes. -/
def printText (text : String) : List Char :=
  '"' :: text.toList.flatMap escapeCharacter ++ ['"']

/-- A number. -/
def printNumber : Number → List Char
  | .natural value => Nat.toDigits 10 value
  | .negative value => '-' :: Nat.toDigits 10 value
  | .floating value => (documentText value).toList

mutual

/-- The characters of a value without blanks. -/
def compactChars : Value → List Char
  | .null => ['n', 'u', 'l', 'l']
  | .boolean true => ['t', 'r', 'u', 'e']
  | .boolean false => ['f', 'a', 'l', 's', 'e']
  | .number value => printNumber value
  | .text value => printText value
  | .array items => '[' :: joinWith [','] (compactItems items) ++ [']']
  | .object members => '\x7b' :: joinWith [','] (compactMembers members) ++ ['\x7d']

/-- The characters of each item. -/
def compactItems : List Value → List (List Char)
  | [] => []
  | item :: rest => compactChars item :: compactItems rest

/-- The characters of each member. -/
def compactMembers : List (String × Value) → List (List Char)
  | [] => []
  | (name, value) :: rest => (printText name ++ ':' :: compactChars value) :: compactMembers rest

end

/-- A line break and the indentation of a level. -/
def lineAt (level : Nat) : List Char := '\n' :: List.replicate (2 * level) ' '

/-- Puts pieces on lines of their own between brackets; nothing stands between the brackets of an
empty container. -/
def bracketed (opening closing : Char) (level : Nat) (pieces : List (List Char)) : List Char :=
  match pieces with
  | [] => [opening, closing]
  | pieces =>
    opening :: lineAt (level + 1) ++ joinWith (',' :: lineAt (level + 1)) pieces ++
      lineAt level ++ [closing]

mutual

/-- The characters of a value at a level of indentation. -/
def prettyChars (level : Nat) : Value → List Char
  | .null => ['n', 'u', 'l', 'l']
  | .boolean true => ['t', 'r', 'u', 'e']
  | .boolean false => ['f', 'a', 'l', 's', 'e']
  | .number value => printNumber value
  | .text value => printText value
  | .array items => bracketed '[' ']' level (prettyItems (level + 1) items)
  | .object members => bracketed '\x7b' '\x7d' level (prettyMembers (level + 1) members)

/-- The characters of each item. -/
def prettyItems (level : Nat) : List Value → List (List Char)
  | [] => []
  | item :: rest => prettyChars level item :: prettyItems level rest

/-- The characters of each member. -/
def prettyMembers (level : Nat) : List (String × Value) → List (List Char)
  | [] => []
  | (name, value) :: rest =>
    (printText name ++ ':' :: ' ' :: prettyChars level value) :: prettyMembers level rest

end

/-- A value on one line, without blanks. -/
def Value.compact (value : Value) : String := String.ofList (compactChars value)

/-- A value over several lines. -/
def Value.pretty (value : Value) : String := String.ofList (prettyChars 0 value)

end BuildMonitor.Json
