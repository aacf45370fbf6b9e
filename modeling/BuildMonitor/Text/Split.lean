/-!
# Splitting and joining

Paths are cut at slashes, dotted keys at dots and queries at ampersands; output puts separators
between pieces. Cutting keeps empty pieces, so joining the pieces gives the text back.

Main definitions: `splitOn`, `joinWith`, `joinTexts`.
-/

namespace BuildMonitor.Text

/-- Cuts a list at every element that passes the test, and leaves that element out. There is always
a first piece. -/
def splitOn {α : Type} (isSeparator : α → Bool) : List α → List (List α)
  | [] => [[]]
  | element :: rest =>
    if isSeparator element then [] :: splitOn isSeparator rest
    else match splitOn isSeparator rest with
      | [] => [[element]]
      | piece :: others => (element :: piece) :: others

/-- Joins pieces with a separator. -/
def joinWith {α : Type} (separator : List α) : List (List α) → List α
  | [] => []
  | [piece] => piece
  | piece :: rest => piece ++ separator ++ joinWith separator rest

/-- Cuts a text at every occurrence of a character. -/
def splitText (separator : Char) (text : String) : List String :=
  (splitOn (· == separator) text.toList).map String.ofList

/-- Joins texts with a separator. -/
def joinTexts (separator : String) (texts : List String) : String :=
  String.ofList (joinWith separator.toList (texts.map String.toList))

/-- The text before the first occurrence of a character and the text behind it, if it occurs. -/
def cutAtFirst (separator : Char) (characters : List Char) : List Char × Option (List Char) :=
  let before := characters.takeWhile (· != separator)
  match characters.dropWhile (· != separator) with
  | [] => (before, none)
  | _ :: behind => (before, some behind)

/-- A decimal number with at least the given number of digits, zeros in front. -/
def padded (width value : Nat) : String :=
  let digits := Nat.toDigits 10 value
  String.ofList (List.replicate (width - digits.length) '0' ++ digits)

end BuildMonitor.Text
