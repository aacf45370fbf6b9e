/-!
# Decimal integers in text

Numbers written by people: a pid in a marker, a count in a query, a port on a command line. A
number is an optional sign and one or more ASCII digits; leading zeros are allowed, and the value
must lie in the range of its type.

A reader works from left to right and stops at the first thing that is wrong, so of a misplaced
letter and a value that has grown too large the earlier one is reported.

Main definitions: `readUnsigned`, `readSigned`, `IntegerError.message`, `spanDigits`.
-/

namespace BuildMonitor.Text

/-- Why a text is no integer of the wanted type. -/
inductive IntegerError where
  /-- There is nothing to read. -/
  | empty
  /-- A character that is no digit, or a sign with nothing behind it. -/
  | invalidDigit
  /-- The value is above the range. -/
  | tooLarge
  /-- The value is below the range. -/
  | tooSmall
  deriving DecidableEq, Repr

/-- The words for each cause. -/
def IntegerError.message : IntegerError → String
  | .empty => "cannot parse integer from empty string"
  | .invalidDigit => "invalid digit found in string"
  | .tooLarge => "number too large to fit in target type"
  | .tooSmall => "number too small to fit in target type"

/-- The value of an ASCII digit. -/
def digitValue? (character : Char) : Option Nat :=
  if '0' ≤ character ∧ character ≤ '9' then some (character.toNat - '0'.toNat) else none

/-- Splits off the digits in front of a text. -/
def spanDigits : List Char → List Nat × List Char
  | [] => ([], [])
  | character :: rest =>
    match digitValue? character with
    | some digit => let spanned := spanDigits rest; (digit :: spanned.1, spanned.2)
    | none => ([], character :: rest)

/-- The value of a run of digits. -/
def ofDigits (digits : List Nat) : Nat := digits.foldl (fun value digit => value * 10 + digit) 0

/-- Reads digits onto a value already read, and reports `overflow` when the value passes
`limit`. -/
def readDigitsFrom (limit : Nat) (overflow : IntegerError) (value : Nat) :
    List Char → Except IntegerError Nat
  | [] => .ok value
  | character :: rest =>
    match digitValue? character with
    | none => .error .invalidDigit
    | some digit =>
      if value * 10 + digit ≤ limit then
        readDigitsFrom limit overflow (value * 10 + digit) rest
      else .error overflow

/-- Reads one digit or more. -/
def readDigits (limit : Nat) (overflow : IntegerError) (characters : List Char) :
    Except IntegerError Nat :=
  if characters.isEmpty then .error .invalidDigit
  else readDigitsFrom limit overflow 0 characters

/-- Reads a natural number of at most `limit`; a `+` may stand in front. -/
def readUnsigned (limit : Nat) (characters : List Char) : Except IntegerError Nat :=
  match characters with
  | [] => .error .empty
  | '+' :: digits => readDigits limit .tooLarge digits
  | digits => readDigits limit .tooLarge digits

/-- Reads an integer between `-(limit + 1)` and `limit`; a `+` or `-` may stand in front. -/
def readSigned (limit : Nat) (characters : List Char) : Except IntegerError Int :=
  match characters with
  | [] => .error .empty
  | '-' :: digits => (readDigits (limit + 1) .tooSmall digits).map fun value => -(value : Int)
  | '+' :: digits => (readDigits limit .tooLarge digits).map fun value => (value : Int)
  | digits => (readDigits limit .tooLarge digits).map fun value => (value : Int)

/-- The largest value of an unsigned word of the given width. -/
def maxUnsigned (bits : Nat) : Nat := (1 <<< bits) - 1

/-- The largest value of a signed word of the given width. -/
def maxSigned (bits : Nat) : Nat := (1 <<< (bits - 1)) - 1

end BuildMonitor.Text
