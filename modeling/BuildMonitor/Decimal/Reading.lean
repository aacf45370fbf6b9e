import BuildMonitor.Decimal.Binary64
import BuildMonitor.Text.Integer

/-!
# Reading binary values from decimal text

A number with a fraction is an optional sign, digits with at most one point among or around them,
and an optional exponent. The words for infinity and for no number are read in any case. The result
is the nearest binary64 value; numbers that are too large become infinity.

Main definitions: `DecimalText`, `readBinary64?`.
-/

namespace BuildMonitor.Decimal

open BuildMonitor.Text

/-- A decimal number as it is written, without its sign. -/
structure DecimalText where
  whole : List Nat
  fraction : List Nat
  exponent : Int
  deriving DecidableEq, Repr

/-- Reads an exponent, which is the rest of a text, or nothing. -/
def readPower? : List Char → Option Int
  | [] => some 0
  | mark :: rest =>
    if mark = 'e' ∨ mark = 'E' then
      let (negative, digits) := match rest with
        | '-' :: digits => (true, digits)
        | '+' :: digits => (false, digits)
        | digits => (false, digits)
      let (power, behind) := spanDigits digits
      if power.isEmpty || !behind.isEmpty then none
      else some (if negative then -(ofDigits power : Int) else ofDigits power)
    else none

/-- Reads an unsigned decimal number that is the whole text. -/
def DecimalText.read? (characters : List Char) : Option DecimalText := do
  let (whole, behind) := spanDigits characters
  let (fraction, behind) := match behind with
    | '.' :: rest => spanDigits rest
    | rest => ([], rest)
  if whole.isEmpty && fraction.isEmpty then none
  else
    let exponent ← readPower? behind
    return ⟨whole, fraction, exponent⟩

/-- The nearest binary64 value of a decimal number. -/
def DecimalText.value (number : DecimalText) (negative : Bool) : Binary64 :=
  .ofDecimal negative (ofDigits (number.whole ++ number.fraction))
    (number.exponent - number.fraction.length)

/-- Reads a binary64 value that is the whole text. -/
def readBinary64? (characters : List Char) : Option Binary64 :=
  let (negative, unsigned) := match characters with
    | '-' :: rest => (true, rest)
    | '+' :: rest => (false, rest)
    | rest => (false, rest)
  let word := String.ofList (unsigned.map Char.toLower)
  if word = "inf" ∨ word = "infinity" then some (.infinity negative)
  else if word = "nan" then some .nan
  else (DecimalText.read? unsigned).map fun number => number.value negative

end BuildMonitor.Decimal
