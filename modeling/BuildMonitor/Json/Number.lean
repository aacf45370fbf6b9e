import BuildMonitor.Json.Value
import BuildMonitor.Text.Integer

/-!
# Reading JSON numbers

A number literal has a sign, whole digits without a needless leading zero, and possibly a fraction
and an exponent. Integers that fit 64 bits are kept exactly. Every other number becomes a binary64
value: the leading digits that fit a 64-bit word are taken, the rest only shift the point, and the
word is scaled by a power of ten. A number too large for a finite value is refused.

Main definitions: `Literal`, `Literal.number?`, `Literal.read?`.
-/

namespace BuildMonitor.Json

open BuildMonitor.Decimal BuildMonitor.Text

/-- A number as it is written. -/
structure Literal where
  negative : Bool
  whole : List Nat
  fraction : Option (List Nat)
  exponent : Option (Bool × List Nat)
  deriving DecidableEq, Repr

/-- The largest natural number kept exactly. -/
def wordLimit : Nat := maxUnsigned 64

/-- The digits kept so far as one word, and the power of ten it is to be scaled by. -/
structure Significand where
  word : Nat
  power : Int
  deriving DecidableEq, Repr

/-- Takes whole digits while the word has room. Each digit left over raises the power. -/
def takeWhole (word : Nat) : List Nat → Significand
  | [] => ⟨word, 0⟩
  | digit :: rest =>
    if word * 10 + digit ≤ wordLimit then takeWhole (word * 10 + digit) rest
    else ⟨word, (digit :: rest).length⟩

/-- Takes digits of the fraction while the word has room, and lowers the power by one for each. -/
def takeFraction (significand : Significand) : List Nat → Significand
  | [] => significand
  | digit :: rest =>
    if significand.word * 10 + digit ≤ wordLimit then
      takeFraction ⟨significand.word * 10 + digit, significand.power - 1⟩ rest
    else significand

/-- The greatest power of ten that is a finite binary64 value. -/
def greatestPower : Nat := 308

/-- Scales a nonnegative value by a power of ten; a deep fraction is reached in several divisions,
of which `fuel` counts those left. `none` when the result is too large. -/
def scaleByPower? (value : Binary64) : Nat → Int → Option Binary64
  | 0, _ => some (.zero false)
  | fuel + 1, power =>
    if power.natAbs ≤ greatestPower then
      if 0 ≤ power then
        let scaled := value.timesPowerOfTen power.natAbs
        if scaled.isFinite then some scaled else none
      else some (value.overPowerOfTen power.natAbs)
    else if value = .zero false then some value
    else if 0 ≤ power then none
    else scaleByPower? (value.overPowerOfTen greatestPower) fuel (power + greatestPower)

/-- The exponent as an integer. -/
def exponentValue : Option (Bool × List Nat) → Int
  | none => 0
  | some (true, digits) => -(ofDigits digits : Int)
  | some (false, digits) => ofDigits digits

/-- The binary64 value of a literal, if it is not too large. -/
def Literal.floating? (literal : Literal) : Option Number := do
  let significand := takeFraction (takeWhole 0 literal.whole) (literal.fraction.getD [])
  let power := significand.power + exponentValue literal.exponent
  let magnitude ← scaleByPower? (.ofInt significand.word) 4 power
  return .floating (if literal.negative then magnitude.negate else magnitude)

/-- The number a literal stands for. Minus zero is no integer. -/
def Literal.number? (literal : Literal) : Option Number :=
  match literal.fraction, literal.exponent with
  | none, none =>
    let value := ofDigits literal.whole
    if literal.negative then
      if 0 < value ∧ value ≤ 1 <<< 63 then some (.negative value) else literal.floating?
    else if value ≤ wordLimit then some (.natural value)
    else literal.floating?
  | _, _ => literal.floating?

/-- Reads the fraction, which has a digit or more behind its point. -/
def readFraction? : List Char → Option (Option (List Nat) × List Char)
  | '.' :: rest =>
    let taken := spanDigits rest
    if taken.1.isEmpty then none else some (some taken.1, taken.2)
  | rest => some (none, rest)

/-- Reads the digits of an exponent, one or more. -/
def readExponentDigits? (negative : Bool) (characters : List Char) :
    Option (Option (Bool × List Nat) × List Char) :=
  let taken := spanDigits characters
  if taken.1.isEmpty then none else some (some (negative, taken.1), taken.2)

/-- Reads the exponent, which may have a sign. -/
def readExponent? : List Char → Option (Option (Bool × List Nat) × List Char)
  | [] => some (none, [])
  | mark :: rest =>
    if mark = 'e' ∨ mark = 'E' then
      match rest with
      | '-' :: digits => readExponentDigits? true digits
      | '+' :: digits => readExponentDigits? false digits
      | digits => readExponentDigits? false digits
    else some (none, mark :: rest)

/-- Whether whole digits are well formed: there is one, and a zero in front stands alone. -/
def isWhole (digits : List Nat) : Bool :=
  match digits with
  | [] => false
  | [_] => true
  | first :: _ => first != 0

/-- Reads a number literal in front of a text, and gives what follows. -/
def Literal.read? (characters : List Char) : Option (Literal × List Char) := do
  let (negative, unsigned) := match characters with
    | '-' :: rest => (true, rest)
    | rest => (false, rest)
  let (whole, afterWhole) := spanDigits unsigned
  if isWhole whole then
    let (fraction, afterFraction) ← readFraction? afterWhole
    let (exponent, rest) ← readExponent? afterFraction
    return (⟨negative, whole, fraction, exponent⟩, rest)
  else none

end BuildMonitor.Json
