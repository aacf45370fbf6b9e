import BuildMonitor.Decimal.Rounding

/-!
# Binary floating point of double precision

A number with a fraction in a document or an environment variable is kept as the nearest IEEE 754
binary64 value. The values are written here as exact integers, `mantissa * 2 ^ exponent`, so that
reading and printing are integer arithmetic and nothing is left to the machine.

Main definitions: `Binary64`, `Binary64.ofRatio`, `Binary64.ofDecimal`.
-/

namespace BuildMonitor.Decimal

/-- A binary64 value. A finite one is `± mantissa * 2 ^ exponent`; zero keeps its sign. -/
inductive Binary64 where
  | finite (negative : Bool) (mantissa : Nat) (exponent : Int)
  | infinity (negative : Bool)
  | nan
  deriving DecidableEq, Repr

namespace Binary64

/-- The number of bits of a mantissa. -/
def precision : Nat := 53

/-- The least exponent, that of the subnormal values. -/
def leastExponent : Int := -1074

/-- The greatest exponent. -/
def greatestExponent : Int := 971

/-- Zero with the given sign. -/
def zero (negative : Bool) : Binary64 := .finite negative 0 leastExponent

/-- `value * 2 ^ exponent` as a numerator and a denominator. -/
def scaleByTwo (value : Nat) (exponent : Int) : Nat × Nat :=
  if 0 ≤ exponent then (value <<< exponent.toNat, 1) else (value, 1 <<< (-exponent).toNat)

/-- The exponent at which a positive quotient has a mantissa of full precision, or the least
exponent where that is greater. -/
def exponentFor (numerator denominator : Nat) : Int :=
  let guess : Int := (Nat.log2 numerator : Int) - (Nat.log2 denominator : Int) - 52
  let scaled := scaleByTwo denominator guess
  let fits := scaled.1 <<< 52 ≤ numerator * scaled.2
  max leastExponent (if fits then guess else guess - 1)

/-- The value nearest to `numerator / denominator`, a half going to the even mantissa; quotients
too large for a finite value become infinity. -/
def ofRatio (negative : Bool) (numerator denominator : Nat) : Binary64 :=
  if numerator = 0 then zero negative
  else
    let exponent := exponentFor numerator denominator
    let scaled := scaleByTwo denominator exponent
    let mantissa := roundHalfEven (numerator * scaled.2) scaled.1
    let carried := mantissa = 1 <<< precision
    let mantissa := if carried then 1 <<< 52 else mantissa
    let exponent := if carried then exponent + 1 else exponent
    if greatestExponent < exponent then .infinity negative
    else .finite negative mantissa exponent

/-- The value nearest to `± digits * 10 ^ power`. A power far outside the range of finite values is
decided by the number of digits alone. -/
def ofDecimal (negative : Bool) (digits : Nat) (power : Int) : Binary64 :=
  let magnitude : Int := power + (Nat.toDigits 10 digits).length
  if digits = 0 then zero negative
  else if 400 < magnitude then .infinity negative
  else if magnitude < -400 then zero negative
  else if 0 ≤ power then ofRatio negative (digits * Nat.pow 10 power.toNat) 1
  else ofRatio negative digits (Nat.pow 10 (-power).toNat)

/-- The value nearest to an integer. -/
def ofInt (value : Int) : Binary64 :=
  ofRatio (decide (value < 0)) value.natAbs 1

/-- `± mantissa * 2 ^ exponent * numerator / denominator`, rounded once. -/
def scaledBy (negative : Bool) (mantissa : Nat) (exponent : Int) (numerator denominator : Nat) :
    Binary64 :=
  let scaled := scaleByTwo mantissa exponent
  ofRatio negative (scaled.1 * numerator) (scaled.2 * denominator)

/-- The product with the value nearest to `10 ^ power`, rounded. What is not finite stays. -/
def timesPowerOfTen (value : Binary64) (power : Nat) : Binary64 :=
  match value, ofDecimal false 1 power with
  | .finite negative mantissa exponent, .finite _ factor shift =>
    let scaled := scaleByTwo factor shift
    scaledBy negative mantissa exponent scaled.1 scaled.2
  | .finite negative mantissa _, _ => if mantissa = 0 then zero negative else .infinity negative
  | other, _ => other

/-- The quotient by the value nearest to `10 ^ power`, rounded. What is not finite stays. -/
def overPowerOfTen (value : Binary64) (power : Nat) : Binary64 :=
  match value, ofDecimal false 1 power with
  | .finite negative mantissa exponent, .finite _ factor shift =>
    let scaled := scaleByTwo factor shift
    scaledBy negative mantissa exponent scaled.2 scaled.1
  | .finite negative _ _, _ => zero negative
  | other, _ => other

/-- The quotient by a natural number, rounded. What is not finite stays. -/
def overNatural (value : Binary64) (divisor : Nat) : Binary64 :=
  match value with
  | .finite negative mantissa exponent => scaledBy negative mantissa exponent 1 divisor
  | other => other

/-- Whether a value is less than a natural number. -/
def isBelow (value : Binary64) (bound : Nat) : Bool :=
  match value with
  | .finite negative mantissa exponent =>
    let scaled := scaleByTwo mantissa exponent
    (negative && mantissa != 0) || scaled.1 < bound * scaled.2
  | .infinity negative => negative
  | .nan => false

/-- The value with the other sign. -/
def negate : Binary64 → Binary64
  | .finite negative mantissa exponent => .finite (!negative) mantissa exponent
  | .infinity negative => .infinity (!negative)
  | .nan => .nan

/-- Whether the value is a number of finite size. -/
def isFinite : Binary64 → Bool
  | .finite _ _ _ => true
  | _ => false

end Binary64

end BuildMonitor.Decimal
