import BuildMonitor.Decimal.Binary64

/-!
# Shortest decimal digits

A binary value is printed with the fewest decimal digits that read back as the same value, and
among those with the digits nearest to it.

The numbers that read back as `mantissa * 2 ^ exponent` form an interval that reaches half way to
each neighbour; its ends belong to it when the mantissa is even. For one digit, two digits and so
on up to seventeen, the two numbers of that many digits next to the value are tested against the
interval, in exact arithmetic.

Main definitions: `Digits`, `shortestDigits`.
-/

namespace BuildMonitor.Decimal

/-- The decimal `0.d₁d₂… * 10 ^ point`, where `d₁d₂…` are the digits of `digits`. -/
structure Digits where
  digits : Nat
  point : Int
  deriving DecidableEq, Repr

/-- `value * 10 ^ power` as a numerator and a denominator. -/
def scaleByTen (value : Nat) (power : Int) : Nat × Nat :=
  if 0 ≤ power then (value * Nat.pow 10 power.toNat, 1) else (value, Nat.pow 10 (-power).toNat)

/-- The power of ten just above a positive quotient below one, counted down from `power`; `fuel`
bounds the search. -/
def pointBelowOne (numerator denominator : Nat) : Nat → Int → Int
  | 0, power => power
  | fuel + 1, power =>
    let scaled := scaleByTen denominator (power - 1)
    if scaled.1 ≤ numerator * scaled.2 then power
    else pointBelowOne numerator denominator fuel (power - 1)

/-- The `point` with `10 ^ (point - 1) ≤ numerator / denominator < 10 ^ point`. -/
def pointOf (numerator denominator : Nat) : Int :=
  let whole := numerator / denominator
  if whole = 0 then pointBelowOne numerator denominator 400 0
  else ((Nat.toDigits 10 whole).length : Int)

/-- The numbers that read back as one positive binary value: those between `low / denominator` and
`high / denominator`, the ends counted if `closed`; the value itself is `exact / denominator`. -/
structure ReadBack where
  low : Nat
  exact : Nat
  high : Nat
  denominator : Nat
  closed : Bool
  deriving DecidableEq, Repr

/-- The interval of `mantissa * 2 ^ exponent`. Below a power of two the neighbour is nearer. -/
def readBack (mantissa : Nat) (exponent : Int) : ReadBack :=
  let one := Binary64.scaleByTwo 1 (exponent - 2)
  let below := if mantissa = 1 <<< 52 ∧ Binary64.leastExponent < exponent then 1 else 2
  { low := (4 * mantissa - below) * one.1
    exact := 4 * mantissa * one.1
    high := (4 * mantissa + 2) * one.1
    denominator := one.2
    closed := mantissa % 2 == 0 }

/-- Whether `count * 10 ^ power` lies in the interval. -/
def ReadBack.contains (interval : ReadBack) (count : Nat) (power : Int) : Bool :=
  let scaled := scaleByTen count power
  let number := scaled.1 * interval.denominator
  let low := interval.low * scaled.2
  let high := interval.high * scaled.2
  if interval.closed then low ≤ number && number ≤ high else low < number && number < high

/-- Of two neighbours `count` and `count + 1` on the grid of `10 ^ power`, whether the lower one is
at least as near to the value; on a tie the even one counts as nearer. -/
def ReadBack.lowerIsNearer (interval : ReadBack) (count : Nat) (power : Int) : Bool :=
  let scaled := scaleByTen (2 * count + 1) power
  let middle := scaled.1 * interval.denominator
  let value := 2 * interval.exact * scaled.2
  value < middle || (value == middle && count % 2 == 0)

/-- The first grid, from `length` digits on, that has a point in the interval; `fuel` counts the
grids left. -/
def firstHit (interval : ReadBack) (point : Int) : Nat → Nat → Nat × Int
  | 0, length => (interval.exact / interval.denominator, point - length)
  | fuel + 1, length =>
    let power := point - length
    let unit := scaleByTen interval.denominator power
    let lower := interval.exact * unit.2 / unit.1
    let lowerFits := interval.contains lower power
    let upperFits := interval.contains (lower + 1) power
    if lowerFits && upperFits then
      (if interval.lowerIsNearer lower power then lower else lower + 1, power)
    else if lowerFits then (lower, power)
    else if upperFits then (lower + 1, power)
    else firstHit interval point fuel (length + 1)

/-- Removes the zeros at the end of a number's digits; `fuel` bounds their count. -/
def dropTrailingZeros : Nat → Nat → Int → Nat × Int
  | 0, count, power => (count, power)
  | fuel + 1, count, power =>
    if count ≠ 0 ∧ count % 10 = 0 then dropTrailingZeros fuel (count / 10) (power + 1)
    else (count, power)

/-- The shortest digits of a positive binary value. -/
def shortestDigits (mantissa : Nat) (exponent : Int) : Digits :=
  let interval := readBack mantissa exponent
  let point := pointOf interval.exact interval.denominator
  let hit := firstHit interval point 17 1
  let stripped := dropTrailingZeros 20 hit.1 hit.2
  { digits := stripped.1, point := stripped.2 + (Nat.toDigits 10 stripped.1).length }

end BuildMonitor.Decimal
