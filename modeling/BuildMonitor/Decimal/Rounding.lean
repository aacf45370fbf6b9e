/-!
# Rounding a quotient

Sizes are shown with two decimals and decimal numbers are stored in binary; both round an exact
quotient of natural numbers once, to the nearest integer, and a half goes to the even neighbour.

Main definition: `roundHalfEven`.
-/

namespace BuildMonitor.Decimal

/-- The integer nearest to `numerator / denominator`; of two equally near the even one. -/
def roundHalfEven (numerator denominator : Nat) : Nat :=
  let quotient := numerator / denominator
  let twiceRest := 2 * (numerator % denominator)
  if twiceRest < denominator then quotient
  else if denominator < twiceRest then quotient + 1
  else if quotient % 2 = 0 then quotient
  else quotient + 1

end BuildMonitor.Decimal
