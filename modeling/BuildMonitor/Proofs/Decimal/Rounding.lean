import Mathlib.Algebra.Order.Ring.Rat
import Mathlib.Tactic.FieldSimp
import Mathlib.Tactic.Linarith
import Mathlib.Tactic.Positivity
import Mathlib.Tactic.Ring
import BuildMonitor.Decimal.Rounding

/-!
# The nearest integer

Rounding gives the natural number that is nearest to a quotient, and of two that are equally near
the even one: `isNearest_roundHalfEven`. There is one such number only, and it does not fall when
the quotient rises: `IsNearest.mono`. So what is rounded to depends on the quotient alone, not on
the terms it is written in.

Main definition: `IsNearest`.
-/

namespace BuildMonitor.Decimal

/-- The integer is the nearest one to the number; of two equally near it is the even one. -/
structure IsNearest (number : ℚ) (integer : ℕ) : Prop where
  near : |number - integer| ≤ 1 / 2
  even : |number - integer| = 1 / 2 → Even integer

variable {number greater : ℚ} {integer other denominator : ℕ}

/-- An integer less than a half away is the nearest. -/
theorem IsNearest.of_lt (near : |number - integer| < 1 / 2) : IsNearest number integer :=
  ⟨near.le, fun half => absurd half near.ne⟩

/-- An even integer at most a half away is the nearest. -/
theorem IsNearest.of_even (near : |number - integer| ≤ 1 / 2) (even : Even integer) :
    IsNearest number integer :=
  ⟨near, fun _ => even⟩

/-- An integer is nearest to itself. -/
theorem isNearest_natCast (integer : ℕ) : IsNearest integer integer := by
  apply IsNearest.of_lt
  rw [sub_self, abs_zero]
  norm_num

/-- What is nearest to a greater number is no less. -/
theorem IsNearest.mono (nearest : IsNearest number integer) (nearest' : IsNearest greater other)
    (least : number ≤ greater) : integer ≤ other := by
  by_contra less
  have step : (other : ℚ) + 1 ≤ integer := by exact_mod_cast not_le.mp less
  obtain ⟨below, -⟩ := abs_le.mp nearest.near
  obtain ⟨-, above⟩ := abs_le.mp nearest'.near
  -- Both numbers are in the middle between the two integers, which are next to each other.
  have middle : number - integer = -(1 / 2) := by linarith
  have middle' : greater - other = 1 / 2 := by linarith
  have next : integer = other + 1 := by
    have same : (integer : ℚ) = other + 1 := by linarith
    exact_mod_cast same
  have half : |(1 / 2 : ℚ)| = 1 / 2 := abs_of_pos (by norm_num)
  have even := nearest.even (by rw [middle, abs_neg, half])
  have even' := nearest'.even (by rw [middle', half])
  rw [next, Nat.even_add_one] at even
  exact even even'

/-- There is one nearest integer. -/
theorem IsNearest.unique (nearest : IsNearest number integer) (nearest' : IsNearest number other) :
    integer = other :=
  Nat.le_antisymm (nearest.mono nearest' le_rfl) (nearest'.mono nearest le_rfl)

/-- A quotient is its floor and a fraction. -/
private theorem quotient_eq (numerator : ℕ) (positive : 0 < denominator) :
    (numerator : ℚ) / denominator =
      (numerator / denominator : ℕ) + ((numerator % denominator : ℕ) : ℚ) / denominator := by
  have nonzero : (denominator : ℚ) ≠ 0 := by exact_mod_cast positive.ne'
  have whole : (numerator : ℚ) =
      denominator * (numerator / denominator : ℕ) + (numerator % denominator : ℕ) := by
    exact_mod_cast (Nat.div_add_mod numerator denominator).symm
  calc (numerator : ℚ) / denominator
      = (denominator * (numerator / denominator : ℕ) + (numerator % denominator : ℕ)) /
          denominator := by rw [← whole]
    _ = _ := by field_simp

/-- Rounding a fraction gives the integer nearest to it. -/
theorem isNearest_roundHalfEven (numerator : ℕ) (positive : 0 < denominator) :
    IsNearest ((numerator : ℚ) / denominator) (roundHalfEven numerator denominator) := by
  have positive' : (0 : ℚ) < denominator := by exact_mod_cast positive
  have small : ((numerator % denominator : ℕ) : ℚ) < denominator := by
    exact_mod_cast Nat.mod_lt numerator positive
  rw [quotient_eq numerator positive]
  unfold roundHalfEven
  dsimp only
  generalize numerator / denominator = quotient
  generalize numerator % denominator = rest at small
  have least : 0 ≤ (rest : ℚ) / denominator := by positivity
  split
  · next below =>
    have below' : (2 * rest : ℚ) < denominator := by exact_mod_cast below
    have less : (rest : ℚ) / denominator < 1 / 2 := by
      rw [div_lt_iff₀ positive']
      linarith
    exact .of_lt (abs_lt.mpr ⟨by linarith, by linarith⟩)
  split
  · next above =>
    have above' : (denominator : ℚ) < 2 * rest := by exact_mod_cast above
    have more : 1 / 2 < (rest : ℚ) / denominator := by
      rw [lt_div_iff₀ positive']
      linarith
    have most : (rest : ℚ) / denominator < 1 := (div_lt_one positive').mpr small
    refine .of_lt (abs_lt.mpr ?_)
    push_cast
    exact ⟨by linarith, by linarith⟩
  · next notBelow notAbove =>
    have same : (2 * rest : ℚ) = denominator := by
      exact_mod_cast Nat.le_antisymm (not_lt.mp notAbove) (not_lt.mp notBelow)
    have half : (rest : ℚ) / denominator = 1 / 2 := by
      rw [div_eq_iff positive'.ne']
      linarith
    rw [half]
    split
    · next even =>
      exact .of_even (abs_le.mpr ⟨by linarith, by linarith⟩) (Nat.even_iff.mpr even)
    · next odd =>
      refine .of_even (abs_le.mpr ?_) (Nat.even_add_one.mpr (mt Nat.even_iff.mp odd))
      push_cast
      exact ⟨by linarith, by linarith⟩

/-- Every number that is not negative has a nearest integer. -/
theorem exists_isNearest (nonnegative : 0 ≤ number) : ∃ integer, IsNearest number integer := by
  have quotient : ((number.num.toNat : ℕ) : ℚ) / number.den = number := by
    have whole : ((number.num.toNat : ℕ) : ℚ) = number.num := by
      exact_mod_cast Int.toNat_of_nonneg (Rat.num_nonneg.mpr nonnegative)
    rw [whole, Rat.num_div_den]
  exact ⟨_, quotient ▸ isNearest_roundHalfEven number.num.toNat number.den_pos⟩

/-- What is rounded to depends on the quotient alone. -/
theorem roundHalfEven_eq_of_isNearest {numerator : ℕ} (positive : 0 < denominator)
    (same : (numerator : ℚ) / denominator = number) (nearest : IsNearest number integer) :
    roundHalfEven numerator denominator = integer :=
  (same ▸ isNearest_roundHalfEven numerator positive).unique nearest

end BuildMonitor.Decimal
