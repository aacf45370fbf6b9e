import Mathlib.Algebra.Order.Field.Power
import BuildMonitor.Decimal.Binary64
import BuildMonitor.Proofs.Decimal.Rounding

/-!
# What binary64 arithmetic keeps

A positive number has a binade, the range between two powers of two that it lies in. The nearest
binary64 value has 53 bits, counted from there: `ofRatio_eq`. A number that needs no more bits is
kept as it is, and a quotient by a power of two needs no more than the dividend:
`overNatural_two_pow`.

To round to 53 bits is to take the nearest number that has so many, of two equally near the even
one: `RoundsTo`. What a number is rounded to does not fall when the number rises: `RoundsTo.mono`.

Main definitions: `InBinade`, `RoundsTo`.
-/

namespace BuildMonitor.Decimal

/-- The number has 53 bits in front of the point when it is counted in the power of two. -/
structure InBinade (exponent : ℤ) (number : ℚ) : Prop where
  least : 2 ^ 52 * 2 ^ exponent ≤ number
  less : number < 2 ^ 53 * 2 ^ exponent

/-- What a number comes to with 53 significant bits: the nearest such number, of two equally near
the even one. -/
inductive RoundsTo : ℚ → ℚ → Prop where
  | zero : RoundsTo 0 0
  | nearest {number : ℚ} {exponent : ℤ} {mantissa : ℕ} (binade : InBinade exponent number)
      (nearest : IsNearest (number / 2 ^ exponent) mantissa) :
      RoundsTo number (mantissa * 2 ^ exponent)

variable {number greater rounded rounded' : ℚ} {exponent other : ℤ}
  {numerator denominator mantissa : ℕ} {negative : Bool}

private theorem power_pos (exponent : ℤ) : (0 : ℚ) < 2 ^ exponent := zpow_pos (by norm_num) _

private theorem power_lt_iff : (2 : ℚ) ^ exponent < 2 ^ other ↔ exponent < other :=
  zpow_lt_zpow_iff_right₀ (by norm_num)

private theorem power_add (count : ℕ) (exponent : ℤ) :
    (2 : ℚ) ^ count * 2 ^ exponent = 2 ^ ((count : ℤ) + exponent) := by
  rw [zpow_add₀ (by norm_num), zpow_natCast]

namespace InBinade

/-- A number with bits in front of the point is positive. -/
theorem pos (binade : InBinade exponent number) : 0 < number :=
  lt_of_lt_of_le (mul_pos (by norm_num) (power_pos exponent)) binade.least

/-- A greater number has no lower binade. -/
theorem exponent_le (binade : InBinade exponent number) (binade' : InBinade other greater)
    (least : number ≤ greater) : exponent ≤ other := by
  have between := (binade.least.trans least).trans_lt binade'.less
  rw [power_add, power_add, power_lt_iff] at between
  push_cast at between
  omega

/-- The mantissa of a number in a binade has 53 bits, or is the least number that has more. -/
theorem mantissa_bounds (binade : InBinade exponent number)
    (nearest : IsNearest (number / 2 ^ exponent) mantissa) :
    2 ^ 52 ≤ mantissa ∧ mantissa ≤ 2 ^ 53 := by
  have positive := power_pos exponent
  constructor
  · refine (isNearest_natCast (2 ^ 52)).mono nearest ?_
    rw [le_div_iff₀ positive]
    exact_mod_cast binade.least
  · refine nearest.mono (isNearest_natCast (2 ^ 53)) ?_
    rw [div_le_iff₀ positive]
    exact_mod_cast binade.less.le

end InBinade

/-- The power of two between two binades is between the numbers that are rounded in them. -/
private theorem mantissa_le_of_exponent_lt {mantissa' : ℕ} (most : mantissa ≤ 2 ^ 53)
    (least : 2 ^ 52 ≤ mantissa') (lower : exponent < other) :
    (mantissa : ℚ) * 2 ^ exponent ≤ mantissa' * 2 ^ other :=
  calc (mantissa : ℚ) * 2 ^ exponent
      ≤ 2 ^ 53 * 2 ^ exponent :=
        mul_le_mul_of_nonneg_right (by exact_mod_cast most) (power_pos exponent).le
    _ = 2 ^ ((53 : ℕ) + exponent) := power_add 53 exponent
    _ ≤ 2 ^ ((52 : ℕ) + other) := zpow_le_zpow_right₀ (by norm_num) (by push_cast; omega)
    _ = 2 ^ 52 * 2 ^ other := (power_add 52 other).symm
    _ ≤ mantissa' * 2 ^ other :=
        mul_le_mul_of_nonneg_right (by exact_mod_cast least) (power_pos other).le

namespace RoundsTo

/-- What a greater number is rounded to is no less. -/
theorem mono (rounds : RoundsTo number rounded) (rounds' : RoundsTo greater rounded')
    (least : number ≤ greater) : rounded ≤ rounded' := by
  cases rounds with
  | zero =>
    cases rounds' with
    | zero => exact le_rfl
    | nearest => positivity
  | @nearest _ exponent mantissa binade nearest =>
    cases rounds' with
    | zero => exact absurd least (not_le.mpr binade.pos)
    | @nearest _ other mantissa' binade' nearest' =>
      rcases (binade.exponent_le binade' least).eq_or_lt with rfl | lower
      · have positive := power_pos exponent
        have le : mantissa ≤ mantissa' :=
          nearest.mono nearest' (div_le_div_of_nonneg_right least positive.le)
        exact mul_le_mul_of_nonneg_right (by exact_mod_cast le) positive.le
      · exact mantissa_le_of_exponent_lt (binade.mantissa_bounds nearest).2
          (binade'.mantissa_bounds nearest').1 lower

/-- There is one number that a number is rounded to. -/
theorem unique (rounds : RoundsTo number rounded) (rounds' : RoundsTo number rounded') :
    rounded = rounded' :=
  le_antisymm (rounds.mono rounds' le_rfl) (rounds'.mono rounds le_rfl)

/-- A number that has 53 bits is left as it is. -/
theorem eq_of_mantissa (rounds : RoundsTo number rounded) (least : 2 ^ 52 ≤ mantissa)
    (less : mantissa < 2 ^ 53) (same : number = mantissa * 2 ^ exponent) : rounded = number := by
  have binade : InBinade exponent number := by
    rw [same]
    exact ⟨mul_le_mul_of_nonneg_right (by exact_mod_cast least) (power_pos exponent).le,
      mul_lt_mul_of_pos_right (by exact_mod_cast less) (power_pos exponent)⟩
  have nearest : IsNearest (number / 2 ^ exponent) mantissa := by
    rw [same, mul_div_cancel_right₀ _ (power_pos exponent).ne']
    exact isNearest_natCast mantissa
  rw [rounds.unique (.nearest binade nearest), same]

/-- A whole number of 53 bits is left as it is. -/
theorem eq_of_le {number : ℕ} (rounds : RoundsTo number rounded) (small : number ≤ 2 ^ 53) :
    rounded = number := by
  rcases Nat.eq_zero_or_pos number with rfl | some
  · rw [Nat.cast_zero] at rounds ⊢
    exact rounds.unique .zero
  rcases small.eq_or_lt with rfl | less
  · have spelled : ((2 ^ 53 : ℕ) : ℚ) = (2 ^ 52 : ℕ) * 2 ^ (1 : ℤ) := by norm_num
    exact rounds.eq_of_mantissa le_rfl (by norm_num) spelled
  · have size : Nat.log2 number ≤ 52 := Nat.lt_succ_iff.mp ((Nat.log2_lt some.ne').mpr less)
    obtain ⟨count, counted⟩ := Nat.exists_eq_add_of_le size
    have spelled : (number : ℚ) = (number * 2 ^ count : ℕ) * 2 ^ (-(count : ℤ)) := by
      rw [zpow_neg, zpow_natCast]
      push_cast
      field_simp
    refine rounds.eq_of_mantissa ?_ ?_ spelled
    · rw [counted, Nat.pow_add]
      exact Nat.mul_le_mul_right _ (Nat.log2_self_le some.ne')
    · have most : number < 2 ^ (Nat.log2 number + 1) := Nat.lt_log2_self
      calc number * 2 ^ count
          < 2 ^ (Nat.log2 number + 1) * 2 ^ count :=
            Nat.mul_lt_mul_of_pos_right most (Nat.two_pow_pos count)
        _ = 2 ^ 53 := by
          rw [← Nat.pow_add]
          congr 1
          omega

/-- A number that rounds to less than `2 ^ 53` is less itself. -/
theorem lt_of_lt (rounds : RoundsTo number rounded) (small : rounded < 2 ^ 53) :
    number < 2 ^ 53 := by
  cases rounds with
  | zero => exact small
  | @nearest _ exponent mantissa binade nearest =>
    have least : (2 ^ 52 : ℚ) ≤ mantissa := by exact_mod_cast (binade.mantissa_bounds nearest).1
    have low : exponent ≤ 0 := by
      have less := (mul_le_mul_of_nonneg_right least (power_pos exponent).le).trans_lt small
      rw [power_add, ← zpow_natCast, power_lt_iff] at less
      push_cast at less
      omega
    calc number < 2 ^ 53 * 2 ^ exponent := binade.less
      _ ≤ 2 ^ 53 * 2 ^ (0 : ℤ) :=
        mul_le_mul_of_nonneg_left (zpow_le_zpow_right₀ (by norm_num) low) (by norm_num)
      _ = 2 ^ 53 := by rw [zpow_zero, mul_one]

end RoundsTo

namespace Binary64

/-- The denominator of a scaled number is positive. -/
theorem scaleByTwo_pos (value : ℕ) (exponent : ℤ) : 0 < (scaleByTwo value exponent).2 := by
  unfold scaleByTwo
  split
  · exact Nat.one_pos
  · rw [Nat.shiftLeft_eq, Nat.one_mul]
    exact Nat.two_pow_pos _

/-- The scaled number is the fraction that is given. -/
theorem scaleByTwo_ratio (value : ℕ) (exponent : ℤ) :
    ((scaleByTwo value exponent).1 : ℚ) / (scaleByTwo value exponent).2 = value * 2 ^ exponent := by
  unfold scaleByTwo
  split
  · next nonnegative =>
    obtain ⟨count, rfl⟩ := Int.eq_ofNat_of_zero_le nonnegative
    simp [Nat.shiftLeft_eq]
  · next isNegative =>
    obtain ⟨count, rfl⟩ : ∃ count : ℕ, exponent = -count := ⟨(-exponent).toNat, by omega⟩
    simp [Nat.shiftLeft_eq, zpow_neg, div_eq_mul_inv]

/-- A quotient is below the quotient of the next powers of two, and above that of the last. -/
private theorem quotient_between (some : 0 < numerator) (positive : 0 < denominator) :
    (2 : ℚ) ^ ((Nat.log2 numerator : ℤ) - Nat.log2 denominator - 1) < numerator / denominator ∧
      (numerator : ℚ) / denominator <
        2 ^ ((Nat.log2 numerator : ℤ) - Nat.log2 denominator + 1) := by
  have least : (2 : ℚ) ^ Nat.log2 numerator ≤ numerator := by
    exact_mod_cast Nat.log2_self_le some.ne'
  have most : (numerator : ℚ) < 2 ^ (Nat.log2 numerator + 1) := by exact_mod_cast Nat.lt_log2_self
  have least' : (2 : ℚ) ^ Nat.log2 denominator ≤ denominator := by
    exact_mod_cast Nat.log2_self_le positive.ne'
  have most' : (denominator : ℚ) < 2 ^ (Nat.log2 denominator + 1) := by
    exact_mod_cast Nat.lt_log2_self
  have positive' : (0 : ℚ) < denominator := by exact_mod_cast positive
  constructor
  · rw [lt_div_iff₀ positive']
    calc (2 : ℚ) ^ ((Nat.log2 numerator : ℤ) - Nat.log2 denominator - 1) * denominator
        < 2 ^ ((Nat.log2 numerator : ℤ) - Nat.log2 denominator - 1) *
            2 ^ (Nat.log2 denominator + 1) := mul_lt_mul_of_pos_left most' (power_pos _)
      _ = 2 ^ Nat.log2 numerator := by
        rw [mul_comm, power_add, ← zpow_natCast]
        congr 1
        push_cast
        omega
      _ ≤ numerator := least
  · rw [div_lt_iff₀ positive']
    calc (numerator : ℚ)
        < 2 ^ (Nat.log2 numerator + 1) := most
      _ = 2 ^ ((Nat.log2 numerator : ℤ) - Nat.log2 denominator + 1) * 2 ^ Nat.log2 denominator := by
        rw [mul_comm, power_add, ← zpow_natCast]
        congr 1
        push_cast
        omega
      _ ≤ 2 ^ ((Nat.log2 numerator : ℤ) - Nat.log2 denominator + 1) * denominator :=
        mul_le_mul_of_nonneg_left least' (power_pos _).le

/-- Whether a quotient reaches the binade of an exponent is told by whole numbers. -/
private theorem fits_iff (positive : 0 < denominator) (exponent : ℤ) :
    (scaleByTwo denominator exponent).1 <<< 52 ≤ numerator * (scaleByTwo denominator exponent).2 ↔
      2 ^ 52 * 2 ^ exponent ≤ (numerator : ℚ) / denominator := by
  have ratio := scaleByTwo_ratio denominator exponent
  have below : (0 : ℚ) < (scaleByTwo denominator exponent).2 := by
    exact_mod_cast scaleByTwo_pos denominator exponent
  have positive' : (0 : ℚ) < denominator := by exact_mod_cast positive
  rw [div_eq_iff below.ne'] at ratio
  rw [Nat.shiftLeft_eq, le_div_iff₀ positive', ← Nat.cast_le (α := ℚ), Nat.cast_mul, Nat.cast_mul,
    Nat.cast_pow, Nat.cast_ofNat]
  have scaled : (scaleByTwo denominator exponent).1 * (2 : ℚ) ^ 52 =
      2 ^ 52 * 2 ^ exponent * denominator * (scaleByTwo denominator exponent).2 := by
    rw [ratio]
    ring
  rw [scaled, mul_le_mul_iff_left₀ below]

/-- The exponent that is found is that of the binade. -/
theorem exponentFor_eq (positive : 0 < denominator)
    (binade : InBinade exponent ((numerator : ℚ) / denominator))
    (normal : leastExponent ≤ exponent) : exponentFor numerator denominator = exponent := by
  have some : 0 < numerator := by
    rcases Nat.eq_zero_or_pos numerator with rfl | some
    · exact absurd binade.pos (by simp)
    · exact some
  obtain ⟨above, below⟩ := quotient_between some positive
  have low := binade.least.trans_lt below
  have high := above.trans binade.less
  rw [power_add, power_lt_iff] at low high
  push_cast at low high
  unfold exponentFor
  dsimp only
  -- The first guess is the exponent or one too great.
  rcases (by omega : (Nat.log2 numerator : ℤ) - Nat.log2 denominator - 52 = exponent ∨
      (Nat.log2 numerator : ℤ) - Nat.log2 denominator - 52 = exponent + 1) with guess | guess
  · rw [guess, if_pos ((fits_iff positive _).mpr binade.least), max_eq_right normal]
  · have next : (2 : ℚ) ^ 52 * 2 ^ (exponent + 1) = 2 ^ 53 * 2 ^ exponent := by
      rw [zpow_add_one₀ (by norm_num)]
      ring
    have tooGreat : ¬ 2 ^ 52 * 2 ^ (exponent + 1) ≤ (numerator : ℚ) / denominator := by
      rw [next]
      exact not_le.mpr binade.less
    rw [guess, if_neg (mt (fits_iff positive _).mp tooGreat), add_sub_cancel_right,
      max_eq_right normal]

/-- The value of a quotient is its mantissa at the exponent of its binade; a mantissa with a bit too
many is halved. -/
theorem ofRatio_eq (positive : 0 < denominator)
    (binade : InBinade exponent ((numerator : ℚ) / denominator))
    (nearest : IsNearest ((numerator : ℚ) / denominator / 2 ^ exponent) mantissa)
    (normal : leastExponent ≤ exponent) (small : exponent < greatestExponent) :
    ofRatio negative numerator denominator =
      if mantissa = 2 ^ 53 then .finite negative (2 ^ 52) (exponent + 1)
      else .finite negative mantissa exponent := by
  have some : numerator ≠ 0 := by
    rintro rfl
    exact absurd binade.pos (by simp)
  have ratio := scaleByTwo_ratio denominator exponent
  have below : (0 : ℚ) < (scaleByTwo denominator exponent).2 := by
    exact_mod_cast scaleByTwo_pos denominator exponent
  have positive' : (0 : ℚ) < denominator := by exact_mod_cast positive
  have power := power_pos exponent
  rw [div_eq_iff below.ne'] at ratio
  have above : 0 < (scaleByTwo denominator exponent).1 := by
    have above' : (0 : ℚ) < (scaleByTwo denominator exponent).1 := by
      rw [ratio]
      positivity
    exact_mod_cast above'
  have rounded : roundHalfEven (numerator * (scaleByTwo denominator exponent).2)
      (scaleByTwo denominator exponent).1 = mantissa := by
    refine roundHalfEven_eq_of_isNearest above ?_ nearest
    rw [ratio]
    push_cast
    field_simp
  unfold ofRatio
  rw [if_neg some]
  dsimp only
  rw [exponentFor_eq positive binade normal, rounded]
  have carry : (1 <<< precision : ℕ) = 2 ^ 53 := rfl
  rw [carry]
  split
  · rw [if_neg (by omega)]
    rfl
  · rw [if_neg (by omega)]

/-- The value of a whole number is the number with 53 bits. -/
theorem exists_ofInt_eq {number : ℕ} (some : 0 < number) (small : Nat.log2 number < 1023) :
    ∃ mantissa exponent, ofInt number = .finite false mantissa exponent ∧ 2 ^ 52 ≤ mantissa ∧
      mantissa < 2 ^ 53 ∧ -52 ≤ exponent ∧ exponent ≤ greatestExponent ∧
      RoundsTo number (mantissa * 2 ^ exponent) := by
  obtain ⟨exponent, counted⟩ : ∃ exponent : ℤ, (Nat.log2 number : ℤ) = 52 + exponent :=
    ⟨Nat.log2 number - 52, by ring⟩
  have binade : InBinade exponent ((number : ℚ) / (1 : ℕ)) := by
    rw [Nat.cast_one, div_one]
    constructor
    · have least : (2 : ℚ) ^ Nat.log2 number ≤ number := by
        exact_mod_cast Nat.log2_self_le some.ne'
      rwa [power_add, Nat.cast_ofNat, ← counted, zpow_natCast]
    · have most : (number : ℚ) < 2 ^ (Nat.log2 number + 1) := by exact_mod_cast Nat.lt_log2_self
      rw [← zpow_natCast, Nat.cast_add, counted] at most
      rw [power_add]
      convert most using 2
      push_cast
      ring
  obtain ⟨mantissa, nearest⟩ := exists_isNearest (div_nonneg binade.pos.le (power_pos exponent).le)
  have limit : leastExponent = -1074 := rfl
  have limit' : greatestExponent = 971 := rfl
  have value := @ofRatio_eq exponent number 1 mantissa false Nat.one_pos binade nearest (by omega)
    (by omega)
  have same : ofInt number = ofRatio false number 1 := by
    rw [ofInt, Int.natAbs_natCast, decide_eq_false (by omega)]
  obtain ⟨least, most⟩ := binade.mantissa_bounds nearest
  rw [Nat.cast_one, div_one] at binade nearest
  rw [same, value]
  split
  · next full =>
    have halved : ((2 ^ 52 : ℕ) : ℚ) * 2 ^ (exponent + 1) = mantissa * 2 ^ exponent := by
      rw [full, zpow_add_one₀ (by norm_num)]
      push_cast
      ring
    exact ⟨2 ^ 52, exponent + 1, rfl, le_rfl, by norm_num, by omega, by omega,
      halved ▸ .nearest binade nearest⟩
  · next fits =>
    exact ⟨mantissa, exponent, rfl, least, by omega, by omega, by omega,
      .nearest binade nearest⟩

/-- A value of full precision is divided by a power of two in its exponent alone. -/
theorem overNatural_two_pow (negative : Bool) (least : 2 ^ 52 ≤ mantissa) (less : mantissa < 2 ^ 53)
    {count : ℕ} (normal : leastExponent ≤ exponent - count)
    (small : exponent - count < greatestExponent) :
    (finite negative mantissa exponent).overNatural (2 ^ count) =
      .finite negative mantissa (exponent - count) := by
  have ratio : ((((scaleByTwo mantissa exponent).1 * 1 : ℕ) : ℚ) /
      (((scaleByTwo mantissa exponent).2 * 2 ^ count : ℕ) : ℚ)) =
        mantissa * 2 ^ (exponent - count) := by
    rw [zpow_sub₀ (by norm_num), zpow_natCast, ← mul_div_assoc, ← scaleByTwo_ratio]
    push_cast
    rw [mul_one, div_div]
  have power := power_pos (exponent - count)
  have binade : InBinade (exponent - count) (mantissa * 2 ^ (exponent - (count : ℤ))) :=
    ⟨mul_le_mul_of_nonneg_right (by exact_mod_cast least) power.le,
      mul_lt_mul_of_pos_right (by exact_mod_cast less) power⟩
  have nearest : IsNearest (mantissa * 2 ^ (exponent - (count : ℤ)) / 2 ^ (exponent - (count : ℤ)))
      mantissa := by
    rw [mul_div_cancel_right₀ _ power.ne']
    exact isNearest_natCast mantissa
  have positive : 0 < (scaleByTwo mantissa exponent).2 * 2 ^ count :=
    Nat.mul_pos (scaleByTwo_pos mantissa exponent) (Nat.two_pow_pos count)
  rw [← ratio] at binade nearest
  rw [overNatural, scaledBy, ofRatio_eq positive binade nearest normal small, if_neg less.ne]

/-- A finite number is compared with a bound by its value. -/
theorem isBelow_iff (mantissa : ℕ) (exponent : ℤ) (bound : ℕ) :
    (finite false mantissa exponent).isBelow bound = true ↔
      (mantissa : ℚ) * 2 ^ exponent < bound := by
  have below : (0 : ℚ) < (scaleByTwo mantissa exponent).2 := by
    exact_mod_cast scaleByTwo_pos mantissa exponent
  rw [← scaleByTwo_ratio, div_lt_iff₀ below, isBelow]
  simp only [Bool.false_and, Bool.false_or, decide_eq_true_eq]
  exact_mod_cast Iff.rfl

end Binary64

end BuildMonitor.Decimal
