import BuildMonitor.Proofs.Artifact.SizeText

/-!
# Sizes just below a unit

The unit of a size is chosen before its decimals are rounded. In a unit above the least the number
shown is one at least; in a unit below the greatest it is less than 1024, but for the sizes that lie
so close below the next unit that their decimals are rounded up to it: `JustBelow`. These are shown
as 1024 of the smaller unit: `justBelow_shown_as_1024`. There are some in each unit but the least,
as `justBelow_last` and `not_justBelow_zero` say, and nothing else is shown so:
`shown_number_in_unit`.

Main definition: `JustBelow`. Main statement: `shown_number_in_unit`.
-/

namespace BuildMonitor.Artifact

open BuildMonitor.Decimal

/-- What is missing from a size to the next unit is half a hundredth of its own unit at most. -/
def JustBelow (size index : ℕ) : Prop :=
  size < 1024 ^ (index + 1) ∧ 200 * 1024 ^ (index + 1) ≤ 200 * size + 1024 ^ index

instance (size index : ℕ) : Decidable (JustBelow size index) := instDecidableAnd

variable {names : List String} {bytes : ℚ} {text : String} {size index hundredths : ℕ}

/-- The number that is shown is rounded up to 1024 from half a hundredth below. -/
theorem Shows.eq_1024_iff (shown : Shows names bytes text index hundredths)
    (below : index + 1 ≠ names.length) :
    hundredths = 102400 ↔ 200 * 1024 ^ (index + 1) ≤ 200 * bytes + 1024 ^ index := by
  have positive : (0 : ℚ) < 1024 ^ index := by positivity
  have fewer := shown.exhausted.resolve_left below
  have nearest := shown.nearest
  rw [pow_succ'] at fewer ⊢
  have close : 102400 - 1 / 2 ≤ bytes / 1024 ^ index * 100 ↔
      200 * (1024 * 1024 ^ index) ≤ 200 * bytes + 1024 ^ index := by
    rw [← div_le_iff₀ (by norm_num), le_div_iff₀ positive]
    constructor <;> intro close <;> linarith
  rw [← close]
  constructor
  · rintro rfl
    have near := (abs_le.mp nearest.near).1
    push_cast at near
    linarith
  · intro least
    rw [← div_lt_iff₀ positive] at fewer
    refine nearest.unique (.of_even (abs_le.mpr ?_) (by decide))
    push_cast
    exact ⟨by linarith, by linarith⟩

/-- In any unit but the greatest a size is shown without loss of bits. -/
theorem Shows.bytes_eq (shown : Shows units bytes text index hundredths)
    (below : index + 1 < units.length) (rounds : RoundsTo size bytes) : bytes = size := by
  have fewer := shown.exhausted.resolve_left below.ne
  have low : index + 1 ≤ 4 := Nat.le_of_lt_succ below
  have few : bytes < 2 ^ 53 := fewer.trans <|
    calc (1024 : ℚ) ^ (index + 1) ≤ 1024 ^ 4 := pow_le_pow_right₀ (by norm_num) low
      _ < 2 ^ 53 := by norm_num
  have small : (size : ℚ) ≤ (2 ^ 53 : ℕ) := by exact_mod_cast (rounds.lt_of_lt few).le
  exact rounds.eq_of_le (by exact_mod_cast small)

/-- In every unit but the last the number shown reaches 1024 exactly if the size is just below the
next unit. -/
theorem Shows.eq_1024_iff_justBelow (shown : Shows units bytes text index hundredths)
    (below : index + 1 < units.length) (rounds : RoundsTo size bytes) :
    hundredths = 102400 ↔ JustBelow size index := by
  have fewer := shown.exhausted.resolve_left below.ne
  rw [shown.eq_1024_iff below.ne, JustBelow]
  rw [shown.bytes_eq below rounds] at fewer ⊢
  have fewer' : size < 1024 ^ (index + 1) := by exact_mod_cast fewer
  rw [and_iff_right fewer']
  exact_mod_cast Iff.rfl

/-- No size lies just below the second unit: the least unit has no parts. -/
theorem not_justBelow_zero : ¬ JustBelow size 0 := by
  rintro ⟨fewer, close⟩
  omega

/-- In any other unit the last size below the next one is so close to it. -/
theorem justBelow_last (above : 0 < index) : JustBelow (1024 ^ (index + 1) - 1) index := by
  have least : 1024 ^ 1 ≤ 1024 ^ index := Nat.pow_le_pow_right (by decide) above
  have next : 1024 ^ (index + 1) = 1024 * 1024 ^ index := pow_succ' 1024 index
  rw [JustBelow]
  omega

/-- The last size below a megabyte is shown as 1024 kilobytes. -/
theorem justBelow_shown_as_1024 :
    1048575 < 2 ^ 64 ∧ JustBelow 1048575 1 ∧ sizeText (some 1048575) = "1024.00 KB" :=
  ⟨by norm_num, justBelow_last Nat.one_pos, by decide⟩

/-- In any unit but the least, a size is shown as one at least. In any unit but the greatest, it is
shown as less than 1024, unless it lies just below the next unit; then it is shown as 1024. -/
theorem shown_number_in_unit (size : ℕ) (word : size < 2 ^ 64) :
    ∃ index unit hundredths, units[index]? = some unit ∧
      sizeText (some size) =
        s!"{hundredths / 100}.{hundredths / 10 % 10}{hundredths % 10} {unit}" ∧
      (0 < index → 100 ≤ hundredths) ∧
      (index + 1 < units.length → hundredths ≤ 102400 ∧
        (hundredths = 102400 ↔ 0 < index ∧ JustBelow size index)) := by
  obtain ⟨bytes, index, hundredths, rounds, shown⟩ := exists_shows_sizeText word
  obtain ⟨unit, named, spelled⟩ := shown.spelled
  refine ⟨index, unit, hundredths, named, spelled, fun above => shown.le_hundredths above.ne',
    fun below => ⟨shown.hundredths_le below.ne, ?_⟩⟩
  rw [shown.eq_1024_iff_justBelow below rounds]
  refine ⟨fun close => ⟨?_, close⟩, And.right⟩
  exact Nat.pos_of_ne_zero fun least => not_justBelow_zero (least ▸ close)

/-- What is shown of the least size that is shown as 1024 megabytes. -/
theorem shown_number_in_unit_of_least : 1073736582 < 2 ^ 64 ∧
    ∃ index unit hundredths, units[index]? = some unit ∧
      sizeText (some 1073736582) =
        s!"{hundredths / 100}.{hundredths / 10 % 10}{hundredths % 10} {unit}" ∧
      (0 < index → 100 ≤ hundredths) ∧
      (index + 1 < units.length → hundredths ≤ 102400 ∧
        (hundredths = 102400 ↔ 0 < index ∧ JustBelow 1073736582 index)) :=
  ⟨by norm_num, shown_number_in_unit 1073736582 (by norm_num)⟩

example : sizeText (some 1073736581) = "1023.99 MB" := by decide

end BuildMonitor.Artifact
