import BuildMonitor.Artifact.SizeText
import BuildMonitor.Decimal.Reading
import BuildMonitor.Proofs.Decimal.Precision
import BuildMonitor.Proofs.Text.Numerals
import BuildMonitor.Proofs.Text.Split

/-!
# Sizes as they are shown

What is shown of a size is its number of hundredths in a unit: the nearest whole number of them, of
two equally near the even one. Dividing by 1024 loses nothing, so only two roundings are made, one
to 53 bits and one to hundredths; up to `2 ^ 53` the first makes no difference. Neither brings two
sizes out of order, and nor does the step from a unit to the next: `shown_size_faithful`.

Main definitions: `Shows`, `bytesDenoted?`. Main statement: `shown_size_faithful`.
-/

namespace BuildMonitor.Artifact

open BuildMonitor.Decimal BuildMonitor.Text

/-- The units of sizes, the least first; each is 1024 of the one before. -/
def units : List String := ["B", "KB", "MB", "GB", "TB"]

/-- Hundredths as a number with two decimals. -/
def decimalText (hundredths : ℕ) : String :=
  s!"{hundredths / 100}.{hundredths / 10 % 10}{hundredths % 10}"

/-- The text shows a number of bytes in one of some units: in the least, or there is one at least;
in the greatest, or there are fewer than 1024. -/
structure Shows (units : List String) (bytes : ℚ) (text : String) (index hundredths : ℕ) :
    Prop where
  reached : index = 0 ∨ 1024 ^ index ≤ bytes
  exhausted : index + 1 = units.length ∨ bytes < 1024 ^ (index + 1)
  nearest : IsNearest (bytes / 1024 ^ index * 100) hundredths
  spelled : ∃ unit, units[index]? = some unit ∧ text = s!"{decimalText hundredths} {unit}"

/-- The unit of a size is the greatest one that it reaches, or the least if it reaches none. -/
structure IsUnitOf (size index : ℕ) : Prop where
  known : index < units.length
  reached : index = 0 ∨ 1024 ^ index ≤ size
  greatest : ∀ other, other < units.length → 1024 ^ other ≤ size → other ≤ index

/-- The value of a decimal number. -/
def decimalValue (decimal : DecimalText) : ℚ :=
  ofDigits (decimal.whole ++ decimal.fraction) *
    10 ^ (decimal.exponent - (decimal.fraction.length : ℤ))

/-- The number of bytes that a text stands for: a decimal number, a blank and the name of a unit. -/
def bytesDenoted? (text : String) : Option ℚ :=
  match cutAtFirst ' ' text.toList with
  | (_, none) => none
  | (number, some unit) => do
    let decimal ← DecimalText.read? number
    let index ← units.idxOf? (String.ofList unit)
    return decimalValue decimal * 1024 ^ index

variable {mantissa : ℕ} {exponent : ℤ}

/-! ## The text -/

/-- A number below a hundred is written with two digits. -/
theorem toList_padded_two {rest : ℕ} (small : rest < 100) :
    (padded 2 rest).toList = Nat.toDigits 10 (rest / 10) ++ Nat.toDigits 10 (rest % 10) := by
  rw [padded, String.toList_ofList]
  by_cases single : rest < 10
  · rw [Nat.div_eq_of_lt single, Nat.mod_eq_of_lt single, Nat.toDigits_of_lt_base single]
    rfl
  · rw [Nat.toDigits_of_base_le (by decide) (by omega), Nat.toDigits_of_lt_base (by omega),
      Nat.toDigits_of_lt_base (by omega)]
    rfl

/-- The characters of a number of hundredths: what stands before the point, and two digits behind
it. -/
theorem toList_decimalText (hundredths : ℕ) :
    (decimalText hundredths).toList = Nat.toDigits 10 (hundredths / 100) ++
      '.' :: (Nat.toDigits 10 (hundredths / 10 % 10) ++ Nat.toDigits 10 (hundredths % 10)) := by
  simp [decimalText, toString, Nat.repr]

/-- A binary number is written as the number of hundredths that is nearest to it. -/
theorem hundredthsText_eq {hundredths : ℕ}
    (nearest : IsNearest (mantissa * 2 ^ exponent * 100) hundredths) :
    hundredthsText (.finite false mantissa exponent) = decimalText hundredths := by
  have ratio := Binary64.scaleByTwo_ratio mantissa exponent
  have rounded : roundHalfEven ((Binary64.scaleByTwo mantissa exponent).1 * 100)
      (Binary64.scaleByTwo mantissa exponent).2 = hundredths := by
    refine roundHalfEven_eq_of_isNearest (Binary64.scaleByTwo_pos mantissa exponent) ?_ nearest
    rw [← ratio]
    push_cast
    ring
  have rest : hundredths % 100 / 10 = hundredths / 10 % 10 := by omega
  have rest' : hundredths % 100 % 10 = hundredths % 10 := by omega
  rw [← String.toList_inj, hundredthsText, String.toList_ofList, toList_decimalText]
  rw [rounded, toList_padded_two (Nat.mod_lt _ (by decide)), rest, rest']
  rfl

/-! ## Reading the text -/

/-- Digits around a point are read as they are. -/
theorem read?_digits {whole fraction : List Char} (first : whole ≠ [])
    (digits : ∀ character ∈ whole, character.isDigit = true)
    (digits' : ∀ character ∈ fraction, character.isDigit = true) :
    DecimalText.read? (whole ++ '.' :: fraction) =
      some ⟨whole.map fun character => character.toNat - '0'.toNat,
        fraction.map fun character => character.toNat - '0'.toNat, 0⟩ := by
  have spanned : spanDigits (whole ++ '.' :: fraction) = _ := spanDigits_append digits (by simp)
  have spanned' : spanDigits (fraction ++ []) = _ := spanDigits_append digits' (by simp)
  rw [List.append_nil] at spanned'
  simp only [DecimalText.read?, spanned, spanned', readPower?]
  simp [first]

/-- Hundredths are read as what they are. -/
theorem exists_read?_decimalText (hundredths : ℕ) :
    ∃ decimal, DecimalText.read? (decimalText hundredths).toList = some decimal ∧
      decimalValue decimal = hundredths / 100 := by
  have single {digit : ℕ} (small : digit < 10) (value : ℕ) :
      Nat.ofDigitChars 10 (Nat.toDigits 10 digit) value = 10 * value + digit := by
    rw [Nat.toDigits_of_lt_base small, Nat.ofDigitChars_cons_digitChar_of_lt_ten small,
      Nat.ofDigitChars_nil]
  have tens : hundredths / 10 % 10 < 10 := Nat.mod_lt _ (by decide)
  have ones : hundredths % 10 < 10 := Nat.mod_lt _ (by decide)
  rw [toList_decimalText]
  refine ⟨_, read?_digits Nat.toDigits_ne_nil (isNumeral_toDigits _).digits ?_, ?_⟩
  · exact List.forall_mem_append.mpr ⟨(isNumeral_toDigits _).digits, (isNumeral_toDigits _).digits⟩
  · have value : 10 * (10 * (hundredths / 100) + hundredths / 10 % 10) + hundredths % 10 =
        hundredths := by omega
    rw [decimalValue, ← List.map_append, ofDigits_map, Nat.ofDigitChars_append,
      Nat.ofDigitChars_append, Nat.ofDigitChars_ten_toDigits, single tens, single ones, value,
      List.length_map, List.length_append, Nat.toDigits_of_lt_base tens,
      Nat.toDigits_of_lt_base ones]
    norm_num [zpow_neg, div_eq_mul_inv]

/-- Each unit has a name of its own. -/
theorem idxOf?_eq_of_getElem? {index : ℕ} {unit : String} (named : units[index]? = some unit) :
    units.idxOf? unit = some index := by
  have distinct : units.Nodup := by decide
  obtain ⟨known, rfl⟩ := List.getElem?_eq_some_iff.mp named
  refine List.idxOf?_eq_some_iff.mpr ⟨known, rfl, fun earlier less same => ?_⟩
  exact absurd (distinct.getElem_inj_iff.mp same) less.ne

variable {names : List String} {bytes more : ℚ} {text text' unit : String}
  {index index' hundredths hundredths' : ℕ}

namespace Shows

/-- A text that shows a size stands for the hundredths in their unit. -/
theorem bytesDenoted?_eq (shown : Shows units bytes text index hundredths) :
    bytesDenoted? text = some ((hundredths : ℚ) / 100 * 1024 ^ index) := by
  obtain ⟨unit, named, rfl⟩ := shown.spelled
  obtain ⟨decimal, read, value⟩ := exists_read?_decimalText hundredths
  have unbroken : ' ' ∉ (decimalText hundredths).toList := by
    have noDigit (number : ℕ) : ' ' ∉ Nat.toDigits 10 number := fun found =>
      absurd ((isNumeral_toDigits number).digits _ found) (by decide)
    simp [toList_decimalText, noDigit]
  have spelled : (decimalText hundredths ++ " " ++ unit).toList =
      (decimalText hundredths).toList ++ ' ' :: unit.toList := by
    simp
  change bytesDenoted? (decimalText hundredths ++ " " ++ unit) = _
  rw [bytesDenoted?, spelled, cutAtFirst_append unbroken, ← value]
  simp only [read, String.ofList_toList, idxOf?_eq_of_getElem? named]
  rfl

/-! ## Units -/

/-- What is shown of a number in some units is shown of the 1024-fold with a lesser unit in front.
-/
theorem next (shown : Shows names (bytes / 1024) text index hundredths) (enough : 1024 ≤ bytes)
    (unit : String) : Shows (unit :: names) bytes text (index + 1) hundredths := by
  refine ⟨Or.inr ?_, ?_, ?_, shown.spelled⟩
  · rw [pow_succ]
    rcases shown.reached with rfl | reached
    · simpa using enough
    · rwa [le_div_iff₀ (by norm_num)] at reached
  · refine shown.exhausted.imp (congrArg (· + 1)) fun fewer => ?_
    rw [div_lt_iff₀ (by norm_num)] at fewer
    rwa [pow_succ]
  · have nearest := shown.nearest
    rwa [div_div, ← pow_succ'] at nearest

/-- In any unit but the least, one at least is shown. -/
theorem le_hundredths (shown : Shows names bytes text index hundredths) (above : index ≠ 0) :
    100 ≤ hundredths := by
  have reached := shown.reached.resolve_left above
  have positive : (0 : ℚ) < 1024 ^ index := by positivity
  rw [← one_le_div positive] at reached
  exact (isNearest_natCast 100).mono shown.nearest (by push_cast; linarith)

/-- In any unit but the greatest, no more than 1024 are shown. -/
theorem hundredths_le (shown : Shows names bytes text index hundredths)
    (below : index + 1 ≠ names.length) : hundredths ≤ 102400 := by
  have fewer := shown.exhausted.resolve_left below
  have positive : (0 : ℚ) < 1024 ^ index := by positivity
  rw [pow_succ', ← div_lt_iff₀ positive] at fewer
  exact shown.nearest.mono (isNearest_natCast 102400) (by push_cast; linarith)

/-- What is shown in a lesser unit stands for no more. -/
private theorem le_of_index_lt (shown : Shows names bytes text index hundredths)
    (shown' : Shows names more text' index' hundredths') (lower : index < index')
    (known : index' < names.length) :
    (hundredths : ℚ) / 100 * 1024 ^ index ≤ hundredths' / 100 * 1024 ^ index' := by
  -- There are fewer than 1024 of the lesser unit, which make up one of the next at most.
  have positive (count : ℕ) : (0 : ℚ) < 1024 ^ count := by positivity
  have most : (hundredths : ℚ) ≤ 102400 := by exact_mod_cast shown.hundredths_le (by omega)
  have least : (100 : ℚ) ≤ hundredths' := by exact_mod_cast shown'.le_hundredths (by omega)
  calc (hundredths : ℚ) / 100 * 1024 ^ index
      ≤ 1024 * 1024 ^ index := mul_le_mul_of_nonneg_right (by linarith) (positive index).le
    _ = 1024 ^ (index + 1) := (pow_succ' 1024 index).symm
    _ ≤ 1024 ^ index' := pow_le_pow_right₀ (by norm_num) lower
    _ ≤ hundredths' / 100 * 1024 ^ index' :=
        le_mul_of_one_le_left (positive index').le (by linarith)

/-- A number that is not shown in the greatest unit it reaches is not less. -/
private theorem index_le (shown : Shows names bytes text index hundredths)
    (shown' : Shows names more text' index' hundredths') (least : bytes ≤ more)
    (known : index < names.length) : index ≤ index' := by
  by_contra higher
  have reached := shown.reached.resolve_left (by omega)
  have fewer := shown'.exhausted.resolve_left (by omega)
  have between : (1024 : ℚ) ^ index < 1024 ^ (index' + 1) := (reached.trans least).trans_lt fewer
  rw [pow_lt_pow_iff_right₀ (by norm_num)] at between
  omega

/-- The unit that is shown is one of the units. -/
theorem index_lt (shown : Shows names bytes text index hundredths) : index < names.length := by
  obtain ⟨_, named, -⟩ := shown.spelled
  exact (List.getElem?_eq_some_iff.mp named).1

/-- What is shown of a greater number stands for no less. -/
theorem mono (shown : Shows names bytes text index hundredths)
    (shown' : Shows names more text' index' hundredths') (least : bytes ≤ more) :
    (hundredths : ℚ) / 100 * 1024 ^ index ≤ hundredths' / 100 * 1024 ^ index' := by
  rcases (shown.index_le shown' least shown.index_lt).lt_or_eq with lower | rfl
  · exact shown.le_of_index_lt shown' lower shown'.index_lt
  · have le : hundredths ≤ hundredths' := shown.nearest.mono shown'.nearest (by gcongr)
    have le' : (hundredths : ℚ) ≤ hundredths' := by exact_mod_cast le
    gcongr

end Shows

/-- A value is shown in the first of some units if it is less than 1024 or there is no other. -/
theorem exists_shows_withUnit (mantissa : ℕ) (exponent : ℤ) (unit : String)
    (last : names = [] ∨ (mantissa : ℚ) * 2 ^ exponent < 1024) :
    ∃ hundredths, Shows (unit :: names) (mantissa * 2 ^ exponent)
      (withUnit (.finite false mantissa exponent) unit) 0 hundredths := by
  have nonnegative : (0 : ℚ) ≤ mantissa * 2 ^ exponent * 100 := by positivity
  obtain ⟨hundredths, nearest⟩ := exists_isNearest nonnegative
  refine ⟨hundredths, Or.inl rfl, ?_, ?_, unit, rfl, ?_⟩
  · rw [zero_add, pow_one]
    exact last.imp_left fun none => by rw [none, List.length_singleton]
  · rwa [pow_zero, div_one]
  · rw [withUnit, hundredthsText_eq nearest]

/-- Dividing from unit to unit shows the number in one of them. -/
theorem exists_shows_inUnit (smaller : List String) (least : 2 ^ 52 ≤ mantissa)
    (less : mantissa < 2 ^ 53) (room : Binary64.leastExponent + 10 * smaller.length ≤ exponent)
    (small : exponent ≤ Binary64.greatestExponent) :
    ∃ index hundredths, Shows (smaller ++ ["TB"]) (mantissa * 2 ^ exponent)
      (inUnit (.finite false mantissa exponent) smaller) index hundredths := by
  induction smaller generalizing exponent with
  | nil => exact ⟨0, exists_shows_withUnit mantissa exponent "TB" (Or.inl rfl)⟩
  | cons unit larger inductionHypothesis =>
    rw [inUnit]
    split
    · next below =>
      rw [Binary64.isBelow_iff] at below
      exact ⟨0, exists_shows_withUnit mantissa exponent unit (Or.inr (by exact_mod_cast below))⟩
    · next enough =>
      rw [Binary64.isBelow_iff, not_lt] at enough
      have kilo : 1024 = 2 ^ 10 := rfl
      have divided : (mantissa : ℚ) * 2 ^ (exponent - (10 : ℕ)) =
          mantissa * 2 ^ exponent / 1024 := by
        rw [zpow_sub₀ (by norm_num), mul_div_assoc]
        norm_num
      rw [List.length_cons] at room
      push_cast at room
      have room' : Binary64.leastExponent + 10 * larger.length ≤ exponent - (10 : ℕ) := by
        push_cast
        omega
      obtain ⟨index, hundredths, shown⟩ := inductionHypothesis room' (by omega)
      rw [divided] at shown
      rw [kilo, Binary64.overNatural_two_pow false least less (by push_cast; omega)
        (by push_cast; omega)]
      exact ⟨index + 1, hundredths, shown.next (by exact_mod_cast enough) unit⟩

/-- Of a size the number with 53 bits is shown in one of the units. -/
theorem exists_shows_sizeText {size : ℕ} (word : size < 2 ^ 64) :
    ∃ bytes index hundredths, RoundsTo size bytes ∧
      Shows units bytes (sizeText (some size)) index hundredths := by
  rcases Nat.eq_zero_or_pos size with rfl | positive
  · -- Zero has no full precision, and is shown before anything is divided.
    have nothing : IsNearest (0 / 1024 ^ 0 * 100) 0 := by simpa using isNearest_natCast 0
    rw [Nat.cast_zero]
    exact ⟨0, 0, 0, .zero, Or.inl rfl, Or.inr (by norm_num), nothing, "B", rfl, by decide⟩
  · have short : Nat.log2 size < 1023 :=
      ((Nat.log2_lt positive.ne').mpr word).trans (by decide)
    obtain ⟨mantissa, exponent, value, least, less, low, small, rounds⟩ :=
      Binary64.exists_ofInt_eq positive short
    have limit : Binary64.leastExponent = -1074 := rfl
    obtain ⟨index, hundredths, shown⟩ := exists_shows_inUnit ["B", "KB", "MB", "GB"] least less
      (by simp only [List.length_cons, List.length_nil]; omega) small
    rw [sizeText, value]
    exact ⟨mantissa * 2 ^ exponent, index, hundredths, rounds, shown⟩

/-- The unit that a size is shown in is its own. -/
theorem Shows.isUnitOf {size : ℕ} (shown : Shows units size text index hundredths) :
    IsUnitOf size index := by
  refine ⟨shown.index_lt, ?_, fun other known reached => ?_⟩
  · exact shown.reached.imp_right fun reached => by exact_mod_cast reached
  · by_contra lower
    have short : index + 1 ≠ units.length := by omega
    have fewer : size < 1024 ^ (index + 1) := by
      exact_mod_cast shown.exhausted.resolve_left short
    have more : 1024 ^ (index + 1) ≤ 1024 ^ other := Nat.pow_le_pow_right (by decide) (by omega)
    omega

/-- A size of at most `2 ^ 53` is shown in the greatest unit it reaches, with the nearest number of
hundredths, of two equally near the even one. The text of any size stands for a number of bytes, and
for no fewer than the text of a smaller size. -/
theorem shown_size_faithful (size : ℕ) (word : size < 2 ^ 64) :
    (size ≤ 2 ^ 53 → ∃ index unit hundredths, IsUnitOf size index ∧
      units[index]? = some unit ∧ IsNearest (size / 1024 ^ index * 100) hundredths ∧
      sizeText (some size) =
        s!"{hundredths / 100}.{hundredths / 10 % 10}{hundredths % 10} {unit}") ∧
      ∃ bytes, bytesDenoted? (sizeText (some size)) = some bytes ∧
        ∀ smaller ≤ size, ∃ fewer, bytesDenoted? (sizeText (some smaller)) = some fewer ∧
          fewer ≤ bytes := by
  obtain ⟨bytes, index, hundredths, rounds, shown⟩ := exists_shows_sizeText word
  refine ⟨fun exact_ => ?_, _, shown.bytesDenoted?_eq, fun smaller least => ?_⟩
  · rw [rounds.eq_of_le exact_] at shown
    obtain ⟨unit, named, spelled⟩ := shown.spelled
    exact ⟨index, unit, hundredths, shown.isUnitOf, named, shown.nearest, spelled⟩
  · obtain ⟨fewer, index', hundredths', rounds', shown'⟩ :=
      exists_shows_sizeText (least.trans_lt word)
    exact ⟨_, shown'.bytesDenoted?_eq,
      shown'.mono shown (rounds'.mono rounds (by exact_mod_cast least))⟩

/-- A size in the middle between two hundredths is shown with the even one. -/
theorem shown_size_faithful_of_middle : 1152 < 2 ^ 64 ∧ 1152 ≤ 2 ^ 53 ∧
    ∃ index unit hundredths, IsUnitOf 1152 index ∧ units[index]? = some unit ∧
      IsNearest ((1152 : ℕ) / 1024 ^ index * 100) hundredths ∧
      sizeText (some 1152) =
        s!"{hundredths / 100}.{hundredths / 10 % 10}{hundredths % 10} {unit}" :=
  ⟨by norm_num, by norm_num, (shown_size_faithful 1152 (by norm_num)).1 (by norm_num)⟩

example : sizeText (some 1152) = "1.12 KB" := by decide

end BuildMonitor.Artifact
