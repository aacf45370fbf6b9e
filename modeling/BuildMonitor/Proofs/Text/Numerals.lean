import BuildMonitor.Text.Integer

/-!
# What a numeral denotes

A numeral is one ASCII digit or more, behind a sign or none, and it denotes an integer however many
digits it has: `Denotes`. The readers of integers of a bounded range accept just the numerals that
denote an integer of the range, and give what is denoted: `readSigned_eq_ok_iff`,
`readUnsigned_eq_ok_iff`. So nothing wraps around, and no two integers are taken for one.

Main definitions: `IsNumeral`, `Denotes`.
-/

namespace BuildMonitor.Text

/-- The characters are digits, one at least, with the value. -/
structure IsNumeral (characters : List Char) (value : Nat) : Prop where
  ne_nil : characters ≠ []
  digits : ∀ character ∈ characters, character.isDigit = true
  value : Nat.ofDigitChars 10 characters 0 = value

/-- The characters are a numeral, with a sign or without, for the integer. -/
inductive Denotes : List Char → Int → Prop where
  | bare {characters : List Char} {value : Nat} (numeral : IsNumeral characters value) :
      Denotes characters value
  | plus {characters : List Char} {value : Nat} (numeral : IsNumeral characters value) :
      Denotes ('+' :: characters) value
  | minus {characters : List Char} {value : Nat} (numeral : IsNumeral characters value) :
      Denotes ('-' :: characters) (-value)

variable {characters : List Char} {value number limit : Nat} {overflow : IntegerError}

/-- No numeral begins with a character that is no digit. -/
theorem not_isNumeral_cons {sign : Char} (noDigit : sign.isDigit = false) :
    ¬ IsNumeral (sign :: characters) value := by
  intro numeral
  rw [numeral.digits sign List.mem_cons_self] at noDigit
  cases noDigit

/-- A numeral denotes one integer. -/
theorem Denotes.unique {first second : Int} (one : Denotes characters first)
    (other : Denotes characters second) : first = second := by
  cases one with
  | bare numeral =>
    cases other with
    | bare numeral' => rw [← numeral.value, numeral'.value]
    | plus => exact absurd numeral (not_isNumeral_cons rfl)
    | minus => exact absurd numeral (not_isNumeral_cons rfl)
  | plus numeral =>
    cases other with
    | bare numeral' => exact absurd numeral' (not_isNumeral_cons rfl)
    | plus numeral' => rw [← numeral.value, numeral'.value]
  | minus numeral =>
    cases other with
    | bare numeral' => exact absurd numeral' (not_isNumeral_cons rfl)
    | minus numeral' => rw [← numeral.value, numeral'.value]

/-- A number in decimal is a numeral for it. -/
theorem isNumeral_toDigits (value : Nat) : IsNumeral (Nat.toDigits 10 value) value where
  ne_nil := Nat.toDigits_ne_nil
  digits _ := Nat.isDigit_of_mem_toDigits (by decide) (by decide)
  value := Nat.ofDigitChars_toDigits (by decide) (by decide)

/-! ## Reading digits -/

/-- A digit has a value, and no other character has. -/
theorem digitValue?_eq (character : Char) : digitValue? character =
    if character.isDigit then some (character.toNat - '0'.toNat) else none := by
  have same : ('0' ≤ character ∧ character ≤ '9') ↔ character.isDigit = true := by
    simp [Char.isDigit, Char.le_def, UInt32.le_iff_toNat_le]
  simp only [digitValue?, same]

/-- A digit is put behind the value of those before it. -/
theorem ofDigitChars_cons (character : Char) (rest : List Char) (value : Nat) :
    Nat.ofDigitChars 10 (character :: rest) value =
      Nat.ofDigitChars 10 rest (value * 10 + (character.toNat - '0'.toNat)) := by
  rw [Nat.ofDigitChars, Nat.ofDigitChars, List.foldl_cons, Nat.mul_comm]

/-- Digits behind a value make it no smaller. -/
theorem le_ofDigitChars (characters : List Char) (value : Nat) :
    value ≤ Nat.ofDigitChars 10 characters value := by
  induction characters generalizing value with
  | nil => exact Nat.le_refl value
  | cons character rest inductionHypothesis =>
    rw [ofDigitChars_cons]
    have more := inductionHypothesis (value * 10 + (character.toNat - '0'.toNat))
    omega

/-- Digits are read when the value that they make up is in the range, and only then. -/
theorem readDigitsFrom_eq_ok_iff (small : value ≤ limit) :
    readDigitsFrom limit overflow value characters = .ok number ↔
      (∀ character ∈ characters, character.isDigit = true) ∧
        Nat.ofDigitChars 10 characters value = number ∧ number ≤ limit := by
  induction characters generalizing value with
  | nil =>
    have nothing : Nat.ofDigitChars 10 [] value = value := rfl
    rw [readDigitsFrom, nothing]
    constructor
    · rintro ⟨⟩
      exact ⟨nofun, rfl, small⟩
    · rintro ⟨-, rfl, -⟩
      rfl
  | cons character rest inductionHypothesis =>
    rw [readDigitsFrom, digitValue?_eq, ofDigitChars_cons, List.forall_mem_cons]
    cases isDigit : character.isDigit with
    | false => simp
    | true =>
      simp only [if_true, true_and]
      split
      · next fits => exact inductionHypothesis fits
      · next tooLarge =>
        -- The value never gets smaller again, so no digits that follow bring it back into range.
        have grown := le_ofDigitChars rest (value * 10 + (character.toNat - '0'.toNat))
        constructor
        · nofun
        · rintro ⟨-, rfl, fits⟩
          exact absurd (Nat.le_trans grown fits) tooLarge

/-- Digits are read exactly if they are a numeral within the limit. -/
theorem readDigits_eq_ok_iff : readDigits limit overflow characters = .ok number ↔
    IsNumeral characters number ∧ number ≤ limit := by
  unfold readDigits
  cases characters with
  | nil =>
    constructor
    · nofun
    · rintro ⟨numeral, -⟩
      exact absurd rfl numeral.ne_nil
  | cons character rest =>
    rw [List.isEmpty_cons, if_neg Bool.false_ne_true, readDigitsFrom_eq_ok_iff (Nat.zero_le _)]
    constructor
    · rintro ⟨digits, value, small⟩
      exact ⟨⟨List.cons_ne_nil _ _, digits, value⟩, small⟩
    · rintro ⟨⟨-, digits, value⟩, small⟩
      exact ⟨digits, value, small⟩

/-- Digits are split off as far as they go. -/
theorem spanDigits_append {rest : List Char}
    (digits : ∀ character ∈ characters, character.isDigit = true)
    (ends : ∀ character ∈ rest.head?, character.isDigit = false) :
    spanDigits (characters ++ rest) =
      (characters.map fun character => character.toNat - '0'.toNat, rest) := by
  induction characters with
  | nil =>
    cases rest with
    | nil => rfl
    | cons character others =>
      rw [List.nil_append, spanDigits, digitValue?_eq, ends character rfl]
      rfl
  | cons character others inductionHypothesis =>
    obtain ⟨first, later⟩ := List.forall_mem_cons.mp digits
    rw [List.cons_append, spanDigits, digitValue?_eq, first, inductionHypothesis later]
    rfl

/-- The value of digits is that of the characters for them. -/
theorem ofDigits_map (characters : List Char) :
    ofDigits (characters.map fun character => character.toNat - '0'.toNat) =
      Nat.ofDigitChars 10 characters 0 := by
  simp only [ofDigits, Nat.ofDigitChars, List.foldl_map, Nat.mul_comm]

/-! ## Reading integers -/

/-- The natural numbers that are read are those that the digits make up, behind a plus sign or not,
within the range. -/
theorem readUnsigned_eq_ok_iff : readUnsigned limit characters = .ok number ↔
    ∃ sign digits, (sign = [] ∨ sign = ['+']) ∧ IsNumeral digits number ∧
      characters = sign ++ digits ∧ number ≤ limit := by
  unfold readUnsigned
  split
  · constructor
    · nofun
    · rintro ⟨sign, digits, -, numeral, spelled, -⟩
      exact absurd (List.append_eq_nil_iff.mp spelled.symm).2 numeral.ne_nil
  · next digits =>
    rw [readDigits_eq_ok_iff]
    constructor
    · rintro ⟨numeral, small⟩
      exact ⟨['+'], digits, Or.inr rfl, numeral, rfl, small⟩
    · rintro ⟨sign, others, rfl | rfl, numeral, spelled, small⟩
      · rw [List.nil_append] at spelled
        subst spelled
        exact absurd numeral (not_isNumeral_cons rfl)
      · exact ⟨(List.cons.inj spelled).2 ▸ numeral, small⟩
  · next noPlus =>
    rw [readDigits_eq_ok_iff]
    constructor
    · rintro ⟨numeral, small⟩
      exact ⟨[], characters, Or.inl rfl, numeral, rfl, small⟩
    · rintro ⟨sign, digits, rfl | rfl, numeral, spelled, small⟩
      · exact ⟨spelled ▸ numeral, small⟩
      · exact absurd spelled (noPlus digits)

/-- Digits that are read give an integer, up to a sign that is put in front of it. -/
private theorem map_eq_ok_iff {outcome : Except IntegerError Nat} {sign : Int → Int}
    {integer : Int} :
    (do let value ← outcome; pure (value : Int) : Except IntegerError Int).map sign = .ok integer ↔
      ∃ value, outcome = .ok value ∧ sign value = integer := by
  cases outcome with
  | error => exact ⟨nofun, nofun⟩
  | ok value =>
    constructor
    · rintro ⟨⟩
      exact ⟨value, rfl, rfl⟩
    · rintro ⟨_, ⟨⟩, rfl⟩
      rfl

/-- The integers that are read are those denoted, within the range. -/
theorem readSigned_eq_ok_iff {integer : Int} : readSigned limit characters = .ok integer ↔
    Denotes characters integer ∧ -(limit + 1 : Int) ≤ integer ∧ integer ≤ limit := by
  unfold readSigned
  split
  · constructor
    · nofun
    · rintro ⟨denotes, -⟩
      cases denotes with
      | bare numeral => exact absurd rfl numeral.ne_nil
  · simp only [map_eq_ok_iff, readDigits_eq_ok_iff]
    constructor
    · rintro ⟨given, ⟨numeral, small⟩, rfl⟩
      exact ⟨.minus numeral, by omega, by omega⟩
    · rintro ⟨denotes, low, -⟩
      cases denotes with
      | bare numeral => exact absurd numeral (not_isNumeral_cons rfl)
      | minus numeral => exact ⟨_, ⟨numeral, by omega⟩, rfl⟩
  · simp only [map_eq_ok_iff, readDigits_eq_ok_iff]
    constructor
    · rintro ⟨given, ⟨numeral, small⟩, rfl⟩
      exact ⟨.plus numeral, by omega, by omega⟩
    · rintro ⟨denotes, -, high⟩
      cases denotes with
      | bare numeral => exact absurd numeral (not_isNumeral_cons rfl)
      | plus numeral => exact ⟨_, ⟨numeral, by omega⟩, rfl⟩
  · next noMinus noPlus =>
    simp only [map_eq_ok_iff, readDigits_eq_ok_iff]
    constructor
    · rintro ⟨given, ⟨numeral, small⟩, rfl⟩
      exact ⟨.bare numeral, by omega, by omega⟩
    · rintro ⟨denotes, -, high⟩
      cases denotes with
      | bare numeral => exact ⟨_, ⟨numeral, by omega⟩, rfl⟩
      | plus => exact absurd rfl (noPlus _)
      | minus => exact absurd rfl (noMinus _)

end BuildMonitor.Text
