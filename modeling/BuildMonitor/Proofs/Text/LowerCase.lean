import Mathlib.Data.List.Forall2
import BuildMonitor.Text.LowerCase

/-!
# Words in any case

Many a character outside ASCII has a lower case, and that of two of them holds an ASCII letter: the
dotted capital I and the Kelvin sign. The first leaves its dot behind, so a text whose lower case is
all ASCII is ASCII itself, Kelvin signs apart: `ascii_or_kelvinSign_of_lowerBehind`. A word of small
letters without a `k` is therefore the lower case of those texts only that spell it in small and
capital letters: `lower_eq_iff_spellsWord`.

Main definition: `SpellsWord`.
-/

namespace BuildMonitor.Text

variable {character letter : Char} {characters letters : List Char} {text word : String}

/-! ## Letters of ASCII -/

/-- A capital letter is thirty-two below the small one, and any other character stays. -/
theorem toNat_toLower (character : Char) : character.toLower.toNat =
    if 65 ≤ character.toNat ∧ character.toNat ≤ 90 then character.toNat + 32
    else character.toNat := by
  by_cases capital : 65 ≤ character.toNat ∧ character.toNat ≤ 90
  · have lowered : character.toLower.val = character.val + 32 := congrArg Char.val (dif_pos capital)
    have small : character.val.toNat ≤ 90 := capital.2
    have distance : (32 : UInt32).toNat = 32 := rfl
    rw [if_pos capital, Char.toNat, Char.toNat, lowered, UInt32.toNat_add]
    omega
  · have stays : character.toLower = character := dif_neg capital
    rw [if_neg capital, stays]

/-- A small letter is thirty-two above the capital one, and any other character stays. -/
theorem toNat_toUpper (character : Char) : character.toUpper.toNat =
    if 97 ≤ character.toNat ∧ character.toNat ≤ 122 then character.toNat - 32
    else character.toNat := by
  by_cases small : 97 ≤ character.toNat ∧ character.toNat ≤ 122
  · obtain ⟨valid, raised⟩ :
        ∃ valid, character.toUpper = ⟨character.val + ('A'.val - 'a'.val), valid⟩ :=
      ⟨_, dif_pos small⟩
    have bounds : 97 ≤ character.val.toNat ∧ character.val.toNat ≤ 122 := small
    have distance : ('A'.val - 'a'.val).toNat = 2 ^ 32 - 32 := rfl
    rw [if_pos small, raised, Char.toNat, Char.toNat, UInt32.toNat_add]
    omega
  · have stays : character.toUpper = character := dif_neg small
    rw [if_neg small, stays]

/-- The small letters of ASCII by their codes. -/
theorem isLower_iff : character.isLower = true ↔
    97 ≤ character.toNat ∧ character.toNat ≤ 122 := by
  show (decide (97 ≤ character.toNat) && decide (character.toNat ≤ 122)) = true ↔ _
  rw [Bool.and_eq_true, decide_eq_true_eq, decide_eq_true_eq]

/-- What is in lower case stays. -/
theorem toLower_toLower (character : Char) : character.toLower.toLower = character.toLower := by
  refine Char.toNat_inj.mp ?_
  have stays : ¬ (65 ≤ character.toLower.toNat ∧ character.toLower.toNat ≤ 90) := by
    rw [toNat_toLower]
    split <;> omega
  rw [toNat_toLower, if_neg stays]

/-! ## Characters outside ASCII -/

/-- The sign of a unit of temperature, which is another character than the letter. -/
def kelvinSign : Char := Char.ofNat 0x212A

/-- All that a row of the table maps becomes a character outside ASCII. -/
def LeadsOutside (row : Nat × Nat × Nat × Int) : Prop :=
  0x80 ≤ row.1 + row.2.2.2 ∧
    (row.2.1 + row.2.2.2 < 0xD800 ∨
      0xDFFF < row.1 + row.2.2.2 ∧ row.2.1 + row.2.2.2 < 0x110000)

instance : DecidablePred LeadsOutside := fun _ => inferInstanceAs (Decidable (_ ∧ _))

/-- Of all rows that of the Kelvin sign alone leads into ASCII. -/
theorem leadsOutside_of_mem : ∀ row ∈ lowerCaseRows,
    LeadsOutside row ∨ row = (0x212A, 0x212A, 1, -8383) := by
  decide +kernel

/-- What such a row maps becomes a character outside ASCII. -/
theorem LeadsOutside.le_toNat {row : Nat × Nat × Nat × Int} {code : Nat}
    (outside : LeadsOutside row) (least : row.1 ≤ code) (greatest : code ≤ row.2.1) :
    0x80 ≤ (Char.ofNat ((code : Int) + row.2.2.2).toNat).toNat := by
  obtain ⟨above, scalar⟩ := outside
  have valid : ((code : Int) + row.2.2.2).toNat.isValidChar := by
    simp only [Nat.isValidChar]
    omega
  have code : (Char.ofNat ((code : Int) + row.2.2.2).toNat).toNat =
      ((code : Int) + row.2.2.2).toNat := by
    rw [Char.ofNat, dif_pos valid]
    rfl
  omega

/-- Outside ASCII the Kelvin sign alone becomes ASCII as a whole. -/
theorem exists_outside_of_lowerCharacter (outside : 0x80 ≤ character.toNat)
    (noKelvin : character ≠ kelvinSign) :
    ∃ lowered ∈ lowerCharacter character, 0x80 ≤ lowered.toNat := by
  rw [lowerCharacter]
  split
  · next ascii => exact absurd outside (Nat.not_le.mpr ascii)
  split
  · -- The dotted capital I becomes a letter and a dot, and the dot is not ASCII.
    exact ⟨Char.ofNat 0x307, List.mem_cons_of_mem _ List.mem_cons_self, by decide⟩
  split
  · next row found =>
    have fits := List.find?_some found
    simp only [Bool.and_eq_true, decide_eq_true_eq] at fits
    refine ⟨_, List.mem_singleton.mpr rfl, ?_⟩
    rcases leadsOutside_of_mem row (List.mem_of_find?_eq_some found) with leads | rfl
    · exact leads.le_toNat fits.1.1 fits.1.2
    · have code : character.toNat = kelvinSign.toNat := Nat.le_antisymm fits.1.2 fits.1.1
      exact absurd (Char.toNat_inj.mp code) noKelvin
  · exact ⟨character, List.mem_singleton.mpr rfl, outside⟩

/-- The neighbours make no difference to that: both forms of the sigma are outside ASCII. -/
theorem exists_outside_of_lowerBetween (outside : 0x80 ≤ character.toNat)
    (noKelvin : character ≠ kelvinSign) (before after : List Char) :
    ∃ lowered ∈ lowerBetween before character after, 0x80 ≤ lowered.toNat := by
  rw [lowerBetween]
  split
  · refine ⟨_, List.mem_singleton.mpr rfl, ?_⟩
    rw [lowerSigma]
    split <;> decide
  · exact exists_outside_of_lowerCharacter outside noKelvin

/-- Wherever a Kelvin sign stands, it becomes a letter. -/
theorem lowerBetween_kelvinSign (before after : List Char) :
    lowerBetween before kelvinSign after = ['k'] := by
  rw [lowerBetween, if_neg (by decide)]
  decide +kernel

/-! ## Characters behind others -/

/-- The lower case of characters holds that of each of them. -/
theorem exists_lowerBetween_subset (member : character ∈ characters) (before : List Char) :
    ∃ nearer after, lowerBetween nearer character after ⊆ lowerBehind before characters := by
  induction characters generalizing before with
  | nil => cases member
  | cons head tail ih =>
    rw [lowerBehind]
    rcases List.mem_cons.mp member with rfl | inTail
    · exact ⟨before, tail, List.subset_append_left _ _⟩
    · obtain ⟨nearer, after, held⟩ := ih inTail (head :: before)
      exact ⟨nearer, after, List.Subset.trans held (List.subset_append_right _ _)⟩

/-- Characters whose lower case is ASCII are ASCII, but for Kelvin signs, which leave a `k`. -/
theorem ascii_or_kelvinSign_of_lowerBehind (before : List Char)
    (ascii : ∀ lowered ∈ lowerBehind before characters, lowered.toNat < 0x80)
    (member : character ∈ characters) :
    character.toNat < 0x80 ∨ character = kelvinSign ∧ 'k' ∈ lowerBehind before characters := by
  obtain ⟨nearer, after, held⟩ := exists_lowerBetween_subset member before
  by_cases isKelvin : character = kelvinSign
  · rw [isKelvin, lowerBetween_kelvinSign] at held
    exact Or.inr ⟨isKelvin, held List.mem_cons_self⟩
  · refine Or.inl (Nat.lt_of_not_le fun outside => ?_)
    obtain ⟨lowered, becomes, stays⟩ :=
      exists_outside_of_lowerBetween outside isKelvin nearer after
    exact absurd (ascii lowered (held becomes)) (Nat.not_lt.mpr stays)

/-- Characters of ASCII come to lower case one by one. -/
theorem lowerBehind_of_ascii (ascii : ∀ character ∈ characters, character.toNat < 0x80)
    (before : List Char) : lowerBehind before characters = characters.map Char.toLower := by
  induction characters generalizing before with
  | nil => rfl
  | cons head tail ih =>
    obtain ⟨isAscii, areAscii⟩ := List.forall_mem_cons.mp ascii
    have noSigma : head ≠ 'Σ' := by
      rintro rfl
      exact absurd isAscii (by decide)
    rw [lowerBehind, lowerBetween, if_neg noSigma, lowerCharacter, if_pos isAscii, ih areAscii]
    rfl

/-! ## Words -/

/-- The text is the word, each of its letters small or capital. -/
def SpellsWord (text word : String) : Prop :=
  List.Forall₂ (fun character letter => character = letter ∨ character = letter.toUpper)
    text.toList word.toList

instance (text word : String) : Decidable (SpellsWord text word) :=
  inferInstanceAs (Decidable (List.Forall₂ _ _ _))

/-- A small letter is the lower case of itself and of the capital. -/
theorem toLower_eq_iff (small : letter.isLower = true) :
    character.toLower = letter ↔ character = letter ∨ character = letter.toUpper := by
  obtain ⟨least, greatest⟩ := isLower_iff.mp small
  rw [← Char.toNat_inj, ← Char.toNat_inj, ← Char.toNat_inj, toNat_toLower, toNat_toUpper]
  split <;> split <;> omega

/-- The lower case of a text is a word of small letters exactly if each character is the letter at
its place or the capital of it. -/
theorem map_toLower_eq_iff (small : ∀ letter ∈ letters, letter.isLower = true) :
    characters.map Char.toLower = letters ↔
      List.Forall₂ (fun character letter => character = letter ∨ character = letter.toUpper)
        characters letters := by
  induction characters generalizing letters with
  | nil => rw [List.map_nil, List.forall₂_nil_left_iff, eq_comm]
  | cons character rest ih =>
    cases letters with
    | nil => simp
    | cons letter others =>
      obtain ⟨isSmall, areSmall⟩ := List.forall_mem_cons.mp small
      rw [List.map_cons, List.cons.injEq, List.forall₂_cons, toLower_eq_iff isSmall, ih areSmall]

/-- What has a small letter for its lower case is ASCII. -/
theorem ascii_of_isLower_toLower (small : character.toLower.isLower = true) :
    character.toNat < 0x80 := by
  have bounds := isLower_iff.mp small
  rw [toNat_toLower] at bounds
  split at bounds <;> omega

/-- What spells a word of small letters is ASCII. -/
theorem SpellsWord.ascii (spells : SpellsWord text word)
    (small : ∀ letter ∈ word.toList, letter.isLower = true) :
    ∀ character ∈ text.toList, character.toNat < 0x80 := by
  intro character member
  have lowered : text.toList.map Char.toLower = word.toList := (map_toLower_eq_iff small).mpr spells
  exact ascii_of_isLower_toLower (small _ (lowered ▸ List.mem_map_of_mem member))

/-- A word of small letters without a `k` is the lower case of what spells it, and of nothing
else. -/
theorem lower_eq_iff_spellsWord (small : ∀ letter ∈ word.toList, letter.isLower = true)
    (noK : 'k' ∉ word.toList) : lower text = word ↔ SpellsWord text word := by
  rw [← String.toList_inj, lower, String.toList_ofList]
  constructor
  · intro lowered
    have ascii : ∀ character ∈ text.toList, character.toNat < 0x80 := by
      intro character member
      refine (ascii_or_kelvinSign_of_lowerBehind [] ?_ member).resolve_right ?_
      · rw [lowered]
        exact fun letter inWord =>
          Nat.lt_of_le_of_lt (isLower_iff.mp (small letter inWord)).2 (by decide)
      · rintro ⟨-, inWord⟩
        exact noK (lowered ▸ inWord)
    rw [lowerBehind_of_ascii ascii] at lowered
    exact (map_toLower_eq_iff small).mp lowered
  · intro spells
    rw [lowerBehind_of_ascii (spells.ascii small)]
    exact (map_toLower_eq_iff small).mpr spells

/-- The Kelvin sign is why a `k` is left out. -/
example : lower (String.singleton kelvinSign) = "k" ∧
    ¬ SpellsWord (String.singleton kelvinSign) "k" := by
  decide +kernel

end BuildMonitor.Text
