import BuildMonitor.Proofs.Text.Blanks
import BuildMonitor.Proofs.Text.Numerals

/-!
# Numbers with white space around them

Where a person or a script writes a number there may be white space around it, and a plus sign in
front of its digits. What is left of such a text when it is trimmed is the sign and the digits, and
it is left of no other text: `spellsNumber_iff`.

Main definition: `SpellsNumber`.
-/

namespace BuildMonitor.Text

/-- The characters are digits with the value, perhaps behind a plus sign, with white space around
them. -/
def SpellsNumber (characters : List Char) (value : Nat) : Prop :=
  ∃ before sign digits after, AllBlank before ∧ AllBlank after ∧ (sign = [] ∨ sign = ['+']) ∧
    IsNumeral digits value ∧ characters = before ++ (sign ++ digits) ++ after

variable {characters : List Char} {value : Nat}

/-- A digit is no white space. -/
theorem isBlank_of_isDigit {character : Char} (digit : character.isDigit = true) :
    isBlank character = false := by
  simp only [Char.isDigit, Bool.and_eq_true, decide_eq_true_eq, UInt32.le_iff_toNat_le] at digit
  have least : '0'.val.toNat = 48 := rfl
  have greatest : '9'.val.toNat = 57 := rfl
  have number : character.toNat = character.val.toNat := rfl
  simp only [isBlank, blankRanges, List.any_cons, List.any_nil, Bool.or_false, Bool.or_eq_false_iff,
    Bool.and_eq_false_iff, decide_eq_false_iff_not]
  omega

private theorem noBlank_append {sign digits : List Char} (signs : sign = [] ∨ sign = ['+'])
    (numeral : IsNumeral digits value) : NoBlank (sign ++ digits) := by
  intro character member
  rcases List.mem_append.mp member with inSign | inDigits
  · rcases signs with rfl | rfl
    · cases inSign
    · rw [List.mem_singleton.mp inSign]
      decide
  · exact isBlank_of_isDigit (numeral.digits character inDigits)

/-- A spelling of a number is a numeral, perhaps behind a plus sign, once the white space around it
is trimmed. -/
theorem spellsNumber_iff : SpellsNumber characters value ↔
    ∃ sign digits, (sign = [] ∨ sign = ['+']) ∧ IsNumeral digits value ∧
      trimBlanks characters = sign ++ digits := by
  constructor
  · rintro ⟨before, sign, digits, after, blankBefore, blankAfter, signs, numeral, spelled⟩
    exact ⟨sign, digits, signs, numeral, (trimBlanks_eq_iff (noBlank_append signs numeral)).mpr
      ⟨before, after, blankBefore, blankAfter, spelled⟩⟩
  · rintro ⟨sign, digits, signs, numeral, trimmed⟩
    obtain ⟨before, after, blankBefore, blankAfter, spelled⟩ :=
      (trimBlanks_eq_iff (noBlank_append signs numeral)).mp trimmed
    exact ⟨before, sign, digits, after, blankBefore, blankAfter, signs, numeral, spelled⟩

end BuildMonitor.Text
