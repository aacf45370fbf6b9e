import BuildMonitor.Text.Utf8

/-!
# Reading bytes as characters

A scan carries at most one open character from byte to byte. An open character waits for a byte of
128 or more, so a line break ends it, and what stands behind a line break is read as if nothing
stood before it: `units_append_newline`. This holds of all bytes, broken parts included.

What was written as UTF-8 is read back: `units_encodeChars`. Both readings of `Text.Utf8` follow the
units.
-/

namespace BuildMonitor.Text.Utf8

/-! ## Open characters -/

/-- An open character as a scan meets it: it waits for a continuation byte, and no character that it
can become is an ASCII one. -/
structure Pending.Open (pending : Pending) : Prop where
  continues : 0x80 ≤ pending.low
  wide : 0x80 ≤ (pending.code * 64 + (pending.low - 0x80)) <<< (6 * pending.owed)

/-- The character a scan holds open, if any, is one that a scan can meet. -/
def Scan.Sound (scan : Scan) : Prop := ∀ pending, scan.pending = some pending → pending.Open

/-- A byte that opens a character leaves it open as a scan meets it. -/
theorem Pending.open_of_opening {byte : UInt8} {pending : Pending}
    (opened : opening byte = .more pending) : pending.Open := by
  have bounded := byte.toNat_lt
  unfold opening at opened
  simp only at opened
  repeat' split at opened
  all_goals cases opened
  all_goals constructor <;> simp [Nat.shiftLeft_eq] <;> omega

/-- The character that is still open after one more byte is as open as before. -/
theorem Pending.Open.next {pending : Pending} (isOpen : pending.Open) {owed byte : Nat}
    (owes : pending.owed = owed + 1) (above : pending.low ≤ byte) :
    Pending.Open ⟨owed, 0x80, 0xBF, pending.code * 64 + (byte - 0x80)⟩ := by
  refine ⟨Nat.le_refl _, ?_⟩
  have wide := isOpen.wide
  rw [owes] at wide
  have grown : pending.code * 64 + (pending.low - 0x80) ≤ pending.code * 64 + (byte - 0x80) := by
    omega
  have sixMore : 2 ^ (6 * (owed + 1)) = 64 * 2 ^ (6 * owed) := by
    rw [Nat.mul_succ, Nat.pow_add, Nat.mul_comm]
  simp only [Nat.sub_self, Nat.add_zero]
  rw [Nat.shiftLeft_eq, sixMore] at wide
  calc 0x80 ≤ (pending.code * 64 + (pending.low - 0x80)) * (64 * 2 ^ (6 * owed)) := wide
    _ ≤ (pending.code * 64 + (byte - 0x80)) * (64 * 2 ^ (6 * owed)) := Nat.mul_le_mul_right _ grown
    _ = ((pending.code * 64 + (byte - 0x80)) * 64) <<< (6 * owed) := by
      rw [Nat.shiftLeft_eq, Nat.mul_assoc]

namespace Scan

/-- A scan that has read nothing is sound. -/
theorem start_sound : start.Sound := by
  intro pending held
  cases held

/-- A scan is sound once it has read the first byte of a character. -/
theorem openWith_sound (done : List (Option Char)) (byte : UInt8) :
    (openWith done byte).Sound := by
  intro pending held
  unfold openWith at held
  split at held
  · cases held
  · next opened => cases held; exact Pending.open_of_opening opened
  · cases held

/-- A sound scan stays so with one byte more. -/
theorem push_sound {scan : Scan} (sound : scan.Sound) (byte : UInt8) : (scan.push byte).Sound := by
  unfold push
  split
  · exact openWith_sound _ _
  · next pending held =>
    simp only
    split
    · next fits =>
      split
      · intro _ none; cases none
      · next owed owes =>
        intro next held'
        cases held'
        exact (sound _ held).next owes fits.1
    · exact openWith_sound _ _

/-- A sound scan stays so with more bytes. -/
theorem foldl_sound {scan : Scan} (sound : scan.Sound) (bytes : List UInt8) :
    (bytes.foldl push scan).Sound := by
  induction bytes generalizing scan with
  | nil => exact sound
  | cons byte rest inductionHypothesis => exact inductionHypothesis (push_sound sound byte)

/-! ## What was read stays -/

/-- The scan with units put behind those it has read. -/
def after (scan : Scan) (done : List (Option Char)) : Scan := ⟨scan.done ++ done, scan.pending⟩

/-- The first byte of a character is read alike behind other units. -/
theorem openWith_append (done earlier : List (Option Char)) (byte : UInt8) :
    openWith (done ++ earlier) byte = (openWith done byte).after earlier := by
  unfold openWith
  split <;> rfl

/-- A byte is read alike behind other units. -/
theorem push_after (scan : Scan) (earlier : List (Option Char)) (byte : UInt8) :
    (scan.after earlier).push byte = (scan.push byte).after earlier := by
  obtain ⟨done, pending⟩ := scan
  cases pending with
  | none => exact openWith_append done earlier byte
  | some pending =>
    simp only [push, after]
    split
    · split <;> rfl
    · exact openWith_append (none :: done) earlier byte

/-- Bytes are read alike behind other units. -/
theorem foldl_after (bytes : List UInt8) (scan : Scan) (earlier : List (Option Char)) :
    bytes.foldl push (scan.after earlier) = (bytes.foldl push scan).after earlier := by
  induction bytes generalizing scan with
  | nil => rfl
  | cons byte rest inductionHypothesis =>
    rw [List.foldl_cons, push_after, inductionHypothesis, List.foldl_cons]

/-- The units behind which a scan was put come first. -/
theorem finish_after (scan : Scan) (earlier : List (Option Char)) :
    (scan.after earlier).finish = earlier.reverse ++ scan.finish := by
  unfold finish after
  cases scan.pending <;> simp

end Scan

/-! ## Line breaks -/

/-- A line break ends whatever is open and is read as itself. -/
theorem Scan.push_newline {scan : Scan} (sound : scan.Sound) :
    scan.push 10 = ⟨some '\n' :: scan.finish.reverse, none⟩ := by
  obtain ⟨done, pending⟩ := scan
  cases pending with
  | none => simp [push, finish, openWith, opening]
  | some pending =>
    have continues := (sound pending rfl).continues
    have outside : ¬ (pending.low ≤ (10 : UInt8).toNat ∧ (10 : UInt8).toNat ≤ pending.high) := by
      intro inside
      have small : pending.low ≤ 10 := inside.1
      omega
    simp only [push, if_neg outside]
    simp [finish, openWith, opening]

/-- The units of what stands before a line break, the line break, and what stands behind it. -/
theorem units_append_newline (before behind : List UInt8) :
    units (before ++ 10 :: behind) = units before ++ some '\n' :: units behind := by
  have sound := Scan.foldl_sound Scan.start_sound before
  have broken : ⟨some '\n' :: (before.foldl Scan.push Scan.start).finish.reverse, none⟩ =
      Scan.start.after (some '\n' :: (before.foldl Scan.push Scan.start).finish.reverse) := rfl
  simp only [units]
  rw [List.foldl_append, List.foldl_cons, Scan.push_newline sound, broken, Scan.foldl_after,
    Scan.finish_after]
  simp

/-- No bytes are no units. -/
@[simp] theorem units_nil : units [] = [] := rfl

private theorem finish_push_ne_nil (scan : Scan) (byte : UInt8) : (scan.push byte).finish ≠ [] := by
  obtain ⟨done, pending⟩ := scan
  have opened : ∀ done : List (Option Char), (Scan.openWith done byte).finish ≠ [] := by
    intro done
    unfold Scan.openWith
    split <;> simp [Scan.finish]
  cases pending with
  | none => exact opened done
  | some pending =>
    simp only [Scan.push]
    split
    · split <;> simp [Scan.finish]
    · exact opened _

/-- Where there are bytes there is a unit. -/
theorem units_eq_nil_iff (bytes : List UInt8) : units bytes = [] ↔ bytes = [] := by
  refine ⟨fun none => ?_, fun none => by rw [none, units_nil]⟩
  rcases List.eq_nil_or_concat bytes with empty | ⟨before, last, rfl⟩
  · exact empty
  · rw [units, List.concat_eq_append, List.foldl_append] at none
    exact absurd none (finish_push_ne_nil _ last)

/-- Only the number of the line feed names it: numbers that name no character name another. -/
private theorem eq_ten_of_ofNat {code : Nat} (named : Char.ofNat code = '\n') : code = 10 := by
  have number : (Char.ofNat code).toNat = 10 := congrArg Char.toNat named
  unfold Char.ofNat at number
  by_cases valid : code.isValidChar
  · rw [dif_pos valid] at number
    exact number
  · rw [dif_neg valid] at number
    cases number

private theorem opening_whole {byte : UInt8} {character : Char}
    (opened : opening byte = .whole character) : character = Char.ofNat byte.toNat := by
  unfold opening at opened
  simp only at opened
  repeat' split at opened
  all_goals cases opened
  rfl

private theorem newline_of_openWith {done : List (Option Char)} {byte : UInt8}
    (read : some '\n' ∈ (Scan.openWith done byte).done) : some '\n' ∈ done ∨ byte = 10 := by
  unfold Scan.openWith at read
  split at read
  · next character opened =>
    rcases List.mem_cons.mp read with same | earlier
    · have named : Char.ofNat byte.toNat = '\n' := by
        rw [← opening_whole opened]
        exact (Option.some.inj same).symm
      exact Or.inr (UInt8.toNat_inj.mp (eq_ten_of_ofNat named))
    · exact Or.inl earlier
  · exact Or.inl read
  · exact Or.inl (by simpa using read)

private theorem newline_of_push {scan : Scan} (sound : scan.Sound) {byte : UInt8}
    (read : some '\n' ∈ (scan.push byte).done) : some '\n' ∈ scan.done ∨ byte = 10 := by
  unfold Scan.push at read
  split at read
  · exact newline_of_openWith read
  · next pending held =>
    have isOpen := sound pending held
    simp only at read
    split at read
    · next fits =>
      split at read
      · next owes =>
        rcases List.mem_cons.mp read with same | earlier
        · have code := eq_ten_of_ofNat (Option.some.inj same).symm
          have wide := isOpen.wide
          rw [owes] at wide
          omega
        · exact Or.inl earlier
      · exact Or.inl read
    · rcases newline_of_openWith read with earlier | same
      · exact Or.inl (by simpa using earlier)
      · exact Or.inr same

private theorem newline_of_foldl {bytes : List UInt8} {scan : Scan} (sound : scan.Sound)
    (read : some '\n' ∈ (bytes.foldl Scan.push scan).done) :
    some '\n' ∈ scan.done ∨ (10 : UInt8) ∈ bytes := by
  induction bytes generalizing scan with
  | nil => exact Or.inl read
  | cons byte rest inductionHypothesis =>
    rcases inductionHypothesis (Scan.push_sound sound byte) read with now | later
    · rcases newline_of_push sound now with earlier | same
      · exact Or.inl earlier
      · exact Or.inr (by simp [same])
    · exact Or.inr (List.mem_cons_of_mem _ later)

/-- A line feed is read only where its byte stands. -/
theorem newline_mem_of_units {bytes : List UInt8} (read : some '\n' ∈ units bytes) :
    (10 : UInt8) ∈ bytes := by
  have scanned : some '\n' ∈ (bytes.foldl Scan.push Scan.start).done := by
    simp only [units, Scan.finish] at read
    split at read <;> simpa using read
  rcases newline_of_foldl Scan.start_sound scanned with earlier | here
  · cases earlier
  · exact here

/-! ## What was written is read back -/

/-- Characters are encoded one after the other. -/
@[simp] theorem encodeChars_cons (character : Char) (rest : List Char) :
    encodeChars (character :: rest) = String.utf8EncodeChar character ++ encodeChars rest := rfl

private theorem toNat_byte {number : Nat} (small : number < 256) :
    (UInt8.ofNat number).toNat = number := UInt8.toNat_ofNat_of_lt' small

private theorem opening_two {byte : UInt8} (low : 0xC2 ≤ byte.toNat) (high : byte.toNat < 0xE0) :
    opening byte = .more ⟨0, 0x80, 0xBF, byte.toNat - 0xC0⟩ := by
  simp only [opening]
  rw [if_neg (by omega), if_neg (by omega), if_pos high]

private theorem opening_three {byte : UInt8} (low : 0xE0 ≤ byte.toNat) (high : byte.toNat < 0xF0) :
    opening byte = .more ⟨1, if byte.toNat = 0xE0 then 0xA0 else 0x80,
      if byte.toNat = 0xED then 0x9F else 0xBF, byte.toNat - 0xE0⟩ := by
  simp only [opening]
  rw [if_neg (by omega), if_neg (by omega), if_neg (by omega)]
  by_cases first : byte.toNat = 0xE0
  · simp [first]
  · by_cases surrogates : byte.toNat = 0xED
    · simp [surrogates]
    · simp [first, surrogates, high]

private theorem opening_four {byte : UInt8} (low : 0xF0 ≤ byte.toNat) (high : byte.toNat < 0xF5) :
    opening byte = .more ⟨2, if byte.toNat = 0xF0 then 0x90 else 0x80,
      if byte.toNat = 0xF4 then 0x8F else 0xBF, byte.toNat - 0xF0⟩ := by
  simp only [opening]
  rw [if_neg (by omega), if_neg (by omega), if_neg (by omega), if_neg (by omega), if_neg (by omega),
    if_neg (by omega)]
  by_cases first : byte.toNat = 0xF0
  · simp [first]
  · by_cases last : byte.toNat = 0xF4
    · simp [last]
    · simp [first, last, show byte.toNat < 0xF4 by omega]

namespace Scan

private theorem push_first {done : List (Option Char)} {byte : UInt8} {pending : Pending}
    (opened : opening byte = .more pending) : push ⟨done, none⟩ byte = ⟨done, some pending⟩ := by
  simp only [push, openWith, opened]

private theorem push_middle {done : List (Option Char)} {byte : UInt8} {owed low high code : Nat}
    (fits : low ≤ byte.toNat ∧ byte.toNat ≤ high) :
    push ⟨done, some ⟨owed + 1, low, high, code⟩⟩ byte =
      ⟨done, some ⟨owed, 0x80, 0xBF, code * 64 + (byte.toNat - 0x80)⟩⟩ := by
  simp only [push, if_pos fits]

private theorem push_final (character : Char) {done : List (Option Char)} {byte : UInt8}
    {low high code : Nat} (fits : low ≤ byte.toNat ∧ byte.toNat ≤ high)
    (number : code * 64 + (byte.toNat - 0x80) = character.toNat) :
    push ⟨done, some ⟨0, low, high, code⟩⟩ byte = ⟨some character :: done, none⟩ := by
  simp only [push, if_pos fits, number, Char.ofNat_toNat]

/-- The bytes of a character are read as that character. -/
theorem foldl_push_utf8EncodeChar (character : Char) (done : List (Option Char)) :
    (String.utf8EncodeChar character).foldl push ⟨done, none⟩ = ⟨some character :: done, none⟩ := by
  have valid : character.toNat < 0xD800 ∨ 0xDFFF < character.toNat ∧ character.toNat < 0x110000 :=
    character.valid
  unfold String.utf8EncodeChar
  simp only [show character.val.toNat = character.toNat from rfl]
  split
  · next ascii =>
    have byte := toNat_byte (show character.toNat < 256 by omega)
    simp [push, openWith, opening, byte, Nat.lt_succ_of_le ascii]
  split
  · have first := toNat_byte (show character.toNat / 64 % 32 + 192 < 256 by omega)
    have last := toNat_byte (show character.toNat % 64 + 128 < 256 by omega)
    simp only [List.foldl_cons, List.foldl_nil]
    rw [push_first (opening_two (by omega) (by omega)), push_final character (by omega) (by omega)]
  split
  · have first := toNat_byte (show character.toNat / 4096 % 16 + 224 < 256 by omega)
    have second := toNat_byte (show character.toNat / 64 % 64 + 128 < 256 by omega)
    have last := toNat_byte (show character.toNat % 64 + 128 < 256 by omega)
    simp only [List.foldl_cons, List.foldl_nil]
    rw [push_first (opening_three (by omega) (by omega)),
      push_middle (by split <;> split <;> omega), push_final character (by omega) (by omega)]
  · have first := toNat_byte (show character.toNat / 262144 % 8 + 240 < 256 by omega)
    have second := toNat_byte (show character.toNat / 4096 % 64 + 128 < 256 by omega)
    have third := toNat_byte (show character.toNat / 64 % 64 + 128 < 256 by omega)
    have last := toNat_byte (show character.toNat % 64 + 128 < 256 by omega)
    simp only [List.foldl_cons, List.foldl_nil]
    rw [push_first (opening_four (by omega) (by omega)), push_middle (by split <;> split <;> omega),
      push_middle (by omega), push_final character (by omega) (by omega)]

end Scan

/-- Written characters are read back one by one. -/
theorem units_encodeChars (characters : List Char) :
    units (encodeChars characters) = characters.map some := by
  suffices scanned : ∀ done : List (Option Char),
      (encodeChars characters).foldl Scan.push ⟨done, none⟩ =
        ⟨(characters.map some).reverse ++ done, none⟩ by
    simp [units, Scan.start, Scan.finish, scanned]
  induction characters with
  | nil => intro done; rfl
  | cons character rest inductionHypothesis =>
    intro done
    rw [encodeChars_cons, List.foldl_append, Scan.foldl_push_utf8EncodeChar]
    simpa using inductionHypothesis (some character :: done)

/-! ## The strict reading -/

/-- A written text is read back as it was. -/
@[simp] theorem decode?_encode (text : String) : decode? (encode text) = some text := by
  simp [decode?, encode, units_encodeChars, allPresent?]

/-! ## The lenient reading -/

/-- A written text is read back as it was. -/
@[simp] theorem decodeLossy_encode (text : String) : decodeLossy (encode text) = text := by
  have same : ∀ characters : List Char,
      (characters.map some).map (·.getD replacement) = characters := by
    intro characters
    simp [List.map_map, Function.comp_def]
  rw [decodeLossy, encode, units_encodeChars, same, String.ofList_toList]

/-- No bytes are the empty text. -/
@[simp] theorem decodeLossy_nil : decodeLossy [] = "" := rfl

/-- Where there are bytes there is text. -/
theorem decodeLossy_eq_empty_iff (bytes : List UInt8) : decodeLossy bytes = "" ↔ bytes = [] := by
  simp [decodeLossy, units_eq_nil_iff]

/-- The lenient reading of what stands before a line break, the line break, and that of what stands
behind it. -/
theorem toList_decodeLossy_append_newline (before behind : List UInt8) :
    (decodeLossy (before ++ 10 :: behind)).toList =
      (decodeLossy before).toList ++ '\n' :: (decodeLossy behind).toList := by
  simp [decodeLossy, units_append_newline]

/-- Without a line break among the bytes there is none in the text. -/
theorem newline_not_mem_decodeLossy {bytes : List UInt8} (plain : (10 : UInt8) ∉ bytes) :
    '\n' ∉ (decodeLossy bytes).toList := by
  intro member
  simp only [decodeLossy, String.toList_ofList, List.mem_map] at member
  obtain ⟨unit, read, shown⟩ := member
  cases unit with
  | none => cases shown
  | some character =>
    cases shown
    exact plain (newline_mem_of_units read)

end BuildMonitor.Text.Utf8
