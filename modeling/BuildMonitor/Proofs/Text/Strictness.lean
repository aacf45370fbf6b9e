import Mathlib.Data.List.Induction
import BuildMonitor.Proofs.Text.Decoding

/-!
# What the strict reading accepts

The bytes that are read strictly as a text are the bytes that the text is written as, and no others:
`decode?_eq_some_iff`. Overlong forms, surrogates and characters that are cut short are broken
parts, so no two sequences of bytes are read as one text.

Main definition: `Pending.Begun`.
-/

namespace BuildMonitor.Text.Utf8

/-- The bytes by which a scan has come to hold a character open. -/
inductive Pending.Begun : Pending → List UInt8 → Prop where
  | opened {byte : UInt8} {pending : Pending} (opened : opening byte = .more pending) :
      Begun pending [byte]
  | continued {owed low high code : Nat} {begun : List UInt8} {byte : UInt8}
      (earlier : Begun ⟨owed + 1, low, high, code⟩ begun)
      (fits : low ≤ byte.toNat ∧ byte.toNat ≤ high) :
      Begun ⟨owed, 0x80, 0xBF, code * 64 + (byte.toNat - 0x80)⟩ (begun ++ [byte])

/-! ## The bytes of one character -/

private theorem val_ofNat {code : Nat} (valid : code.isValidChar) :
    (Char.ofNat code).val.toNat = code := by
  rw [Char.ofNat, dif_pos valid]
  rfl

private theorem byte_eq {byte : UInt8} {number : Nat} (same : byte.toNat = number) :
    UInt8.ofNat number = byte := by
  rw [← same, UInt8.ofNat_toNat]

private theorem utf8EncodeChar_one {byte : UInt8} (small : byte.toNat < 0x80) :
    String.utf8EncodeChar (Char.ofNat byte.toNat) = [byte] := by
  have valid : byte.toNat.isValidChar := Or.inl (by omega)
  simp only [String.utf8EncodeChar, val_ofNat valid]
  rw [if_pos (by omega)]
  exact congrArg (· :: []) (byte_eq rfl)

private theorem utf8EncodeChar_two {first last : UInt8}
    (lead : 0xC2 ≤ first.toNat ∧ first.toNat < 0xE0)
    (tail : 0x80 ≤ last.toNat ∧ last.toNat ≤ 0xBF) :
    String.utf8EncodeChar (Char.ofNat ((first.toNat - 0xC0) * 64 + (last.toNat - 0x80))) =
      [first, last] := by
  have valid : ((first.toNat - 0xC0) * 64 + (last.toNat - 0x80)).isValidChar := Or.inl (by omega)
  simp only [String.utf8EncodeChar, val_ofNat valid]
  rw [if_neg (by omega), if_pos (by omega)]
  rw [@byte_eq first _ (by omega), @byte_eq last _ (by omega)]

private theorem utf8EncodeChar_three {first second last : UInt8}
    (lead : 0xE0 ≤ first.toNat ∧ first.toNat < 0xF0)
    (middle : 0x80 ≤ second.toNat ∧ second.toNat ≤ 0xBF)
    (tail : 0x80 ≤ last.toNat ∧ last.toNat ≤ 0xBF)
    (notOverlong : first.toNat = 0xE0 → 0xA0 ≤ second.toNat)
    (noSurrogate : first.toNat = 0xED → second.toNat ≤ 0x9F) :
    String.utf8EncodeChar (Char.ofNat (((first.toNat - 0xE0) * 64 + (second.toNat - 0x80)) * 64 +
      (last.toNat - 0x80))) = [first, second, last] := by
  have valid : (((first.toNat - 0xE0) * 64 + (second.toNat - 0x80)) * 64 +
      (last.toNat - 0x80)).isValidChar := by
    simp only [Nat.isValidChar]
    omega
  simp only [String.utf8EncodeChar, val_ofNat valid]
  rw [if_neg (by omega), if_neg (by omega), if_pos (by omega)]
  rw [@byte_eq first _ (by omega), @byte_eq second _ (by omega),
    @byte_eq last _ (by omega)]

private theorem utf8EncodeChar_four {first second third last : UInt8}
    (lead : 0xF0 ≤ first.toNat ∧ first.toNat < 0xF5)
    (second_fits : 0x80 ≤ second.toNat ∧ second.toNat ≤ 0xBF)
    (third_fits : 0x80 ≤ third.toNat ∧ third.toNat ≤ 0xBF)
    (tail : 0x80 ≤ last.toNat ∧ last.toNat ≤ 0xBF)
    (notOverlong : first.toNat = 0xF0 → 0x90 ≤ second.toNat)
    (notBeyond : first.toNat = 0xF4 → second.toNat ≤ 0x8F) :
    String.utf8EncodeChar (Char.ofNat ((((first.toNat - 0xF0) * 64 + (second.toNat - 0x80)) * 64 +
      (third.toNat - 0x80)) * 64 + (last.toNat - 0x80))) = [first, second, third, last] := by
  have valid : ((((first.toNat - 0xF0) * 64 + (second.toNat - 0x80)) * 64 +
      (third.toNat - 0x80)) * 64 + (last.toNat - 0x80)).isValidChar := by
    simp only [Nat.isValidChar]
    omega
  simp only [String.utf8EncodeChar, val_ofNat valid]
  rw [if_neg (by omega), if_neg (by omega), if_neg (by omega)]
  rw [@byte_eq first _ (by omega), @byte_eq second _ (by omega),
    @byte_eq third _ (by omega), @byte_eq last _ (by omega)]

/-! ## Characters that are open -/

/-- A byte that is a character by itself is an ASCII one. -/
private theorem opening_whole_cases {byte : UInt8} {character : Char}
    (opened : opening byte = .whole character) :
    byte.toNat < 0x80 ∧ character = Char.ofNat byte.toNat := by
  unfold opening at opened
  simp only at opened
  repeat' split at opened
  all_goals cases opened
  exact ⟨by assumption, rfl⟩

/-- What a byte that opens a longer character says, by the number of bytes that are due. -/
private theorem opening_more_cases {byte : UInt8} {pending : Pending}
    (opened : opening byte = .more pending) :
    (0xC2 ≤ byte.toNat ∧ byte.toNat < 0xE0 ∧ pending = ⟨0, 0x80, 0xBF, byte.toNat - 0xC0⟩) ∨
    (0xE0 ≤ byte.toNat ∧ byte.toNat < 0xF0 ∧ ∃ low high, 0x80 ≤ low ∧ high ≤ 0xBF ∧
      (byte.toNat = 0xE0 → low = 0xA0) ∧ (byte.toNat = 0xED → high = 0x9F) ∧
      pending = ⟨1, low, high, byte.toNat - 0xE0⟩) ∨
    (0xF0 ≤ byte.toNat ∧ byte.toNat < 0xF5 ∧ ∃ low high, 0x80 ≤ low ∧ high ≤ 0xBF ∧
      (byte.toNat = 0xF0 → low = 0x90) ∧ (byte.toNat = 0xF4 → high = 0x8F) ∧
      pending = ⟨2, low, high, byte.toNat - 0xF0⟩) := by
  unfold opening at opened
  simp only at opened
  repeat' split at opened
  all_goals cases opened
  · exact Or.inl ⟨by omega, by omega, rfl⟩
  · next first => exact Or.inr (Or.inl ⟨by omega, by omega, 0xA0, 0xBF, by simp [first]⟩)
  · next surrogates => exact Or.inr (Or.inl ⟨by omega, by omega, 0x80, 0x9F, by simp [surrogates]⟩)
  · exact Or.inr (Or.inl
      ⟨by omega, by omega, 0x80, 0xBF, by omega, by omega, by omega, by omega, rfl⟩)
  · next first => exact Or.inr (Or.inr ⟨by omega, by omega, 0x90, 0xBF, by simp [first]⟩)
  · exact Or.inr (Or.inr
      ⟨by omega, by omega, 0x80, 0xBF, by omega, by omega, by omega, by omega, rfl⟩)
  · next last => exact Or.inr (Or.inr ⟨by omega, by omega, 0x80, 0x8F, by simp [last]⟩)

/-- Three bytes at most are due behind the first. -/
private theorem Pending.Begun.owed_le {pending : Pending} {begun : List UInt8}
    (held : Begun pending begun) : pending.owed ≤ 2 := by
  induction held with
  | opened opened =>
    obtain ⟨-, -, rfl⟩ | ⟨-, -, low, high, -, -, -, -, rfl⟩ | ⟨-, -, low, high, -, -, -, -, rfl⟩ :=
      opening_more_cases opened
    all_goals simp
  | continued _ _ inductionHypothesis => exact Nat.le_of_succ_le inductionHypothesis

/-- The last byte that is due makes up the bytes of the character that is then read. -/
theorem Pending.Begun.utf8EncodeChar_eq {low high code : Nat} {begun : List UInt8} {byte : UInt8}
    (held : Begun ⟨0, low, high, code⟩ begun) (fits : low ≤ byte.toNat ∧ byte.toNat ≤ high) :
    String.utf8EncodeChar (Char.ofNat (code * 64 + (byte.toNat - 0x80))) = begun ++ [byte] := by
  cases held with
  | opened opened =>
    obtain ⟨least, most, same⟩ | ⟨-, -, _, _, -, -, -, -, same⟩ | ⟨-, -, _, _, -, -, -, -, same⟩ :=
      opening_more_cases opened
    all_goals cases same
    exact utf8EncodeChar_two ⟨least, most⟩ fits
  | continued earlier fits' =>
    cases earlier with
    | opened opened =>
      obtain ⟨-, -, same⟩ | ⟨least, most, _, _, continues, ends, overlong, surrogate, same⟩ |
        ⟨-, -, _, _, -, -, -, -, same⟩ := opening_more_cases opened
      all_goals cases same
      exact utf8EncodeChar_three ⟨least, most⟩ (by omega) fits (by omega) (by omega)
    | continued earlier fits'' =>
      cases earlier with
      | opened opened =>
        obtain ⟨-, -, same⟩ | ⟨-, -, _, _, -, -, -, -, same⟩ |
          ⟨least, most, _, _, continues, ends, overlong, beyond, same⟩ := opening_more_cases opened
        all_goals cases same
        exact utf8EncodeChar_four ⟨least, most⟩ (by omega) fits' fits (by omega) (by omega)
      | continued earlier _ =>
        have few : 3 ≤ 2 := earlier.owed_le
        omega

/-! ## What was read is what was written -/

namespace Scan

/-- A scan has read bytes, none of them broken: they are those of the characters that were read and
those of the one that is open. -/
inductive Reads : Scan → List UInt8 → Prop where
  | closed (characters : List Char) :
      Reads ⟨(characters.map some).reverse, none⟩ (encodeChars characters)
  | opened (characters : List Char) {pending : Pending} {begun : List UInt8}
      (held : pending.Begun begun) :
      Reads ⟨(characters.map some).reverse, some pending⟩ (encodeChars characters ++ begun)

/-- A broken part is never forgotten. -/
theorem none_mem_push {scan : Scan} (broken : none ∈ scan.done) (byte : UInt8) :
    none ∈ (scan.push byte).done := by
  have opened : ∀ {done : List (Option Char)}, none ∈ done → none ∈ (openWith done byte).done := by
    intro done broken
    unfold openWith
    split <;> simp [broken]
  unfold push
  split
  · exact opened broken
  · simp only
    split
    · split <;> simp [broken]
    · exact opened (by simp [broken])

private theorem closed_concat (characters : List Char) (character : Char) :
    Reads ⟨some character :: (characters.map some).reverse, none⟩
      (encodeChars characters ++ String.utf8EncodeChar character) := by
  have read := Reads.closed (characters ++ [character])
  simpa [encodeChars] using read

/-- One more byte is part of a character, or something is broken. -/
theorem Reads.push {scan : Scan} {bytes : List UInt8} (reads : scan.Reads bytes) (byte : UInt8) :
    none ∈ (scan.push byte).done ∨ (scan.push byte).Reads (bytes ++ [byte]) := by
  cases reads with
  | closed characters =>
    simp only [Scan.push, openWith]
    split
    · next character whole =>
      obtain ⟨small, rfl⟩ := opening_whole_cases whole
      rw [← utf8EncodeChar_one small]
      exact Or.inr (closed_concat characters _)
    · next pending more => exact Or.inr (.opened characters (.opened more))
    · exact Or.inl List.mem_cons_self
  | @opened characters pending begun held =>
    obtain ⟨owed, low, high, code⟩ := pending
    by_cases fits : low ≤ byte.toNat ∧ byte.toNat ≤ high
    · right
      rw [List.append_assoc]
      simp only [Scan.push, if_pos fits]
      cases owed with
      | zero =>
        rw [← held.utf8EncodeChar_eq fits]
        exact closed_concat characters _
      | succ owed => exact .opened characters (.continued held fits)
    · left
      simp only [Scan.push, if_neg fits, openWith]
      split <;> simp

/-- All that is read is part of a character, or something is broken. -/
theorem reads_foldl (bytes : List UInt8) :
    none ∈ (bytes.foldl push start).done ∨ (bytes.foldl push start).Reads bytes := by
  induction bytes using List.reverseRecOn with
  | nil => exact Or.inr (.closed [])
  | append_singleton earlier byte inductionHypothesis =>
    rw [List.foldl_append, List.foldl_cons, List.foldl_nil]
    rcases inductionHypothesis with broken | reads
    · exact Or.inl (none_mem_push broken byte)
    · exact reads.push byte

end Scan

/-- Characters without a broken part are read from nothing but what they are written as. -/
theorem units_eq_map_some_iff {bytes : List UInt8} {characters : List Char} :
    units bytes = characters.map some ↔ bytes = encodeChars characters := by
  constructor
  · intro read
    have noneBroken : none ∉ units bytes := by simp [read]
    unfold units at read noneBroken
    have reads := Scan.reads_foldl bytes
    generalize bytes.foldl Scan.push Scan.start = scan at read noneBroken reads
    rcases reads with broken | @⟨others⟩ | @⟨others, pending, begun, held⟩
    · refine absurd ?_ noneBroken
      unfold Scan.finish
      split <;> simp [broken]
    · have same : others.map some = characters.map some := by simpa [Scan.finish] using read
      rw [(List.map_inj_right fun _ _ => Option.some.inj).mp same]
    · exact absurd (by simp [Scan.finish]) noneBroken
  · rintro rfl
    exact units_encodeChars characters

private theorem eq_map_some {read : List (Option Char)} (whole : read.all Option.isSome = true) :
    read = (read.filterMap id).map some := by
  induction read with
  | nil => rfl
  | cons unit rest inductionHypothesis =>
    rw [List.all_cons, Bool.and_eq_true] at whole
    obtain ⟨character, rfl⟩ := Option.isSome_iff_exists.mp whole.1
    exact congrArg (some character :: ·) (inductionHypothesis whole.2)

/-- What is read strictly as a text is what the text is written as. -/
theorem decode?_eq_some_iff {bytes : List UInt8} {text : String} :
    decode? bytes = some text ↔ bytes = encode text := by
  constructor
  · intro read
    obtain ⟨characters, present, rfl⟩ := Option.map_eq_some_iff.mp read
    unfold allPresent? at present
    split at present
    · next whole =>
      cases present
      rw [encode, String.toList_ofList]
      exact units_eq_map_some_iff.mp (eq_map_some whole)
    · cases present
  · rintro rfl
    exact decode?_encode text

end BuildMonitor.Text.Utf8
