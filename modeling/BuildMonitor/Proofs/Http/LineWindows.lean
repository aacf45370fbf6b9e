import BuildMonitor.Proofs.Http.LineCount
import BuildMonitor.Proofs.Http.Refusals
import BuildMonitor.Proofs.Text.Decoding
import BuildMonitor.Proofs.Text.Split

/-!
# More lines and fewer

Two requests for the log that name their number of lines in digits get the end of the same lines, so
the lines that one gets are the end of what the other gets. The one with the greater number gets no
fewer, as long as its number is one of 64 bits. A greater number is not taken for a great many lines
but for none at all, and gets a hundred: `linesGranted`. So it gets fewer than a smaller number that
is more than a hundred, if there are more lines than that: `greaterNumber_gets_fewer`; this is the
only case: `more_lines_extend`.

Main definition: `linesGranted`. Main statement: `more_lines_extend`.
-/

namespace BuildMonitor

namespace Http

open Log Text

variable {said : String} {value : Nat} {characters : List Char}

/-! ## Digits in a query -/

/-- A byte that is neither a percent sign nor a plus sign stands for itself. -/
theorem decodeBytes_cons {byte : UInt8} (noEscape : byte ≠ 0x25) (noBlank : byte ≠ 0x2B)
    (rest : List UInt8) : decodeBytes (byte :: rest) = byte :: decodeBytes rest := by
  rw [decodeBytes.eq_def]
  split
  · next same => cases same
  · next same => exact absurd (List.cons.inj same).1 noEscape
  · next same => exact absurd (List.cons.inj same).1 noBlank
  · next same => obtain ⟨rfl, rfl⟩ := List.cons.inj same; rfl

/-- A digit is a single byte, which is neither of the two. -/
theorem utf8EncodeChar_of_isDigit {character : Char} (digit : character.isDigit = true) :
    ∃ byte : UInt8, String.utf8EncodeChar character = [byte] ∧ byte ≠ 0x25 ∧ byte ≠ 0x2B := by
  simp only [Char.isDigit, Bool.and_eq_true, decide_eq_true_eq, UInt32.le_iff_toNat_le] at digit
  have least : '0'.val.toNat = 48 := rfl
  have greatest : '9'.val.toNat = 57 := rfl
  have code : (UInt8.ofNat character.val.toNat).toNat = character.val.toNat := by
    rw [UInt8.toNat_ofNat']
    omega
  refine ⟨UInt8.ofNat character.val.toNat, ?_, fun same => ?_, fun same => ?_⟩
  · rw [String.utf8EncodeChar]
    exact if_pos (by omega)
  · rw [same] at code
    have percent : (0x25 : UInt8).toNat = 37 := rfl
    omega
  · rw [same] at code
    have plus : (0x2B : UInt8).toNat = 43 := rfl
    omega

/-- Digits stand for themselves in a query. -/
theorem decodeText_of_digits (digits : ∀ character ∈ characters, character.isDigit = true) :
    decodeText characters = String.ofList characters := by
  have same : decodeBytes (Utf8.encodeChars characters) = Utf8.encodeChars characters := by
    induction characters with
    | nil => rfl
    | cons character rest inductionHypothesis =>
      obtain ⟨digit, others⟩ := List.forall_mem_cons.mp digits
      obtain ⟨byte, encoded, noEscape, noBlank⟩ := utf8EncodeChar_of_isDigit digit
      rw [Utf8.encodeChars_cons, encoded, List.singleton_append,
        decodeBytes_cons noEscape noBlank, inductionHypothesis others]
  have text := Utf8.decodeLossy_encode (String.ofList characters)
  rw [Utf8.encode, String.toList_ofList] at text
  rw [decodeText, same, text]

/-- Digits behind the name of the parameter are what it says. -/
theorem linesParameter_of_digits (digits : ∀ character ∈ said.toList, character.isDigit = true) :
    linesParameter (some ("lines=" ++ said)) = .ok (some said) := by
  have absent : '&' ∉ said.toList := fun member => absurd (digits '&' member) (by decide)
  have spelled : ("lines=" ++ said).toList = "lines".toList ++ '=' :: said.toList := by simp
  have whole : splitOn (· == '&') ("lines=" ++ said).toList = [("lines=" ++ said).toList] := by
    refine splitOn_eq_singleton ?_
    rw [spelled]
    simpa using absent
  have pair : pairOf ("lines=" ++ said).toList = (linesName, said) := by
    have name : decodeText "lines".toList = linesName := by decide +kernel
    rw [pairOf, spelled, cutAtFirst_append (by decide)]
    simp only [Option.getD_some, name, decodeText_of_digits digits, String.ofList_toList]
  have pairs : pairsOf ("lines=" ++ said) = [(linesName, said)] := by
    rw [pairsOf, whole, List.filter_cons_of_pos (by simp [spelled]), List.filter_nil,
      List.map_singleton, pair]
  simp only [linesParameter, Option.getD_some, pairs]
  rfl

/-! ## Numbers of lines -/

/-- The number of lines that digits are taken to ask for: what they say, if that is a number of 64
bits, and else the usual number. -/
def linesGranted (value : Nat) : Nat := if value < 2 ^ 64 then value else defaultLineCount

/-- Digits ask for the number of lines that they are granted. -/
theorem lineCount_of_isNumeral (numeral : IsNumeral said.toList value) :
    lineCount (some said) = linesGranted value := by
  have solid : NoBlank said.toList := fun character member =>
    isBlank_of_isDigit (numeral.digits character member)
  have spelling : SpellsNumber said.toList value :=
    ⟨[], [], said.toList, [], nofun, nofun, Or.inl rfl, numeral, by simp⟩
  rw [linesGranted]
  split
  · next fits => exact lineCount_of_asksFor ⟨spelling, fits⟩
  · next tooGreat =>
    refine lineCount_of_not_asksFor ?_
    rintro _ ⟨⟩ count ⟨spelling', fits⟩
    -- What is asked for would be the value of the digits, for they are all there is.
    obtain ⟨sign, digits, signs, numeral', trimmed⟩ := spellsNumber_iff.mp spelling'
    rw [trimBlanks_eq_self solid] at trimmed
    rcases signs with rfl | rfl
    · rw [List.nil_append] at trimmed
      rw [← numeral'.value, ← trimmed, numeral.value] at fits
      exact tooGreat fits
    · have plus := numeral.digits '+' (by rw [trimmed]; exact List.mem_append_left _ (by simp))
      cases plus

/-- Of two numbers the greater one gets the lines of the other and those before them, unless it is
too great for 64 bits, while the other is not and gets more than a hundred lines. -/
theorem lines_suffix_lines_iff {fewer more : String} {least most : Nat}
    (numeral : IsNumeral fewer.toList least) (numeral' : IsNumeral more.toList most)
    (le : least ≤ most) (monitor : Monitor) :
    (monitor.logs (lineCount (some fewer))).lines <:+
        (monitor.logs (lineCount (some more))).lines ↔
      most < 2 ^ 64 ∨ 2 ^ 64 ≤ least ∨
        min least (min (min monitor.sink.capacity 1000)
          (monitor.sink.available monitor.host).length) ≤ 100 := by
  have usual : defaultLineCount = 100 := rfl
  rw [lines_logs, lines_logs, lastOf_suffix_lastOf_iff, lineCount_of_isNumeral numeral,
    lineCount_of_isNumeral numeral', linesGranted, linesGranted, usual]
  split <;> split <;> omega

/-- A log of a hundred and one lines. -/
def longLog : Monitor :=
  { freshService.monitor with
    sink := ⟨"/l", 1000, by decide, List.replicate 101 "x\n"⟩ }

/-- The least number that takes more than 64 bits. -/
def greaterNumber : String := "18446744073709551616"

private theorem isNumeral_greaterNumber : IsNumeral greaterNumber.toList (2 ^ 64) :=
  ⟨by decide, by simp [greaterNumber], by decide +kernel⟩

/-- The long log shows a hundred and one lines. -/
theorem length_available_longLog : (longLog.sink.available longLog.host).length = 101 := by
  decide +kernel

/-- Where a hundred and one lines are asked for and there are so many, they are all shown; where
`2 ^ 64` lines are asked for, one of them is not. -/
theorem greaterNumber_gets_fewer :
    IsNumeral "101".toList 101 ∧ IsNumeral greaterNumber.toList (2 ^ 64) ∧ 101 ≤ 2 ^ 64 ∧
      ¬ (longLog.logs (lineCount (some "101"))).lines <:+
        (longLog.logs (lineCount (some greaterNumber))).lines := by
  have numeral : IsNumeral "101".toList 101 := ⟨by decide, by simp, by decide⟩
  have le : 101 ≤ 2 ^ 64 := by omega
  refine ⟨numeral, isNumeral_greaterNumber, le, ?_⟩
  have room : longLog.sink.capacity = 1000 := rfl
  rw [lines_suffix_lines_iff numeral isNumeral_greaterNumber le, length_available_longLog, room]
  omega

/-- A request for the log that names the number of lines in digits, however many, gets the end of
the lines that there are: so many as the digits say, or as the log keeps, or as a request gets at
most, whichever is least. Only where the digits say more than 64 bits hold is it the usual number
instead of theirs. Of two such requests the one with the greater number gets all the lines of the
other, at the end of its own, unless its number alone is too great for 64 bits and the other gets
more than a hundred lines. -/
theorem more_lines_extend (sharing : Bool) (monitor : Monitor) :
    let report := fun said => monitor.logs (lineCount (some said))
    let most := min monitor.sink.capacity 1000
    let available := monitor.sink.available monitor.host
    (∀ said value, IsNumeral said.toList value →
      (handle sharing ⟨"GET", ⟨"/api/logs", some ("lines=" ++ said)⟩⟩ monitor).1.Carries
        (.json 200 (report said).toJson) ∧
      (report said).lines =
        lastOf (min (if value < 2 ^ 64 then value else 100) most) available) ∧
    ∀ fewer more value value', IsNumeral fewer.toList value → IsNumeral more.toList value' →
      value ≤ value' →
      ((report fewer).lines <:+ (report more).lines ↔
        value' < 2 ^ 64 ∨ 2 ^ 64 ≤ value ∨ min value (min most available.length) ≤ 100) := by
  intro report most available
  constructor
  · intro said value numeral
    refine ⟨handle_logs sharing (linesParameter_of_digits numeral.digits) monitor, ?_⟩
    rw [lines_logs, lineCount_of_isNumeral numeral]
    rfl
  · intro fewer more value value' numeral numeral' le
    exact lines_suffix_lines_iff numeral numeral' le monitor

/-- A hundred lines, with a zero in front of their number, are the end of those for `2 ^ 64`. -/
theorem hundred_lines_end_those_of_greaterNumber :
    IsNumeral "0100".toList 100 ∧ IsNumeral greaterNumber.toList (2 ^ 64) ∧ 100 ≤ 2 ^ 64 ∧
      (longLog.logs (lineCount (some "0100"))).lines <:+
        (longLog.logs (lineCount (some greaterNumber))).lines := by
  have numeral : IsNumeral "0100".toList 100 := ⟨by decide, by simp, by decide⟩
  have le : 100 ≤ 2 ^ 64 := by omega
  have few : min 100 (min (min longLog.sink.capacity 1000)
      (longLog.sink.available longLog.host).length) ≤ 100 := Nat.min_le_left _ _
  exact ⟨numeral, isNumeral_greaterNumber, le,
    ((more_lines_extend true longLog).2 _ _ _ _ numeral isNumeral_greaterNumber le).mpr
      (Or.inr (Or.inr few))⟩

end Http

end BuildMonitor
