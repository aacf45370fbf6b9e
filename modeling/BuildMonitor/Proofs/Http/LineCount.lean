import Mathlib.Algebra.Group.Nat.Defs
import BuildMonitor.Proofs.Http.Answers
import BuildMonitor.Proofs.Log.Window
import BuildMonitor.Proofs.Text.Spellings

/-!
# The number of lines that is asked for

A request for the log asks for a number of lines if what it says is digits, with white space around
them and perhaps a plus sign in front, for a number of 64 bits: `AsksFor`. Then it is taken to ask
for just that number, and else for the usual one: `lineCount_eq_iff`.

The report holds the end of the log: as many lines as are asked for, or as there are, or as the log
keeps, or the greatest number that a request gets, whichever is least: `lines_logs`. The number of
lines is a least number of words, so it is a word itself: `line_count_exact`.

Main definition: `AsksFor`. Main statement: `line_count_exact`.
-/

namespace BuildMonitor.Http

open Log Text

/-- What is said is digits with white space around them, perhaps behind a plus sign, for a number of
64 bits. -/
structure AsksFor (said : String) (count : Nat) : Prop where
  spelling : SpellsNumber said.toList count
  fits : count < 2 ^ 64

variable {said : String} {raw : Option String} {count : Nat}

/-- A number is read exactly if it is asked for. -/
theorem readUnsigned_trim_eq_ok_iff :
    readUnsigned (maxUnsigned 64) (trim said).toList = .ok count ↔ AsksFor said count := by
  have greatest : maxUnsigned 64 = 2 ^ 64 - 1 := rfl
  rw [readUnsigned_eq_ok_iff, trim, String.toList_ofList]
  constructor
  · rintro ⟨sign, digits, signs, numeral, trimmed, small⟩
    exact ⟨spellsNumber_iff.mpr ⟨sign, digits, signs, numeral, trimmed⟩, by omega⟩
  · rintro ⟨spelling, fits⟩
    obtain ⟨sign, digits, signs, numeral, trimmed⟩ := spellsNumber_iff.mp spelling
    exact ⟨sign, digits, signs, numeral, trimmed, by omega⟩

/-- What is said asks for one number of lines at most. -/
theorem AsksFor.unique {other : Nat} (asks : AsksFor said count) (asks' : AsksFor said other) :
    count = other := by
  have read := readUnsigned_trim_eq_ok_iff.mpr asks
  rw [readUnsigned_trim_eq_ok_iff.mpr asks'] at read
  exact (Except.ok.inj read).symm

/-- The number that is asked for counts. -/
theorem lineCount_of_asksFor (asks : AsksFor said count) : lineCount (some said) = count := by
  simp only [lineCount, readUnsigned_trim_eq_ok_iff.mpr asks]

/-- Where no number is asked for, a hundred lines are. -/
theorem lineCount_of_not_asksFor (other : ∀ said, raw = some said → ∀ count, ¬ AsksFor said count) :
    lineCount raw = 100 := by
  unfold lineCount
  cases raw with
  | none => rfl
  | some said =>
    dsimp only
    cases read : readUnsigned (maxUnsigned 64) (trim said).toList with
    | ok count => exact absurd (readUnsigned_trim_eq_ok_iff.mp read) (other said rfl count)
    | error => rfl

/-- The number of lines is the one that is asked for, or the usual one if none is. -/
theorem lineCount_eq_iff : lineCount raw = count ↔
    (∃ said, raw = some said ∧ AsksFor said count) ∨
      (count = 100 ∧ ∀ said, raw = some said → ∀ other, ¬ AsksFor said other) := by
  by_cases asked : ∃ said other, raw = some said ∧ AsksFor said other
  · obtain ⟨said, other, rfl, asks⟩ := asked
    rw [lineCount_of_asksFor asks]
    constructor
    · rintro rfl
      exact Or.inl ⟨said, rfl, asks⟩
    · rintro (⟨_, given, asks'⟩ | ⟨-, none⟩)
      · exact asks.unique (Option.some.inj given ▸ asks')
      · exact absurd asks (none said rfl other)
  · have none : ∀ said, raw = some said → ∀ other, ¬ AsksFor said other :=
      fun said given other asks => asked ⟨said, other, given, asks⟩
    rw [lineCount_of_not_asksFor none]
    constructor
    · rintro rfl
      exact Or.inr ⟨rfl, none⟩
    · rintro (⟨said, given, asks⟩ | ⟨rfl, -⟩)
      · exact absurd asks (none said given count)
      · rfl

/-- The number of lines takes no more than 64 bits. -/
theorem lineCount_lt (raw : Option String) : lineCount raw < 2 ^ 64 := by
  obtain ⟨said, -, asks⟩ | ⟨usual, -⟩ := lineCount_eq_iff.mp (Eq.refl (lineCount raw))
  · exact asks.fits
  · rw [usual]
    decide

/-! ## The report -/

/-- A report holds the end of the lines that there are. -/
theorem lines_logs (monitor : Monitor) (count : Nat) :
    (monitor.logs count).lines = lastOf (min count (min monitor.sink.capacity 1000))
      (monitor.sink.available monitor.host) := by
  have window : min (monitor.admittedLines count) monitor.sink.capacity =
      min count (min monitor.sink.capacity 1000) := by
    have limit : Monitor.lineLimit = 1000 := rfl
    rw [Monitor.admittedLines, limit]
    omega
  rw [← window, ← LogSink.snapshot_eq_lastOf_available]
  rfl

/-- The least of two words is the least of their values. -/
theorem toNat_min (first second : UInt64) :
    (min first second).toNat = min first.toNat second.toNat := by
  change (if first ≤ second then first else second).toNat = _
  split
  · next le => exact (Nat.min_eq_left (UInt64.le_iff_toNat_le.mp le)).symm
  · next more =>
    exact (Nat.min_eq_right (Nat.le_of_not_le (mt UInt64.le_iff_toNat_le.mpr more))).symm

/-- Reckoned in words, the number of lines that a request may get is the same. -/
theorem toNat_min_eq_admittedLines {monitor : Monitor} {wanted capacity : UInt64}
    (room : capacity.toNat = monitor.sink.capacity) :
    (min (min wanted capacity) 1000).toNat = monitor.admittedLines wanted.toNat := by
  rw [toNat_min, toNat_min, room]
  rfl

/-- Whatever a request for the log says, the number of lines that it asks for is read as what it is:
the value of the digits, if they are for a number of 64 bits and have nothing around them but white
space and a plus sign, and else a hundred. The report that it gets is the one for that number, and
has no more lines than are asked for, than the log keeps, and than a thousand; no number on the way
is too great for a word. -/
theorem line_count_exact (raw : Option String) :
    (∀ count, lineCount raw = count ↔
      (∃ said, raw = some said ∧ AsksFor said count) ∨
        (count = 100 ∧ ∀ said, raw = some said → ∀ other, ¬ AsksFor said other)) ∧
      lineCount raw < 2 ^ 64 ∧
      ∀ monitor : Monitor,
        (∀ sharing query, linesParameter query = .ok raw →
          (handle sharing ⟨"GET", ⟨"/api/logs", query⟩⟩ monitor).1.Carries
            (.json 200 (monitor.logs (lineCount raw)).toJson)) ∧
        (∀ count,
          (monitor.logs count).lines = lastOf (min count (min monitor.sink.capacity 1000))
            (monitor.sink.available monitor.host) ∧
          (monitor.logs count).lines.length ≤ min count (min monitor.sink.capacity 1000)) ∧
        ∀ wanted capacity : UInt64, capacity.toNat = monitor.sink.capacity →
          (min (min wanted capacity) 1000).toNat = monitor.admittedLines wanted.toNat := by
  refine ⟨fun count => lineCount_eq_iff, lineCount_lt raw, fun monitor => ⟨?_, ?_, ?_⟩⟩
  · exact fun sharing query read => handle_logs sharing read monitor
  · refine fun count => ⟨lines_logs monitor count, ?_⟩
    rw [lines_logs, length_lastOf]
    exact Nat.min_le_left _ _
  · exact fun wanted capacity => toNat_min_eq_admittedLines

/-- Zeros and white space around a number make no difference to it. -/
theorem spaced_number_read : lineCount (some "\u3000+0012\n") = 12 := by
  have numeral : IsNumeral ['0', '0', '1', '2'] 12 := ⟨by decide, by simp, by decide⟩
  have asks : AsksFor "\u3000+0012\n" 12 :=
    ⟨⟨['\u3000'], ['+'], ['0', '0', '1', '2'], ['\n'], by decide +kernel, by decide +kernel,
      Or.inr rfl, numeral, rfl⟩, by decide⟩
  exact ((line_count_exact (some "\u3000+0012\n")).1 12).mpr (Or.inl ⟨_, rfl, asks⟩)

example : lineCount (some "18446744073709551616") = 100 := by decide +kernel

end BuildMonitor.Http
