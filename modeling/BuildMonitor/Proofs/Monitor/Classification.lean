import Mathlib.Algebra.Group.Nat.Defs
import BuildMonitor.Proofs.Build.Marker
import BuildMonitor.Proofs.Monitor.Procedure
import BuildMonitor.Proofs.Text.Spellings
import BuildMonitor.Proofs.Text.Strictness

/-!
# How markers are classified

What is found in place of the marker is one of four things, and the state of the build says which:
nothing, a spelling of the pid of a live process, one of a process that is gone, or anything else.
A spelling is white space, a plus sign or none, digits, and white space, all as UTF-8: `Spells`. The
digits may be as many as there are; only their value counts.

The classification holds whatever a reading comes to and whichever processes are held to be alive:
`classification_exact`.
-/

namespace BuildMonitor.Marker

open BuildMonitor.Host BuildMonitor.Text

/-- The bytes are digits with white space around them, perhaps behind a plus sign, for a number that
a single process can have. -/
structure Spells (bytes : List UInt8) (pid : Nat) : Prop where
  spelling : ∃ before sign digits after, AllBlank before ∧ AllBlank after ∧
    (sign = [] ∨ sign = ['+']) ∧ IsNumeral digits pid ∧
    bytes = Utf8.encodeChars (before ++ (sign ++ digits) ++ after)
  positive : 1 ≤ pid
  small : pid ≤ 2 ^ 31 - 1

/-- A reading of the marker as a text. -/
def asText (reading : Except IoError Blob) : Except IoError String :=
  match reading with
  | .error error => .error error
  | .ok content =>
    match Utf8.decode? content.toList with
    | some text => .ok text
    | none => .error .notText

variable {pid : Nat}

/-! ## Spellings -/

/-- The numerals for a positive number are its digits, perhaps behind a plus sign. -/
theorem denotes_natCast_iff {characters : List Char} (positive : 0 < pid) :
    Denotes characters pid ↔ ∃ sign digits, (sign = [] ∨ sign = ['+']) ∧ IsNumeral digits pid ∧
      characters = sign ++ digits := by
  constructor
  · generalize value : (pid : Int) = integer
    rintro (numeral | numeral | numeral)
    · cases Int.ofNat.inj value
      exact ⟨[], _, Or.inl rfl, numeral, rfl⟩
    · cases Int.ofNat.inj value
      exact ⟨['+'], _, Or.inr rfl, numeral, rfl⟩
    · omega
  · rintro ⟨sign, digits, rfl | rfl, numeral, rfl⟩
    · exact .bare numeral
    · exact .plus numeral

/-- The bytes that are text and name a pid are its spellings. -/
theorem exists_writes_iff {bytes : List UInt8} :
    (∃ text, Utf8.decode? bytes = some text ∧ Writes text pid) ↔ Spells bytes pid := by
  simp only [Utf8.decode?_eq_some_iff]
  constructor
  · rintro ⟨text, rfl, writes⟩
    have denoted := (denotes_natCast_iff writes.positive).mp writes.denotes
    rw [trim, String.toList_ofList] at denoted
    obtain ⟨before, sign, digits, after, blankBefore, blankAfter, signs, numeral, same⟩ :=
      spellsNumber_iff.mpr denoted
    exact ⟨⟨before, sign, digits, after, blankBefore, blankAfter, signs, numeral,
      congrArg Utf8.encodeChars same⟩, writes.positive, writes.small⟩
  · rintro ⟨⟨before, sign, digits, after, blankBefore, blankAfter, signs, numeral, rfl⟩,
      positive, small⟩
    have trimmed := spellsNumber_iff.mp
      ⟨before, sign, digits, after, blankBefore, blankAfter, signs, numeral, rfl⟩
    refine ⟨.ofList (before ++ (sign ++ digits) ++ after), ?_, ?_, positive, small⟩
    · rw [Utf8.encode, String.toList_ofList]
    · rw [trim, String.toList_ofList, String.toList_ofList]
      exact (denotes_natCast_iff positive).mpr trimmed

/-- A number is printed as a numeral for it. -/
theorem isNumeral_toString (number : Nat) : IsNumeral (toString number).toList number := by
  have printed : (toString number).toList = Nat.toDigits 10 number := by
    simp [toString, Nat.repr]
  rw [printed]
  exact isNumeral_toDigits number

/-! ## States -/

/-- A reading shows a pid if it is a spelling of it. -/
def Shows (reading : Except IoError Blob) (pid : Nat) : Prop :=
  ∃ content, reading = .ok content ∧ Spells content.toList pid

variable {path : String} {reading : Except IoError Blob} {isAlive : Nat → Bool}

/-- What shows a pid is classified by whether the process is alive. -/
theorem classify_of_shows (shows : Shows reading pid) :
    classify path (asText reading) isAlive = if isAlive pid then .running pid else .stale pid := by
  obtain ⟨content, rfl, spells⟩ := shows
  obtain ⟨text, decoded, writes⟩ := exists_writes_iff.mpr spells
  simp only [asText, decoded, classify, pidOf_eq_ok_iff.mpr writes]

/-- What is not missing and shows no pid is an error. -/
theorem exists_classify_eq_error (present : reading ≠ .error (.os .noEntry))
    (unnamed : ∀ pid, ¬ Shows reading pid) :
    ∃ message, classify path (asText reading) isAlive = .error message := by
  cases reading with
  | error error =>
    have found : error.isNotFound = false := by
      rw [IoError.isNotFound, beq_eq_false_iff_ne]
      rintro rfl
      exact present rfl
    exact ⟨_, by simp only [asText, classify, found]; rfl⟩
  | ok content =>
    cases decoded : Utf8.decode? content.toList with
    | none => exact ⟨_, by simp only [asText, decoded]; rfl⟩
    | some text =>
      cases named : pidOf text with
      | error fault => exact ⟨fault.message, by simp only [asText, decoded, classify, named]⟩
      | ok pid =>
        exact absurd
          ⟨content, rfl, exists_writes_iff.mp ⟨text, decoded, pidOf_eq_ok_iff.mp named⟩⟩
          (unnamed pid)

/-- There are three things that a reading can come to. -/
theorem classify_cases (path : String) (reading : Except IoError Blob) (isAlive : Nat → Bool) :
    (reading = .error (.os .noEntry) ∧ classify path (asText reading) isAlive = .idle) ∨
      (∃ pid, Shows reading pid ∧ classify path (asText reading) isAlive =
        if isAlive pid then .running pid else .stale pid) ∨
      ∃ message, reading ≠ .error (.os .noEntry) ∧ (∀ pid, ¬ Shows reading pid) ∧
        classify path (asText reading) isAlive = .error message := by
  by_cases missing : reading = .error (.os .noEntry)
  · subst missing
    exact Or.inl ⟨rfl, rfl⟩
  by_cases named : ∃ pid, Shows reading pid
  · obtain ⟨pid, shows⟩ := named
    exact Or.inr (Or.inl ⟨pid, shows, classify_of_shows shows⟩)
  · have unnamed : ∀ pid, ¬ Shows reading pid := not_exists.mp named
    obtain ⟨message, failed⟩ := exists_classify_eq_error missing unnamed
    exact Or.inr (Or.inr ⟨message, missing, unnamed, failed⟩)

/-- The state is idle exactly if there is no marker. -/
theorem classify_eq_idle_iff :
    classify path (asText reading) isAlive = .idle ↔ reading = .error (.os .noEntry) := by
  refine ⟨fun idle => ?_, fun missing => ?_⟩
  · obtain ⟨missing, -⟩ | ⟨pid, -, named⟩ | ⟨message, -, -, failed⟩ :=
      classify_cases path reading isAlive
    · exact missing
    · exact absurd (named.symm.trans idle) (by split <;> nofun)
    · exact absurd (failed.symm.trans idle) nofun
  · subst missing
    rfl

/-- A build runs exactly if the marker shows its pid and the process is alive. -/
theorem classify_eq_running_iff : classify path (asText reading) isAlive = .running pid ↔
    Shows reading pid ∧ isAlive pid = true := by
  refine ⟨fun running => ?_, fun ⟨shows, alive⟩ => (classify_of_shows shows).trans (if_pos alive)⟩
  obtain ⟨-, idle⟩ | ⟨other, shows, named⟩ | ⟨message, -, -, failed⟩ :=
    classify_cases path reading isAlive
  · exact absurd (idle.symm.trans running) nofun
  · have same := named.symm.trans running
    split at same
    · next alive =>
      cases same
      exact ⟨shows, alive⟩
    · cases same
  · exact absurd (failed.symm.trans running) nofun

/-- A marker is stale exactly if it shows a pid and the process is not alive. -/
theorem classify_eq_stale_iff : classify path (asText reading) isAlive = .stale pid ↔
    Shows reading pid ∧ isAlive pid = false := by
  refine ⟨fun stale => ?_, fun ⟨shows, gone⟩ =>
    (classify_of_shows shows).trans (if_neg (Bool.not_eq_true _ ▸ gone))⟩
  obtain ⟨-, idle⟩ | ⟨other, shows, named⟩ | ⟨message, -, -, failed⟩ :=
    classify_cases path reading isAlive
  · exact absurd (idle.symm.trans stale) nofun
  · have same := named.symm.trans stale
    split at same
    · cases same
    · next gone =>
      cases same
      exact ⟨shows, Bool.not_eq_true _ ▸ gone⟩
  · exact absurd (failed.symm.trans stale) nofun

/-- The state is an error exactly if there is a marker, or something that keeps it from being read,
and no pid is shown. -/
theorem exists_classify_eq_error_iff :
    (∃ message, classify path (asText reading) isAlive = .error message) ↔
      reading ≠ .error (.os .noEntry) ∧ ∀ pid, ¬ Shows reading pid := by
  refine ⟨fun ⟨message, failed⟩ => ?_, fun ⟨present, unnamed⟩ =>
    exists_classify_eq_error present unnamed⟩
  obtain ⟨-, idle⟩ | ⟨pid, -, named⟩ | ⟨-, present, unnamed, -⟩ :=
    classify_cases path reading isAlive
  · exact absurd (idle.symm.trans failed) nofun
  · exact absurd (named.symm.trans failed) (by split <;> nofun)
  · exact ⟨present, unnamed⟩

/-- The digits of a number are a spelling of it, with any white space around them. -/
theorem shows_toString {before after : List Char} {content : Blob} (positive : 1 ≤ pid)
    (small : pid ≤ 2 ^ 31 - 1) (blankBefore : AllBlank before) (blankAfter : AllBlank after)
    (same : content.toList = Utf8.encodeChars (before ++ (toString pid).toList ++ after)) :
    Shows (.ok content) pid :=
  ⟨content, rfl, ⟨before, [], (toString pid).toList, after, blankBefore, blankAfter, Or.inl rfl,
    isNumeral_toString pid, same⟩, positive, small⟩

/-- Whatever the reading of a marker comes to, and whichever processes are alive, the state says
what was found: nothing, a spelling of a pid, or anything else. The classification of a monitor is
this one, and it leaves everything as it is. -/
theorem classification_exact (path : String) (reading : Except IoError Blob)
    (isAlive : Nat → Bool) :
    let state := classify path (asText reading) isAlive
    (state = .idle ↔ reading = .error (.os .noEntry)) ∧
      (∀ pid, state = .running pid ↔ Shows reading pid ∧ isAlive pid = true) ∧
      (∀ pid, state = .stale pid ↔ Shows reading pid ∧ isAlive pid = false) ∧
      ((∃ message, state = .error message) ↔
        reading ≠ .error (.os .noEntry) ∧ ∀ pid, ¬ Shows reading pid) ∧
      (∀ pid before after content, 1 ≤ pid → pid ≤ 2 ^ 31 - 1 → AllBlank before → AllBlank after →
        content.toList = Utf8.encodeChars (before ++ (toString pid).toList ++ after) →
        classify path (asText (.ok content)) isAlive =
          if isAlive pid then .running pid else .stale pid) ∧
      ∀ monitor : Monitor, Action.check.perform monitor =
        (classify monitor.markerPath (asText (monitor.host.read monitor.markerPath))
          monitor.host.processes.isAlive, monitor) := by
  intro state
  refine ⟨classify_eq_idle_iff, fun pid => classify_eq_running_iff,
    fun pid => classify_eq_stale_iff, exists_classify_eq_error_iff, ?_, fun monitor => rfl⟩
  intro pid before after content positive small blankBefore blankAfter same
  exact classify_of_shows (shows_toString positive small blankBefore blankAfter same)

/-- The greatest pid with white space around it, for a process that is gone. -/
theorem greatest_pid_classified :
    classify "/m" (asText (.ok (.ofList (Utf8.encode "\u2003 2147483647\r\n")))) (fun _ => false) =
      .stale 2147483647 :=
  (classification_exact "/m" (.error .notText) fun _ => false).2.2.2.2.1 2147483647
    ['\u2003', ' '] ['\r', '\n'] _ (by decide) (by decide) (by decide) (by decide) rfl

end BuildMonitor.Marker
