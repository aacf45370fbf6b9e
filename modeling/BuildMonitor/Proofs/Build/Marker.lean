import BuildMonitor.Build.Marker
import BuildMonitor.Proofs.Text.Numerals

/-!
# What a marker writes

A marker names a pid just if its content, without the blanks around it, is a numeral for that very
number, and the number is one that a single process can have: `pidOf_eq_ok_iff`. A build runs just
if the marker names a process that exists: `check_eq_running_iff`.

Main definition: `Marker.Writes`.
-/

namespace BuildMonitor.Marker

open BuildMonitor.Host BuildMonitor.Text

/-- The content is a numeral with blanks around it, for a number that a single process can have. -/
structure Writes (content : String) (pid : Nat) : Prop where
  denotes : Denotes (trim content).toList pid
  positive : 0 < pid
  small : pid ≤ greatestPid

variable {content path : String} {pid : Nat} {host : Host}

/-- Whatever integer the content denotes is the pid, so none outside the range is taken for it. -/
theorem Writes.eq_of_denotes {integer : Int} (writes : Writes content pid)
    (denotes : Denotes (trim content).toList integer) : integer = pid :=
  denotes.unique writes.denotes

/-- A pid is read off a marker exactly if the content is that number written out. -/
theorem pidOf_eq_ok_iff : pidOf content = .ok pid ↔ Writes content pid := by
  -- More integers can be read than are pids, so what is read is sorted out by its value alone.
  have wide : greatestPid ≤ maxSigned 64 := by decide
  simp only [pidOf]
  cases read : readSigned (maxSigned 64) (trim content).toList with
  | error cause =>
    constructor
    · nofun
    · intro writes
      have small := writes.small
      have fits := readSigned_eq_ok_iff.mpr
        ⟨writes.denotes, by omega, Int.ofNat_le.mpr (Nat.le_trans small wide)⟩
      rw [read] at fits
      cases fits
  | ok value =>
    obtain ⟨denotes, -, -⟩ := readSigned_eq_ok_iff.mp read
    simp only
    constructor
    · intro named
      split at named
      · next inRange =>
        obtain ⟨positive, small⟩ := inRange
        cases named
        have same : ((value.toNat : Nat) : Int) = value := Int.toNat_of_nonneg (by omega)
        exact ⟨same.symm ▸ denotes, by omega, by omega⟩
      · cases named
    · intro writes
      obtain rfl := writes.eq_of_denotes denotes
      have positive := writes.positive
      have small := writes.small
      have inRange : 0 < (pid : Int) ∧ (pid : Int) ≤ greatestPid := by omega
      rw [if_pos inRange, Int.toNat_natCast]

/-- A number is not taken modulo anything. -/
example : pidOf " 4294967297\n" = .error (.notPid 4294967297) := rfl

/-- The state names a pid just if the marker does, whether or not there is such a process. -/
theorem pid?_classify_eq_some_iff {reading : Except IoError String} {isAlive : Nat → Bool} :
    (classify path reading isAlive).pid? = some pid ↔
      ∃ content, reading = .ok content ∧ Writes content pid := by
  unfold classify
  cases reading with
  | error error =>
    simp only
    constructor
    · intro named
      split at named <;> cases named
    · rintro ⟨_, ⟨⟩, -⟩
  | ok content =>
    simp only [Except.ok.injEq, exists_eq_left', ← pidOf_eq_ok_iff]
    cases pidOf content with
    | error fault => exact ⟨nofun, nofun⟩
    | ok other =>
      simp only [Except.ok.injEq]
      split <;> exact Option.some_inj

/-- A marker says that a build runs exactly if it can be read, is written out as the pid, and the
process is alive. -/
theorem check_eq_running_iff : check host path = .running pid ↔
    ∃ content, host.readText path = .ok content ∧ Writes content pid ∧
      host.processes.isAlive pid = true := by
  unfold check classify
  cases host.readText path with
  | error error =>
    simp only
    constructor
    · intro running
      split at running <;> cases running
    · rintro ⟨content, ⟨⟩, -⟩
  | ok content =>
    simp only
    constructor
    · intro running
      split at running
      · cases running
      · next pid named =>
        split at running
        · next alive =>
          cases running
          exact ⟨content, rfl, pidOf_eq_ok_iff.mp named, alive⟩
        · cases running
    · rintro ⟨_, ⟨⟩, writes, alive⟩
      simp only [pidOf_eq_ok_iff.mpr writes, alive, if_true]

/-- Whatever is answered, clearing a marker does to the host what removing the file does. -/
theorem clear_snd (host : Host) (path : String) : (clear host path).2 = (host.remove path).2 := by
  unfold clear
  simp only
  cases (host.remove path).1 <;> rfl

end BuildMonitor.Marker
