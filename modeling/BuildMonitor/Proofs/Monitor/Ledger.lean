import BuildMonitor.Monitor.Basic
import BuildMonitor.Proofs.Host.Copy
import BuildMonitor.Proofs.Log.Window
import BuildMonitor.Proofs.Text.Decoding

/-!
# The log and its ledger

The *ledger* of a log is the list of all that was ever done with it. It has no bound and forgets
nothing, and what the log keeps can be read off it: in memory the last entries since the log was
last cleared, in the durable copy the entries since the copy was last removed, behind what it held
at first. That every step keeps the two in agreement is
`Agrees.perform`; that every answer is the one the ledger gives is `log_refines_ledger`.

Nothing is said of steps that the disk disturbs. Their entries are kept in memory all the same, but
the copy then holds less than the ledger.

Main definitions: `Action`, `history`, `copyAfter`, `Agrees`.
-/

namespace BuildMonitor.Ledger

open BuildMonitor.Log BuildMonitor.Text

/-- What is done with the log of a monitor. -/
inductive Action where
  /-- An entry is added. -/
  | append (entry : String)
  /-- The entries in memory are forgotten. -/
  | clear
  /-- The entries in memory are forgotten and the durable copy is removed. -/
  | reset
  /-- The durable copy is removed. -/
  | removeCopy
  /-- Some lines are read. -/
  | snapshot (count : Nat)
  /-- The entries in memory are counted. -/
  | size
  /-- Some lines are reported. -/
  | logs (count : Nat)
  /-- The clock is set to another time. -/
  | wait (now : Host.Instant)
  deriving DecidableEq, Repr

/-- The monitor after an action. -/
def perform (monitor : Monitor) : Action → Monitor
  | .append entry => monitor.append entry
  | .clear => { monitor with sink := monitor.sink.clear }
  | .reset => monitor.resetLog
  | .removeCopy => { monitor with host := (monitor.sink.removeCopy monitor.host).2 }
  | .wait now => { monitor with host := { monitor.host with now := now } }
  | .snapshot _ | .size | .logs _ => monitor

/-- The monitor after actions. -/
def run (monitor : Monitor) (actions : List Action) : Monitor := actions.foldl perform monitor

/-- What an action does to the durable copy succeeds. -/
def Succeeds (monitor : Monitor) : Action → Prop
  | .append entry =>
    (monitor.host.appendDurably monitor.sink.path (Utf8.encode entry)).1 = .ok ()
  | .reset | .removeCopy =>
    monitor.host.nextFault.1 = .none ∧ (monitor.sink.removeCopy monitor.host).1 = .ok ()
  | _ => True

/-- Every action succeeds in its turn. -/
def Undisturbed (monitor : Monitor) : List Action → Prop
  | [] => True
  | action :: rest => Succeeds monitor action ∧ Undisturbed (perform monitor action) rest

/-! ## Reading the ledger -/

/-- The actions behind the last one that is marked. -/
def since (isMark : Action → Bool) (actions : List Action) : List Action :=
  (actions.reverse.takeWhile fun action => !isMark action).reverse

/-- Whether the entries in memory are forgotten. -/
def forgets : Action → Bool
  | .clear | .reset => true
  | _ => false

/-- Whether the durable copy is removed. -/
def removes : Action → Bool
  | .reset | .removeCopy => true
  | _ => false

/-- The entry that is added. -/
def added? : Action → Option String
  | .append entry => some entry
  | _ => none

/-- The entries added since the log was last cleared or reset. -/
def history (actions : List Action) : List String := (since forgets actions).filterMap added?

/-- What the durable copy holds after actions, from what it held at first. -/
def copyAfter (initial : Option (List UInt8)) (actions : List Action) : Option (List UInt8) :=
  let kept := if actions.any removes then none else initial
  let entries := (since removes actions).filterMap added?
  if kept.isNone && entries.isEmpty then none
  else some (kept.getD [] ++ entries.flatMap Utf8.encode)

variable {isMark other : Action → Bool} {actions past : List Action} {action : Action}
  {initial : Option (List UInt8)} {monitor : Monitor} {path : String} {capacity : Nat}

/-- After a marked action nothing is left behind the last one; any other action is added. -/
theorem since_concat : since isMark (actions ++ [action]) =
    if isMark action then [] else since isMark actions ++ [action] := by
  simp only [since, List.reverse_append, List.reverse_singleton, List.singleton_append,
    List.takeWhile_cons]
  cases isMark action <;> simp

/-- Where nothing since the last mark bears another mark, that other mark is farther back. -/
theorem since_suffix (unmarked : ∀ action ∈ since isMark actions, other action = false) :
    since isMark actions <:+ since other actions := by
  simp only [since, List.mem_reverse] at unmarked ⊢
  rw [List.reverse_suffix]
  generalize actions.reverse = backwards at unmarked ⊢
  induction backwards with
  | nil => exact List.nil_prefix
  | cons action rest inductionHypothesis =>
    cases marked : isMark action with
    | true => simp [marked]
    | false =>
      simp only [List.takeWhile_cons, marked, Bool.not_false, if_true] at unmarked ⊢
      rw [unmarked action List.mem_cons_self]
      simpa using inductionHypothesis fun later member =>
        unmarked later (List.mem_cons_of_mem _ member)

/-- An action that forgets leaves no entries, and any other adds its own. -/
theorem history_concat : history (actions ++ [action]) =
    if forgets action then [] else history actions ++ (added? action).toList := by
  rw [history, since_concat]
  split
  · rfl
  · rw [List.filterMap_append, history]
    cases added : added? action <;> simp [added]

/-- An entry goes behind what the durable copy holds, be it nothing. -/
theorem copyAfter_concat_append (entry : String) : copyAfter initial (actions ++ [.append entry]) =
    some ((copyAfter initial actions).getD [] ++ Utf8.encode entry) := by
  simp only [copyAfter, since_concat, removes, List.any_append, List.any_cons, List.any_nil,
    Bool.or_false, Bool.false_eq_true, if_false, List.filterMap_append]
  generalize (if actions.any removes = true then none else initial) = kept
  generalize (since removes actions).filterMap added? = entries
  cases kept with
  | none => cases entries <;> simp [added?]
  | some bytes => simp [added?]

/-- After its removal there is no durable copy. -/
theorem copyAfter_concat_of_removes (removed : removes action = true) :
    copyAfter initial (actions ++ [action]) = none := by
  simp [copyAfter, since_concat, removed]

/-- An action that neither removes nor adds leaves the durable copy as it is. -/
theorem copyAfter_concat_of_idle (stays : removes action = false) (adds : added? action = none) :
    copyAfter initial (actions ++ [action]) = copyAfter initial actions := by
  simp [copyAfter, since_concat, stays, adds]

/-! ## The agreement -/

/-- The log of a monitor is what its ledger says. -/
structure Agrees (monitor : Monitor) (path : String) (capacity : Nat)
    (initial : Option (List UInt8)) (past : List Action) : Prop where
  samePath : monitor.sink.path = path
  sameCapacity : monitor.sink.capacity = max capacity 1
  entries : monitor.sink.entries = lastOf (max capacity 1) (history past)
  copy : monitor.host.Keeps path (copyAfter initial past)

/-- A removal that no fault disturbs and that succeeds leaves no copy. -/
theorem keeps_none_of_removeCopy (sink : LogSink) (host : Host) (plain : host.nextFault.1 = .none)
    (removed : (sink.removeCopy host).1 = .ok ()) :
    (sink.removeCopy host).2.Keeps sink.path none := by
  obtain ⟨fault, faults, next⟩ := host.exists_nextFault
  rw [next] at plain
  obtain rfl : fault = .none := plain
  refine Host.keeps_none_of_unlink host ?_ ?_
  · simp only [LogSink.removeCopy, Host.removeDurably, next, Host.settle]
    cases host.files.unlink host.directory sink.path <;> rfl
  · simp only [LogSink.removeCopy, Host.removeDurably, next, Host.settle] at removed ⊢
    cases unlinked : host.files.unlink host.directory sink.path with
    | ok files => exact Or.inl rfl
    | error error =>
      simp only [unlinked] at removed
      refine Or.inr ⟨?_, rfl⟩
      by_cases missing : error.isNotFound
      · rw [eq_of_beq missing]
      · simp [missing] at removed

/-- One step keeps the agreement. -/
theorem Agrees.perform (agrees : Agrees monitor path capacity initial past)
    (succeeds : Succeeds monitor action) :
    Agrees (perform monitor action) path capacity initial (past ++ [action]) := by
  obtain ⟨samePath, sameCapacity, entries, copy⟩ := agrees
  cases action with
  | append entry =>
    refine ⟨samePath, sameCapacity, ?_, ?_⟩
    · rw [← sameCapacity] at entries ⊢
      rw [history_concat]
      exact LogSink.push_window entries
    · rw [copyAfter_concat_append, ← samePath]
      exact Host.Keeps.appendDurably (samePath ▸ copy) succeeds
  | clear =>
    refine ⟨samePath, sameCapacity, ?_, ?_⟩
    · simp [history_concat, forgets, Ledger.perform, LogSink.clear]
    · rw [copyAfter_concat_of_idle rfl rfl]
      exact copy
  | reset =>
    refine ⟨samePath, sameCapacity, ?_, ?_⟩
    · simp [history_concat, forgets, Ledger.perform, Monitor.resetLog, LogSink.reset, LogSink.clear]
    · rw [copyAfter_concat_of_removes rfl, ← samePath]
      exact keeps_none_of_removeCopy monitor.sink monitor.host succeeds.1 succeeds.2
  | removeCopy =>
    refine ⟨samePath, sameCapacity, ?_, ?_⟩
    · rw [history_concat]
      simpa [forgets, added?, Ledger.perform] using entries
    · rw [copyAfter_concat_of_removes rfl, ← samePath]
      exact keeps_none_of_removeCopy monitor.sink monitor.host succeeds.1 succeeds.2
  | snapshot | size | logs | wait =>
    refine ⟨samePath, sameCapacity, ?_, ?_⟩
    · rw [history_concat]
      simpa [forgets, added?, Ledger.perform] using entries
    · rw [copyAfter_concat_of_idle rfl rfl]
      exact copy.of_node?_eq rfl

/-- A whole run keeps the agreement. -/
theorem Agrees.run (agrees : Agrees monitor path capacity initial past)
    (undisturbed : Undisturbed monitor actions) :
    Agrees (run monitor actions) path capacity initial (past ++ actions) := by
  induction actions generalizing monitor past with
  | nil => rw [List.append_nil]; exact agrees
  | cons action rest inductionHypothesis =>
    have next := inductionHypothesis (agrees.perform undisturbed.1) undisturbed.2
    rwa [List.append_assoc] at next

/-! ## What the agreement says -/

/-- The number of entries kept is that of the history, up to the room there is. -/
theorem Agrees.size_eq (agrees : Agrees monitor path capacity initial past) :
    monitor.sink.size = min (max capacity 1) (history past).length := by
  rw [LogSink.size, agrees.entries, length_lastOf]

/-- The lines that are read: the last of the history, or of the durable copy when there is none. -/
theorem Agrees.snapshot_eq (agrees : Agrees monitor path capacity initial past) (count : Nat) :
    monitor.sink.snapshot monitor.host count =
      if count = 0 then []
      else if history past = [] then
        lastOf (min count (max capacity 1))
          (splitLines (Utf8.decodeLossy ((copyAfter initial past).getD [])))
      else lastOf (min (min count (max capacity 1)) (history past).length) (history past) := by
  rw [LogSink.snapshot, agrees.sameCapacity]
  by_cases none : count = 0
  · simp [none]
  have some : min count (max capacity 1) ≠ 0 := by omega
  have forgotten : monitor.sink.entries.isEmpty = true ↔ history past = [] := by
    rw [List.isEmpty_iff, agrees.entries, lastOf_eq_nil_iff (by omega)]
  simp only [none, some, if_false, forgotten]
  split
  · rw [LogSink.tailOfCopy, agrees.samePath]
    have copy := agrees.copy
    generalize copyAfter initial past = copied at copy
    cases copied with
    | none =>
      obtain ⟨error, failed⟩ := Host.read_of_keeps_none copy
      rw [failed]
      simp [splitLines]
    | some bytes =>
      obtain ⟨content, given, holds⟩ := Host.read_of_keeps_some copy
      rw [given]
      simp [holds]
  · rw [agrees.entries, lastOf_lastOf, lastOf_min_length]
    congr 1
    omega

/-- What is in memory ends the durable copy, as long as the copy was not removed alone. -/
theorem Agrees.suffix (agrees : Agrees monitor path capacity initial past)
    (together : .removeCopy ∉ since forgets past) :
    monitor.sink.entries.flatMap Utf8.encode <:+ (copyAfter initial past).getD [] := by
  have unmarked : ∀ action ∈ since forgets past, removes action = false := by
    intro action member
    cases action with
    | removeCopy => exact absurd member together
    | reset =>
      have unmarked :=
        List.all_eq_true.mp List.all_takeWhile Action.reset (List.mem_reverse.mp member)
      simp [forgets] at unmarked
    | _ => rfl
  have recent : history past <:+ (since removes past).filterMap added? :=
    (since_suffix unmarked).filterMap added?
  have window : monitor.sink.entries <:+ history past :=
    agrees.entries ▸ lastOf_suffix _ _
  obtain ⟨before, joined⟩ := window.trans recent
  simp only [copyAfter, ← joined]
  generalize (if past.any removes then none else initial) = kept
  by_cases nothing : (kept.isNone && (before ++ monitor.sink.entries).isEmpty) = true
  · have empty := List.isEmpty_iff.mp (Bool.and_eq_true_iff.mp nothing).2
    simp [(List.append_eq_nil_iff.mp empty).2]
  · rw [if_neg nothing, Option.getD_some, List.flatMap_append, ← List.append_assoc]
    exact List.suffix_append _ _

/-- A log of any capacity agrees with its ledger at every point of every run that the disk does not
disturb, and so do all answers: what is kept in memory, the durable copy, the number of entries, and
the lines that are read and reported. -/
theorem log_refines_ledger (monitor : Monitor) (path : String) (capacity : Nat)
    (initial : Option (List UInt8)) (actions : List Action)
    (fresh : monitor.sink = LogSink.create path capacity)
    (holds : monitor.host.Keeps path initial) (undisturbed : Undisturbed monitor actions) :
    let room := max capacity 1
    let entries := history actions
    let copy := copyAfter initial actions
    let final := run monitor actions
    final.sink.entries = lastOf (min room entries.length) entries ∧
      final.sink.size = min room entries.length ∧
      final.host.Keeps path copy ∧
      (.removeCopy ∉ since forgets actions →
        final.sink.entries.flatMap Utf8.encode <:+ copy.getD []) ∧
      (∀ count, final.sink.snapshot final.host count =
        if count = 0 then []
        else if entries = [] then
          lastOf (min count room) (splitLines (Utf8.decodeLossy (copy.getD [])))
        else lastOf (min (min count room) entries.length) entries) ∧
      ∀ count, (final.logs count).lines =
          final.sink.snapshot final.host (min (min count room) 1000) ∧
        (final.logs count).totalLines = min room entries.length := by
  intro room entries copy final
  have begins : Agrees monitor path capacity initial [] := by
    refine ⟨by rw [fresh]; rfl, by rw [fresh]; rfl, ?_, ?_⟩
    · rw [fresh]
      simp [LogSink.create, history, since]
    · cases initial <;> simpa [copyAfter, since] using holds
  have agrees : Agrees final path capacity initial actions := begins.run undisturbed
  refine ⟨?_, agrees.size_eq, agrees.copy, agrees.suffix, agrees.snapshot_eq, ?_⟩
  · rw [lastOf_min_length]
    exact agrees.entries
  · intro count
    refine ⟨?_, agrees.size_eq⟩
    rw [Monitor.logs, Monitor.admittedLines, agrees.sameCapacity]
    rfl

/-! ## A disk that works -/

/-- On a disk that works every action succeeds, and the disk goes on to work. -/
theorem succeeds_of_unhindered {name : String}
    (unhindered : monitor.host.Unhindered monitor.sink.path name) (action : Action) :
    Succeeds monitor action ∧
      (perform monitor action).host.Unhindered (perform monitor action).sink.path name := by
  have removal : (monitor.host.nextFault.1 = .none ∧
      (monitor.sink.removeCopy monitor.host).1 = .ok ()) ∧
      (monitor.sink.removeCopy monitor.host).2.Unhindered monitor.sink.path name := by
    have due : monitor.host.nextFault.1 = .none := by rw [Host.nextFault, unhindered.plain]
    obtain ⟨removed | missing, still⟩ := unhindered.removeDurably
    · simp only [LogSink.removeCopy, removed]
      exact ⟨⟨due, trivial⟩, still⟩
    · simp only [LogSink.removeCopy, missing]
      exact ⟨⟨due, rfl⟩, still⟩
  cases action with
  | append entry => exact unhindered.appendDurably (Utf8.encode entry)
  | reset => exact removal
  | removeCopy => exact removal
  | clear => exact ⟨trivial, unhindered⟩
  | snapshot | size | logs => exact ⟨trivial, unhindered⟩
  | wait now =>
    exact ⟨trivial, unhindered.named, unhindered.last, unhindered.plain, unhindered.holds⟩

/-- On a disk that works every run is undisturbed. -/
theorem undisturbed_of_unhindered {name : String}
    (unhindered : monitor.host.Unhindered monitor.sink.path name) (actions : List Action) :
    Undisturbed monitor actions := by
  induction actions generalizing monitor with
  | nil => trivial
  | cons action rest inductionHypothesis =>
    obtain ⟨succeeds, still⟩ := succeeds_of_unhindered unhindered action
    exact ⟨succeeds, inductionHypothesis still⟩

/-- A monitor with room for one entry and no durable copy yet. -/
def smallMonitor : Monitor where
  host := Host.bare .system [] ⟨0, 0⟩
  markerPath := "/m"
  outputDirectory := "/out"
  command := ⟨"/build", "/", []⟩
  sink := LogSink.create "/l" 1
  tasks := []

/-- Entries that do not fit, and a new start. -/
def smallRun : List Action := [.append "a\n", .append "b\n", .reset, .append "c\n"]

/-- A log with room for one entry keeps the last one, and its copy what came since the new start. -/
theorem smallMonitor_refines_ledger :
    smallMonitor.host.Keeps "/l" none ∧ Undisturbed smallMonitor smallRun ∧
      (run smallMonitor smallRun).sink.entries = ["c\n"] ∧
      (run smallMonitor smallRun).host.Keeps "/l" (some (Utf8.encode "c\n")) := by
  have holds : smallMonitor.host.Keeps "/l" none := by
    have named : Host.NamesInRoot "/l" "l" := by decide
    show smallMonitor.host.node? "/l" = none
    rw [Host.node?, named.node_eq rfl]
    rfl
  have unhindered : smallMonitor.host.Unhindered "/l" "l" :=
    ⟨by decide, by decide, rfl, fun _ held => by cases held⟩
  have undisturbed : Undisturbed smallMonitor smallRun :=
    undisturbed_of_unhindered unhindered smallRun
  obtain ⟨entries, -, copy, -⟩ :=
    log_refines_ledger smallMonitor "/l" 1 none smallRun rfl holds undisturbed
  exact ⟨holds, undisturbed, entries, copy⟩

end BuildMonitor.Ledger
