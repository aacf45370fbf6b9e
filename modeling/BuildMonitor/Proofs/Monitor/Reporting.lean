import Mathlib.Data.List.Induction
import BuildMonitor.Proofs.Monitor.Interleaving
import BuildMonitor.Proofs.Monitor.Transcript

/-!
# Reports of the log

A request for lines of the log looks three times: at the entries in memory, at the durable copy if
there are none, and at the number of entries. Each look is at one instant, and anything may come in
between: `log_report_readings`. As long as the log is not started anew in between, and no entry
comes in, the report is the one that a single instant would have given, and so it is also when it
counts no entry. Otherwise it may be one that no instant would have given: `reports_of_no_instant`.

Main definitions: `Change`, `Scene.change`, `Readings`. Main statement: `log_report_readings`.
-/

namespace BuildMonitor

open Log

/-! ## What is done to the entries in memory -/

/-- What is done to the entries in memory: the log may be started anew, and entries are added. -/
structure Change where
  anew : Bool
  added : List String
  deriving DecidableEq, Repr

namespace Change

/-- Nothing is done. -/
def none : Change := ⟨false, []⟩

/-- Entries are added. -/
def adding (entries : List String) : Change := ⟨false, entries⟩

/-- The log after a change. -/
def apply (change : Change) (sink : LogSink) : LogSink :=
  change.added.foldl LogSink.push (if change.anew then sink.clear else sink)

/-- A change leaves the room for entries as it is. -/
theorem capacity_apply (change : Change) (sink : LogSink) :
    (change.apply sink).capacity = sink.capacity := by
  rw [apply, LogSink.foldl_push_capacity]
  split <;> rfl

/-- A log that is not started anew does not lose entries in number. -/
theorem size_le_apply {change : Change} (kept : change.anew = false) (sink : LogSink) :
    sink.size ≤ (change.apply sink).size := by
  simp only [apply, kept, Bool.false_eq_true, if_false]
  exact LogSink.size_le_foldl_push change.added sink

end Change

/-- What an action does to the entries in memory. -/
def Action.change {α : Type} : Action α → Change
  | .resetLog => ⟨true, []⟩
  | .append entry => .adding [entry]
  | _ => .none

/-- An action makes its change to the log. -/
theorem Action.sink_perform {α : Type} (action : Action α) (monitor : Monitor) :
    (action.perform monitor).2.sink = action.change.apply monitor.sink := by
  cases action with
  | terminate pid =>
    rw [Action.perform]
    cases monitor.host.processes.terminate pid <;> rfl
  | check | look | removeMarker | resetLog | append | addTask => rfl

/-- What a request that is carried out at one stroke does to the entries in memory. -/
def Request.change (monitor : Monitor) : Request → Change
  | .start =>
    if monitor.check = .idle then ⟨true, [Monitor.startEntry monitor.host.timestamp]⟩ else .none
  | .stop => .adding (Transcript.stopEntries monitor)
  | .status | .logs _ | .clearLock | .artifact _ => .none

/-- A request makes its change to the log. -/
theorem Request.sink_perform (monitor : Monitor) (request : Request) :
    (request.perform monitor).sink = (request.change monitor).apply monitor.sink := by
  cases request with
  | status | logs | artifact => rfl
  | start =>
    rw [Request.perform, Request.change]
    by_cases idle : monitor.check = .idle
    · rw [if_pos idle, start_of_idle idle, Transcript.sink_accept]
      rfl
    · rw [if_neg idle]
      rcases start_cases monitor with ⟨missing, -⟩ | ⟨error, -, refused⟩
      · exact absurd (Marker.check_eq_idle_iff.mpr missing) idle
      · rw [refused]
        rfl
  | stop =>
    obtain ⟨processes, stopped⟩ := Transcript.stop_snd monitor
    rw [Request.perform, stopped, Transcript.sink_appendAll]
    rfl
  | clearLock =>
    rw [Request.perform]
    rcases clearLock_cases monitor with ⟨pid, -, refused⟩ | ⟨-, cleared⟩
    · rw [refused]
      rfl
    · rw [cleared]
      rfl

/-- What a task does to the entries in memory when it is told something. -/
def Monitor.changeOf (monitor : Monitor) (number : Nat) (event : Build.Event) : Change :=
  match monitor.tasks[number]? with
  | none => .none
  | some task => .adding (task.additions monitor.host.timestamp event)

/-- A task that is told something makes its change to the log. -/
theorem Monitor.sink_advance (monitor : Monitor) (number : Nat) (event : Build.Event) :
    (monitor.advance number event).sink = (monitor.changeOf number event).apply monitor.sink := by
  rw [changeOf]
  cases found : monitor.tasks[number]? with
  | none => rw [advance_of_none found]; rfl
  | some task => rw [advance_eq found]; exact Transcript.sink_appendAll _ _

namespace Interleaving

variable {scene initial : Scene} {first last events later : List Event} {index count : Nat}

/-- What the next action of a request does to the entries in memory. -/
def UnderWay.change (one : UnderWay) : Change :=
  match one.rest with
  | .done _ => .none
  | .step action _ => action.change

/-- What an event does to the entries in memory. -/
def Scene.change (scene : Scene) : Event → Change
  | .act index =>
    match scene.requests[index]? with
    | none => .none
    | some one => one.change
  | .world (.request request) => request.change scene.monitor
  | .world (.report number told) => scene.monitor.changeOf number told
  | _ => .none

/-- An event makes its change to the log. -/
theorem Scene.sink_apply (scene : Scene) (event : Event) :
    (scene.apply event).monitor.sink = (scene.change event).apply scene.monitor.sink := by
  cases event with
  | made request => rfl
  | create index host => rfl
  | act index =>
    rw [Scene.apply, Scene.change]
    cases scene.requests[index]? with
    | none => rfl
    | some one =>
      obtain ⟨request, rest⟩ := one
      cases rest with
      | done reply => rfl
      | step action next => exact action.sink_perform scene.monitor
  | world event =>
    cases event with
    | publish | exit | surroundings => rfl
    | request request => exact request.sink_perform scene.monitor
    | report number told => exact scene.monitor.sink_advance number told
    | launch number pid =>
      have told := (scene.world.withProcess pid).monitor.sink_advance number .spawned
      have nothing : (scene.world.withProcess pid).monitor.changeOf number .spawned = .none := by
        rw [Monitor.changeOf]
        split
        · rfl
        · rw [Build.Task.additions_spawned]
          rfl
      rw [nothing] at told
      exact told

/-- The room for entries stays as it is. -/
theorem capacity_run (initial : Scene) (events : List Event) :
    (run initial events).monitor.sink.capacity = initial.monitor.sink.capacity := by
  induction events generalizing initial with
  | nil => rfl
  | cons event rest inductionHypothesis =>
    rw [run, List.foldl_cons]
    exact (inductionHypothesis (initial.apply event)).trans
      (by rw [Scene.sink_apply, Change.capacity_apply])

/-! ## From one instant to another -/

/-- No event between two instants starts the log anew. -/
def Unbroken (initial : Scene) (first last : List Event) : Prop :=
  ∀ instant event, first <+: instant → instant ++ [event] <+: last →
    ((run initial instant).change event).anew = false

/-- No event between two instants does anything to the entries in memory. -/
def Untouched (initial : Scene) (first last : List Event) : Prop :=
  ∀ instant event, first <+: instant → instant ++ [event] <+: last →
    (run initial instant).change event = .none

/-- Where nothing is done to the log it stays as it is. -/
theorem Untouched.sink_eq (untouched : Untouched initial first last) (since : first <+: last) :
    (run initial last).monitor.sink = (run initial first).monitor.sink := by
  obtain ⟨more, rfl⟩ := since
  induction more using List.reverseRecOn with
  | nil => rw [List.append_nil]
  | append_singleton more event inductionHypothesis =>
    rw [← List.append_assoc] at untouched ⊢
    have nothing := untouched (first ++ more) event (List.prefix_append _ _) (List.prefix_refl _)
    rw [run_concat, Scene.sink_apply, nothing]
    exact inductionHypothesis fun instant event since till =>
      untouched instant event since (till.trans (List.prefix_append _ _))

/-- As long as the log is not started anew its entries do not get fewer. -/
theorem Unbroken.size_le (unbroken : Unbroken initial first last) (since : first <+: last) :
    (run initial first).monitor.sink.size ≤ (run initial last).monitor.sink.size := by
  obtain ⟨more, rfl⟩ := since
  induction more using List.reverseRecOn with
  | nil => exact Nat.le_of_eq (by rw [List.append_nil])
  | append_singleton more event inductionHypothesis =>
    rw [← List.append_assoc] at unbroken ⊢
    have kept := unbroken (first ++ more) event (List.prefix_append _ _) (List.prefix_refl _)
    have sooner := inductionHypothesis fun instant event since till =>
      unbroken instant event since (till.trans (List.prefix_append _ _))
    rw [run_concat, Scene.sink_apply]
    exact Nat.le_trans sooner (Change.size_le_apply kept _)

/-! ## What a request for lines has read -/

/-- The lines of a report that first looked at the entries in memory at one instant, as they are
known at another. -/
inductive LinesRead (initial : Scene) (index count : Nat) (looked known : List Event) :
    List String → Prop where
  /-- None were asked for. -/
  | refused (none : initial.monitor.admittedLines count = 0) :
      LinesRead initial index count looked known []
  /-- They are from memory. -/
  | memory (some : (run initial looked).monitor.sink.entries ≠ []) :
      LinesRead initial index count looked known
        (lastOf (initial.monitor.admittedLines count) (run initial looked).monitor.sink.entries)
  /-- There was nothing in memory, and they are from the durable copy, which was looked at later. -/
  | copy (read : List Event) (some : initial.monitor.admittedLines count ≠ 0)
      (nothing : (run initial looked).monitor.sink.entries = [])
      (after : looked ++ [.act index] <+: read) (before : read ++ [.act index] <+: known) :
      LinesRead initial index count looked known
        ((run initial read).monitor.sink.tailOfCopy (run initial read).monitor.host
          (initial.monitor.admittedLines count))

/-- A report is made up of what the actions of a request have read: its lines, from the instant
`looked` on, and the number of entries, at the instant `measured`. -/
structure Readings (initial : Scene) (index count : Nat) (looked measured known : List Event)
    (lines : List String) (totalLines : Nat) : Prop where
  began : looked ++ [.act index] <+: measured
  lines : LinesRead initial index count looked measured lines
  totalLines : totalLines = (run initial measured).monitor.sink.size
  ended : measured ++ [.act index] <+: known

/-- How far a request for lines has come. -/
inductive Progress (initial : Scene) (index count : Nat) (known : List Event) :
    Procedure LogReport → Prop where
  | asked : Progress initial index count known (Procedure.logs count)
  | searching (looked : List Event) (began : looked ++ [.act index] <+: known)
      (some : initial.monitor.admittedLines count ≠ 0)
      (nothing : (run initial looked).monitor.sink.entries = []) :
      Progress initial index count known
        (.step (.look fun monitor =>
          monitor.sink.tailOfCopy monitor.host (initial.monitor.admittedLines count))
          Procedure.report)
  | measuring (looked : List Event) (lines : List String)
      (began : looked ++ [.act index] <+: known)
      (read : LinesRead initial index count looked known lines) :
      Progress initial index count known (Procedure.report lines)
  | timing (looked measured : List Event) (lines : List String) (totalLines : Nat)
      (readings : Readings initial index count looked measured known lines totalLines) :
      Progress initial index count known
        (Procedure.timed fun timestamp => .done ⟨lines, totalLines, timestamp⟩)
  | replied (looked measured : List Event) (report : LogReport)
      (readings : Readings initial index count looked measured known report.lines
        report.totalLines) :
      Progress initial index count known (.done report)

variable {looked measured known : List Event} {lines : List String} {totalLines : Nat}
  {rest : Procedure LogReport} {report : LogReport}

/-- What was read stays read when more has happened. -/
theorem LinesRead.mono (read : LinesRead initial index count looked known lines)
    (more : known <+: later) : LinesRead initial index count looked later lines := by
  cases read with
  | refused none => exact .refused none
  | memory some => exact .memory some
  | copy read some nothing after before => exact .copy read some nothing after (before.trans more)

/-- What was read and counted stays so when more has happened. -/
theorem Readings.mono
    (readings : Readings initial index count looked measured known lines totalLines)
    (more : known <+: later) :
    Readings initial index count looked measured later lines totalLines :=
  ⟨readings.began, readings.lines, readings.totalLines, readings.ended.trans more⟩

/-- What has been read stays read. -/
theorem Progress.mono (progress : Progress initial index count known rest)
    (more : known <+: later) : Progress initial index count later rest := by
  cases progress with
  | asked => exact .asked
  | searching looked began some nothing =>
    exact .searching looked (began.trans more) some nothing
  | measuring looked lines began read =>
    exact .measuring looked lines (began.trans more) (read.mono more)
  | timing looked measured lines totalLines readings =>
    exact .timing looked measured lines totalLines (readings.mono more)
  | replied looked measured report readings =>
    exact .replied looked measured report (readings.mono more)

/-- The room of the log does not change, so a request is admitted to the same number of lines
throughout. -/
theorem admittedLines_run (initial : Scene) (events : List Event) (count : Nat) :
    min ((run initial events).monitor.admittedLines count)
        (run initial events).monitor.sink.capacity =
      initial.monitor.admittedLines count := by
  rw [Monitor.admittedLines, Monitor.admittedLines, capacity_run]
  omega

/-- Each action of the request takes it one reading further. -/
theorem Progress.act (progress : Progress initial index count known rest) :
    Progress initial index count (known ++ [.act index])
      (rest.act (run initial known).monitor).1 := by
  have grows : known <+: known ++ [.act index] := List.prefix_append _ _
  cases progress with
  | asked =>
    simp only [Procedure.logs, Procedure.act, Action.perform, admittedLines_run]
    split
    · next refused => exact .measuring known [] (List.prefix_refl _) (.refused refused)
    next some =>
    split
    · next empty => exact .searching known (List.prefix_refl _) some (List.isEmpty_iff.mp empty)
    · next kept =>
      exact .measuring known _ (List.prefix_refl _)
        (.memory fun nothing => kept (List.isEmpty_iff.mpr nothing))
  | searching looked began some nothing =>
    exact .measuring looked _ (began.trans grows)
      (.copy known some nothing began (List.prefix_refl _))
  | measuring looked lines began read =>
    exact .timing looked known lines _ ⟨began, read, rfl, List.prefix_refl _⟩
  | timing looked measured lines totalLines readings =>
    exact .replied looked measured ⟨lines, totalLines, _⟩ (readings.mono grows)
  | replied looked measured report readings =>
    exact .replied looked measured report (readings.mono grows)

/-- A request for lines has come somewhere; nothing is said of other requests. -/
def HasProgressed (initial : Scene) (known : List Event) (index : Nat) (one : UnderWay) : Prop :=
  match one with
  | ⟨.logs count, rest⟩ => Progress initial index count known rest
  | _ => True

/-- A report is made up of what the request has read. -/
theorem exists_readings (quiet : initial.requests = [])
    (replied : (run initial events).requests[index]? = some ⟨.logs count, .done report⟩) :
    ∃ looked measured,
      Readings initial index count looked measured events report.lines report.totalLines := by
  have progressed : HasProgressed initial events index ⟨.logs count, .done report⟩ := by
    refine known_run ?_ ?_ ?_ quiet events index _ replied
    · intro past index request
      cases request <;> first | exact .asked | trivial
    · rintro past index ⟨request, rest⟩ - progressed
      cases request <;> first | exact Progress.act progressed | trivial
    · rintro past index ⟨request, rest⟩ event - progressed
      cases request <;> first | exact Progress.mono progressed (List.prefix_append _ _) | trivial
  cases progressed with
  | replied looked measured report readings => exact ⟨looked, measured, readings⟩

/-! ## Reports of one instant -/

/-- The report has the lines and the number of entries that a report of the log as it stands would
have. -/
def Scene.Gives (scene : Scene) (count : Nat) (report : LogReport) : Prop :=
  report.lines = (scene.monitor.logs count).lines ∧
    report.totalLines = (scene.monitor.logs count).totalLines

/-- The lines are those of a report of an instant, if memory held the same then as when it was
looked at. -/
theorem LinesRead.exists_instant (read : LinesRead initial index count looked known lines)
    (since : looked <+: known) :
    ∃ instant, looked <+: instant ∧ instant <+: known ∧
      ((run initial instant).monitor.sink.entries = (run initial looked).monitor.sink.entries →
        lines = ((run initial instant).monitor.logs count).lines) := by
  cases read with
  | refused none =>
    refine ⟨looked, List.prefix_refl _, since, fun _ => ?_⟩
    simp only [Monitor.logs, LogSink.snapshot, admittedLines_run, none, if_true]
  | memory some =>
    refine ⟨looked, List.prefix_refl _, since, fun _ => ?_⟩
    rw [Monitor.logs, LogSink.snapshot_eq_lastOf some, admittedLines_run]
  | copy read some nothing after before =>
    have reached : looked <+: read := (List.prefix_append _ _).trans after
    refine ⟨read, reached, (List.prefix_append _ _).trans before, fun same => ?_⟩
    simp only [Monitor.logs, LogSink.snapshot, admittedLines_run, some, same, nothing, if_false,
      List.isEmpty_nil, if_true]

/-- A report is one of an instant if memory held the same at all instants in between. -/
theorem Readings.exists_gives
    (readings : Readings initial index count looked measured events report.lines report.totalLines)
    (same : ∀ instant, looked <+: instant → instant <+: measured →
      (run initial instant).monitor.sink.entries = (run initial looked).monitor.sink.entries) :
    ∃ instant, looked <+: instant ∧ instant <+: measured ∧
      (run initial instant).Gives count report := by
  have since : looked <+: measured := (List.prefix_append _ _).trans readings.began
  obtain ⟨instant, from_, till, lines⟩ := readings.lines.exists_instant since
  refine ⟨instant, from_, till, lines (same instant from_ till), ?_⟩
  rw [readings.totalLines, Monitor.logs, LogSink.size, LogSink.size, same measured since
    (List.prefix_refl _), same instant from_ till]

/-- Nothing that is in memory at an instant was there before if the log was not started anew and
there is nothing afterwards. -/
theorem Unbroken.entries_eq_nil (unbroken : Unbroken initial first last)
    (zero : (run initial last).monitor.sink.size = 0) {instant : List Event}
    (since : first <+: instant) (till : instant <+: last) :
    (run initial instant).monitor.sink.entries = [] := by
  have later : Unbroken initial instant last :=
    fun other event since' till' => unbroken other event (since.trans since') till'
  have grown := later.size_le till
  rw [zero, LogSink.size] at grown
  exact List.length_eq_zero_iff.mp (Nat.le_zero.mp grown)

/-- The lines of a report of an instant are as many as are admitted, unless fewer entries are kept.
-/
theorem Scene.Gives.length_lines (gives : (run initial events).Gives count report)
    (some : 0 < report.totalLines) :
    report.lines.length = min (initial.monitor.admittedLines count) report.totalLines := by
  obtain ⟨lines, total⟩ := gives
  have counted : report.totalLines = (run initial events).monitor.sink.entries.length := total
  have kept : (run initial events).monitor.sink.entries ≠ [] := by
    rw [← List.length_pos_iff, ← counted]
    exact some
  rw [lines, Monitor.logs, LogSink.snapshot_eq_lastOf kept, admittedLines_run, length_lastOf,
    counted]

/-- What comes in between is `Untouched` or `Unbroken` as far as memory is concerned. Whatever it
is, a report has the lines of memory at one instant, or, if there was nothing there, those of the
durable copy at a later one, and the number of entries at an instant after both. It is the report of
one instant if nothing was done to memory in between, and its lines are then as many as are admitted
unless fewer entries are kept; and also if the log was not started anew and the report counts no
entry. If the log was not started anew and the lines are from memory, they are as many as are
admitted unless fewer entries were kept then, of which the report counts at least as many. -/
theorem log_report_readings (initial : Scene) (quiet : initial.requests = [])
    (events : List Event) (index count : Nat) (report : LogReport)
    (replied : (run initial events).requests[index]? = some ⟨.logs count, .done report⟩) :
    ∃ looked measured,
      Readings initial index count looked measured events report.lines report.totalLines ∧
      (Untouched initial looked measured ∨
          Unbroken initial looked measured ∧ report.totalLines = 0 →
        ∃ instant, looked <+: instant ∧ instant <+: measured ∧
          (run initial instant).Gives count report) ∧
      (Untouched initial looked measured → 0 < report.totalLines →
        report.lines.length = min (initial.monitor.admittedLines count) report.totalLines) ∧
      (Unbroken initial looked measured → (run initial looked).monitor.sink.entries ≠ [] →
        report.lines.length =
            min (initial.monitor.admittedLines count) (run initial looked).monitor.sink.size ∧
          (run initial looked).monitor.sink.size ≤ report.totalLines) := by
  obtain ⟨looked, measured, readings⟩ := exists_readings quiet replied
  have since : looked <+: measured := (List.prefix_append _ _).trans readings.began
  have gives_of_untouched (untouched : Untouched initial looked measured) :
      ∃ instant, looked <+: instant ∧ instant <+: measured ∧
        (run initial instant).Gives count report := by
    refine readings.exists_gives fun instant from_ till => ?_
    have sooner : Untouched initial looked instant :=
      fun other event since' till' => untouched other event since' (till'.trans till)
    rw [sooner.sink_eq from_]
  refine ⟨looked, measured, readings, ?_, fun untouched some => ?_, fun unbroken some => ⟨?_, ?_⟩⟩
  · rintro (untouched | ⟨unbroken, zero⟩)
    · exact gives_of_untouched untouched
    · have none : (run initial measured).monitor.sink.size = 0 := readings.totalLines ▸ zero
      refine readings.exists_gives fun instant from_ till => ?_
      rw [unbroken.entries_eq_nil none from_ till,
        unbroken.entries_eq_nil none (List.prefix_refl _) since]
  · obtain ⟨instant, -, -, gives⟩ := gives_of_untouched untouched
    exact gives.length_lines some
  · have read := readings.lines
    generalize report.lines = lines at read ⊢
    cases read with
    | refused none => simp [none]
    | memory => rw [length_lastOf, LogSink.size]
    | copy _ _ nothing => exact absurd nothing some
  · rw [readings.totalLines]
    exact unbroken.size_le since

/-! ## Reports of no instant -/

/-- A scene without a marker, with entries in memory and tasks. -/
def loggedScene (entries : List String) (tasks : List Build.Task) : Scene :=
  let fresh := Slot.freshWorld.monitor
  ⟨⟨{ fresh with sink := { fresh.sink with entries := entries }, tasks := tasks }, []⟩, [], []⟩

/-- A build whose output is being forwarded. -/
def streamingTask : Build.Task := ⟨⟨"/build", "/", []⟩, .streaming .start⟩

/-- A line of output comes in after a request has looked at the lines and before it has counted. -/
def lineInBetween : List Event :=
  [.made (.logs 5), .act 0, .act 0, .world (.report 0 (.output [97, 10])), .act 0, .act 0]

/-- A build is started after a request has looked at the lines and before it has counted. -/
def startInBetween : List Event :=
  [.made (.logs 5), .act 0, .made .start, .act 1, .act 1, .act 0, .act 0]

private theorem tailOfCopy_of_error {sink : LogSink} {host : Host} {count : Nat}
    {error : Host.IoError} (missing : host.read sink.path = .error error) :
    sink.tailOfCopy host count = [] := by
  rw [LogSink.tailOfCopy, missing]

/-- The one report has no line and counts one, which no instant would have given; the other has a
line of an earlier build and counts none. -/
theorem reports_of_no_instant :
    (Possible (loggedScene [] [streamingTask]) lineInBetween ∧
      ∃ report, (run (loggedScene [] [streamingTask]) lineInBetween).requests[0]? =
          some ⟨.logs 5, .done report⟩ ∧
        report.lines = [] ∧ report.totalLines = 1 ∧
        ∀ instant, ¬ (run (loggedScene [] [streamingTask]) instant).Gives 5 report) ∧
    (Possible (loggedScene ["old\n"] []) startInBetween ∧
      ∃ report, (run (loggedScene ["old\n"] []) startInBetween).requests[0]? =
          some ⟨.logs 5, .done report⟩ ∧
        report.lines = ["old\n"] ∧ report.totalLines = 0) := by
  constructor
  · have log : Host.NamesInRoot "/l" "l" := by decide
    have missing : Slot.freshWorld.monitor.host.read "/l" = .error (.os .noEntry) :=
      log.read_eq rfl
    have nothing : Slot.freshWorld.monitor.sink.tailOfCopy Slot.freshWorld.monitor.host 5 = [] :=
      tailOfCopy_of_error missing
    have never (report : LogReport) (noLine : report.lines = []) (one : report.totalLines = 1)
        (instant : List Event) : ¬ (run (loggedScene [] [streamingTask]) instant).Gives 5 report := by
      intro gives
      have counted := gives.length_lines (one ▸ Nat.one_pos)
      rw [noLine, one] at counted
      cases counted
    refine ⟨?_, ⟨_, _, _⟩, rfl, nothing, rfl, never _ nothing rfl⟩
    simp [Possible, lineInBetween, Scene.Allows, Slot.World.Allows, Scene.apply, loggedScene,
      Scene.withMonitor]
  · have marker : Host.NamesInRoot "/m" "m" := by decide
    have idle : (loggedScene ["old\n"] []).monitor.check = .idle :=
      Marker.check_eq_idle_iff.mpr (Marker.missing_of_namesInRoot marker rfl)
    have looked : UnderWay.act ⟨.start, Procedure.start⟩ (loggedScene ["old\n"] []).monitor =
        (⟨.start, Procedure.accept⟩, (loggedScene ["old\n"] []).monitor) := by
      simp only [UnderWay.act, Procedure.start, Procedure.act, Action.perform, idle]
      rfl
    have begun : run (loggedScene ["old\n"] []) (startInBetween.take 4) =
        ⟨(loggedScene ["old\n"] []).world,
          [⟨.logs 5, Procedure.report ["old\n"]⟩, ⟨.start, Procedure.accept⟩], []⟩ := by
      have acted := apply_act_last (loggedScene ["old\n"] []).world
        [⟨.logs 5, Procedure.report ["old\n"]⟩] ⟨.start, Procedure.start⟩ []
      have same : (loggedScene ["old\n"] []).world.monitor = (loggedScene ["old\n"] []).monitor :=
        rfl
      rw [same, looked] at acted
      exact acted
    have possible : Possible (loggedScene ["old\n"] []) startInBetween := by
      simp [Possible, startInBetween, Scene.Allows, Scene.apply, loggedScene, Scene.withMonitor]
    have split : startInBetween = startInBetween.take 4 ++ [.act 1, .act 0, .act 0] := rfl
    refine ⟨possible, ?_⟩
    rw [split, run_append, begun]
    exact ⟨⟨_, _, _⟩, rfl, rfl, rfl⟩

/-- A line of output comes in after a request has taken the lines from memory. -/
def lineAfterLines : List Event :=
  [.made (.logs 5), .act 0, .world (.report 0 (.output [97, 10])), .act 0, .act 0]

/-- The report counts the line and does not have it. -/
theorem lineAfterLines_readings :
    ∃ looked measured,
      Readings (loggedScene ["old\n"] [streamingTask]) 0 5 looked measured lineAfterLines
        ["old\n"] 2 := by
  have replied : (run (loggedScene ["old\n"] [streamingTask]) lineAfterLines).requests[0]? =
      some ⟨.logs 5, .done ⟨["old\n"], 2, _⟩⟩ := rfl
  obtain ⟨looked, measured, readings, -⟩ :=
    log_report_readings (loggedScene ["old\n"] [streamingTask]) rfl lineAfterLines 0 5 _ replied
  exact ⟨looked, measured, readings⟩

end Interleaving

end BuildMonitor
