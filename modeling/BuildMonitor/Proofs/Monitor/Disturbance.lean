import Mathlib.Data.List.Basic
import Mathlib.Data.List.Induction
import Mathlib.Data.Set.Insert
import BuildMonitor.Proofs.Host.Places
import BuildMonitor.Proofs.Monitor.Transcript

/-!
# Trouble with the disk

Each operation on the durable copy of the log may fail, by a plan that nothing is known of. Two runs
of the same turns that differ in their plans only are alike at every point: their logs in memory and
their tasks are the same, builds are accepted and refused alike, and so all answers are the same
that are given from memory: `disk_trouble_stays_on_disk`.

What a start finds is read off the marker, and the marker is a file as well. Where its path leads
through the log, trouble with the log decides whether a build is accepted:
`throughLog_starts_differ`. So each start asks for a marker that reads the same whatever is at the
places of the log.

Main definitions: `Turn`, `run`, `SameAnswers`. Main statement: `disk_trouble_stays_on_disk`.
-/

namespace BuildMonitor.Disturbance

open Host Log

/-! ## Runs -/

/-- What happens to a monitor and its log. -/
inductive Turn where
  /-- Something is done with the log. -/
  | log (action : Ledger.Action)
  /-- The monitor is asked to start a build. -/
  | start
  /-- The task of a build is told something of its script. -/
  | script (number : Nat) (event : Build.Event)
  /-- Scripts and others change the surroundings. -/
  | surroundings (change : Host → Host)

/-- The monitor after a turn. -/
def apply (monitor : Monitor) : Turn → Monitor
  | .log action => Ledger.perform monitor action
  | .start => monitor.start.2
  | .script number event => monitor.advance number event
  | .surroundings change => { monitor with host := change monitor.host }

/-- The monitor after turns. -/
def run (monitor : Monitor) (turns : List Turn) : Monitor := turns.foldl apply monitor

/-- The monitor with a plan of what goes wrong with the durable copy. -/
def withPlan (monitor : Monitor) (plan : List Fault) : Monitor :=
  { monitor with host := { monitor.host with faults := plan } }

/-- The change comes out the same elsewhere whatever is at the places, and the path goes on to lead
to none but them. -/
structure Respects (change : Host → Host) (path : String) (places : Set Location) : Prop where
  alike : ∀ first second, AlikeOff places first second →
    AlikeOff places (change first) (change second)
  confined : ∀ host, host.Confined path places → (change host).Confined path places

/-- Each start finds a marker that reads the same whatever is at the places. -/
def MarkerAside (places : Set Location) (monitor : Monitor) (turns : List Turn) : Prop :=
  ∀ before, before ++ [.start] <+: turns →
    (run monitor before).host.Ignores monitor.markerPath places

/-- All that is answered from memory is answered the same. -/
structure SameAnswers (first second : Monitor) : Prop where
  entries : first.sink.entries = second.sink.entries
  size : first.sink.size = second.sink.size
  totalLines : ∀ count, (first.logs count).totalLines = (second.logs count).totalLines
  snapshot : first.sink.entries ≠ [] → ∀ count,
    first.sink.snapshot first.host count = second.sink.snapshot second.host count
  logs : first.sink.entries ≠ [] → ∀ count, first.logs count = second.logs count
  outcomes : first.tasks.map Build.Task.outcome? = second.tasks.map Build.Task.outcome?

/-! ## Monitors that are alike -/

variable {places : Set Location} {monitor first second : Monitor} {turn : Turn}
  {before turns : List Turn}

/-- Two monitors that differ at the places of the log only, and in what is to go wrong with it. -/
structure Alike (places : Set Location) (first second : Monitor) : Prop where
  sink : first.sink = second.sink
  tasks : first.tasks = second.tasks
  command : first.command = second.command
  marker : first.markerPath = second.markerPath
  host : AlikeOff places first.host second.host
  confined : first.host.Confined first.sink.path places
  confined' : second.host.Confined second.sink.path places

namespace Alike

/-- An entry that is added leaves monitors alike. -/
theorem append (alike : Alike places first second) (entry : String) :
    Alike places (first.append entry) (second.append entry) := by
  obtain ⟨off, confined⟩ := alikeOff_appendDurably alike.confined (Text.Utf8.encode entry)
  obtain ⟨off', confined'⟩ := alikeOff_appendDurably alike.confined' (Text.Utf8.encode entry)
  exact ⟨congrArg (·.push entry) alike.sink, alike.tasks, alike.command, alike.marker,
    off.trans (alike.host.trans off'.symm), confined, confined'⟩

/-- Entries that are added leave monitors alike. -/
theorem appendAll (alike : Alike places first second) (entries : List String) :
    Alike places (first.appendAll entries) (second.appendAll entries) := by
  induction entries generalizing first second with
  | nil => exact alike
  | cons entry rest inductionHypothesis => exact inductionHypothesis (alike.append entry)

/-- Forgetting the entries in memory leaves monitors alike. -/
theorem clear (alike : Alike places first second) :
    Alike places { first with sink := first.sink.clear }
      { second with sink := second.sink.clear } :=
  ⟨congrArg LogSink.clear alike.sink, alike.tasks, alike.command, alike.marker, alike.host,
    alike.confined, alike.confined'⟩

/-- Removing the durable copy leaves monitors alike. -/
theorem removeCopy (alike : Alike places first second) :
    Alike places { first with host := (first.sink.removeCopy first.host).2 }
      { second with host := (second.sink.removeCopy second.host).2 } := by
  obtain ⟨off, confined⟩ := alikeOff_removeDurably alike.confined
  obtain ⟨off', confined'⟩ := alikeOff_removeDurably alike.confined'
  rw [LogSink.removeCopy_snd, LogSink.removeCopy_snd]
  exact ⟨alike.sink, alike.tasks, alike.command, alike.marker,
    off.trans (alike.host.trans off'.symm), confined, confined'⟩

/-- Starting the log anew leaves monitors alike. -/
theorem resetLog (alike : Alike places first second) :
    Alike places first.resetLog second.resetLog :=
  alike.removeCopy.clear

/-- Accepting a build leaves monitors alike. -/
theorem accept (alike : Alike places first second) :
    Alike places first.accept second.accept := by
  have reset := alike.resetLog
  have opened := reset.append (Monitor.startEntry first.resetLog.host.timestamp)
  simp only [Monitor.accept, reset.host.timestamp_eq] at opened ⊢
  exact ⟨opened.sink, by rw [opened.tasks, opened.command], opened.command, opened.marker,
    opened.host, opened.confined, opened.confined'⟩

/-- What a task is told makes it the same task, and makes it add the same entries. -/
theorem advance (alike : Alike places first second) (number : Nat) (event : Build.Event) :
    Alike places (first.advance number event) (second.advance number event) := by
  cases found : first.tasks[number]? with
  | none =>
    have found' : second.tasks[number]? = none := by rw [← alike.tasks, found]
    rw [Monitor.advance_of_none found, Monitor.advance_of_none found']
    exact alike
  | some task =>
    have found' : second.tasks[number]? = some task := by rw [← alike.tasks, found]
    have added := alike.appendAll (task.additions first.host.timestamp event)
    rw [Monitor.advance_eq found, Monitor.advance_eq found']
    rw [alike.host.timestamp_eq] at added ⊢
    exact ⟨added.sink, by rw [alike.tasks, task.step_fst_eq], added.command, added.marker,
      added.host, added.confined, added.confined'⟩

/-- Whatever is done with the log leaves monitors alike. -/
theorem log (alike : Alike places first second) (action : Ledger.Action) :
    Alike places (Ledger.perform first action) (Ledger.perform second action) := by
  cases action with
  | append entry => exact alike.append entry
  | clear => exact alike.clear
  | reset => exact alike.resetLog
  | removeCopy => exact alike.removeCopy
  | snapshot | size | logs => exact alike
  | wait now =>
    obtain ⟨processes, directory, -, addresses, files⟩ := alike.host
    exact ⟨alike.sink, alike.tasks, alike.command, alike.marker,
      ⟨processes, directory, rfl, addresses, files⟩, alike.confined, alike.confined'⟩

/-- A marker that reads the same whatever is at the places says the same. -/
theorem check_eq (alike : Alike places first second)
    (aside : first.host.Ignores first.markerPath places) : first.check = second.check := by
  rw [Monitor.check, Monitor.check, Marker.check, Marker.check, ← alike.marker,
    alike.host.processes, aside second.host alike.host]

/-- Builds are accepted and refused alike. -/
theorem start (alike : Alike places first second) (same : first.check = second.check) :
    first.start.1 = second.start.1 ∧ Alike places first.start.2 second.start.2 := by
  rw [Monitor.start, Monitor.start, same, alike.tasks]
  cases Monitor.refusal? second.check with
  | some error => exact ⟨rfl, alike⟩
  | none => exact ⟨rfl, alike.accept⟩

/-- Every turn leaves monitors alike. -/
theorem apply (alike : Alike places first second)
    (respects : ∀ change, turn = .surroundings change → Respects change first.sink.path places)
    (aside : turn = .start → first.host.Ignores first.markerPath places) :
    Alike places (apply first turn) (apply second turn) := by
  cases turn with
  | log action => exact alike.log action
  | start => exact (alike.start (alike.check_eq (aside rfl))).2
  | script number event => exact alike.advance number event
  | surroundings change =>
    have changes := respects change rfl
    exact ⟨alike.sink, alike.tasks, alike.command, alike.marker,
      changes.alike first.host second.host alike.host,
      changes.confined first.host alike.confined,
      alike.sink ▸ changes.confined second.host (alike.sink ▸ alike.confined')⟩

end Alike

/-! ## Whole runs -/

/-- A run ends with its last turn. -/
theorem run_concat (monitor : Monitor) (turns : List Turn) (turn : Turn) :
    run monitor (turns ++ [turn]) = apply (run monitor turns) turn := by
  rw [run, List.foldl_concat]
  rfl

/-- No turn moves the log or the marker. -/
theorem paths_apply (monitor : Monitor) (turn : Turn) :
    (apply monitor turn).sink.path = monitor.sink.path ∧
      (apply monitor turn).markerPath = monitor.markerPath := by
  cases turn with
  | log action => cases action <;> exact ⟨rfl, rfl⟩
  | start =>
    rw [apply]
    rcases start_cases monitor with ⟨-, started⟩ | ⟨error, -, started⟩
    · rw [started]
      exact ⟨rfl, rfl⟩
    · rw [started]
      exact ⟨rfl, rfl⟩
  | script number event =>
    rw [apply]
    cases found : monitor.tasks[number]? with
    | none => rw [Monitor.advance_of_none found]; exact ⟨rfl, rfl⟩
    | some task =>
      have marker (entries : List String) :
          (monitor.appendAll entries).markerPath = monitor.markerPath := by
        rw [Monitor.appendAll_eq]
      rw [Monitor.advance_eq found]
      refine ⟨?_, marker _⟩
      rw [Transcript.sink_appendAll, LogSink.foldl_push_path]
  | surroundings => exact ⟨rfl, rfl⟩

/-- No run moves the log or the marker. -/
theorem paths_run (monitor : Monitor) (turns : List Turn) :
    (run monitor turns).sink.path = monitor.sink.path ∧
      (run monitor turns).markerPath = monitor.markerPath := by
  induction turns generalizing monitor with
  | nil => exact ⟨rfl, rfl⟩
  | cons turn rest inductionHypothesis =>
    obtain ⟨log, marker⟩ := paths_apply monitor turn
    obtain ⟨log', marker'⟩ := inductionHypothesis (apply monitor turn)
    exact ⟨log'.trans log, marker'.trans marker⟩

/-- Two runs that differ in their plans only are alike at every point. -/
theorem alike_run {plan plan' : List Fault}
    (confined : monitor.host.Confined monitor.sink.path places)
    (respects : ∀ change, .surroundings change ∈ turns →
      Respects change monitor.sink.path places)
    (aside : MarkerAside places (withPlan monitor plan) turns)
    (part : before <+: turns) :
    Alike places (run (withPlan monitor plan) before) (run (withPlan monitor plan') before) := by
  induction before using List.reverseRecOn with
  | nil => exact ⟨rfl, rfl, rfl, rfl, ⟨rfl, rfl, rfl, rfl, fun _ _ => rfl⟩, confined, confined⟩
  | append_singleton earlier turn inductionHypothesis =>
    have alike := inductionHypothesis ((List.prefix_append earlier [turn]).trans part)
    have member : turn ∈ turns := part.subset (List.mem_append_right earlier List.mem_cons_self)
    rw [run_concat, run_concat]
    obtain ⟨log, marker⟩ := paths_run (withPlan monitor plan) earlier
    refine alike.apply (fun change same => ?_) fun same => ?_
    · exact log ▸ respects change (same ▸ member)
    · exact marker ▸ aside earlier (same ▸ part)

/-- Monitors that are alike answer alike. -/
theorem Alike.answers (alike : Alike places first second) : SameAnswers first second := by
  obtain ⟨sink, tasks, -, -, host, -, -⟩ := alike
  have snapshot (kept : first.sink.entries ≠ []) (count : Nat) :
      first.sink.snapshot first.host count = second.sink.snapshot second.host count := by
    rw [← sink, LogSink.snapshot_eq_lastOf kept, LogSink.snapshot_eq_lastOf kept]
  refine ⟨by rw [sink], by rw [sink], fun count => ?_, snapshot, fun kept count => ?_,
    by rw [tasks]⟩
  · rw [Monitor.logs, Monitor.logs, sink]
  · rw [Monitor.logs, Monitor.logs, Monitor.admittedLines, Monitor.admittedLines, snapshot kept,
      host.timestamp_eq, sink]

/-- Two runs of the same turns from the same monitor, with any two plans of what goes wrong with the
durable copy, are alike at every point: the same is kept in memory and answered from it, builds are
accepted and refused alike, and come to the same outcomes. What scripts and others do between may
depend on anything but the places that the path of the log leads to, and each start finds a marker
that does not depend on them either. Whatever goes wrong, an entry is added to those in memory, and
a log that is started anew has none. -/
theorem disk_trouble_stays_on_disk (monitor : Monitor) (plan plan' : List Fault)
    (places : Set Location) (turns : List Turn)
    (confined : monitor.host.Confined monitor.sink.path places)
    (respects : ∀ change, .surroundings change ∈ turns →
      Respects change monitor.sink.path places)
    (aside : MarkerAside places (withPlan monitor plan) turns) (part : before <+: turns) :
    let first := run (withPlan monitor plan) before
    let second := run (withPlan monitor plan') before
    SameAnswers first second ∧
      (before ++ [.start] <+: turns → first.start.1 = second.start.1) ∧
      (∀ host entry, (first.sink.append host entry).1.entries.getLast? = some entry) ∧
      ∀ host, (first.sink.reset host).2.1.entries = [] := by
  intro first second
  have alike : Alike places first second := alike_run confined respects aside part
  refine ⟨alike.answers, fun starts => ?_, fun host entry => ?_, fun _ => rfl⟩
  · have marker := (paths_run (withPlan monitor plan) before).2
    exact (alike.start (alike.check_eq (marker ▸ aside before starts))).1
  · exact List.getLast?_concat

/-- A marker whose path leads through the log. -/
def throughLog : Monitor where
  host := Host.bare .system [] ⟨0, 0⟩
  markerPath := "/l/m"
  outputDirectory := "/out"
  command := ⟨"/b", "/", []⟩
  sink := LogSink.create "/l" 10
  tasks := []

/-- Behind a file nothing can be read. -/
private theorem readText_behind_log {host : Host} {file : RegularFile}
    (held : host.files.get? ["l"] = some (.file file)) :
    host.readText "/l/m" = .error (.os .notDirectory) := by
  have pieces : Files.walkPieces "/l/m" = ["l", "m"] := by decide
  have walked : host.files.walk true Files.linkLimit [] (Files.walkPieces "/l/m") =
      .error .notDirectory := by
    rw [pieces, Files.walk, if_neg (by decide), if_neg (by decide), if_neg (by decide)]
    simp only [List.nil_append, held, List.isEmpty_cons, Bool.false_eq_true, if_false]
  have resolved : host.files.resolve host.directory true "/l/m" = .error (.os .notDirectory) := by
    have absolute : Path.isAbsolute "/l/m" = true := by decide
    simp only [Files.resolve, absolute, if_true, walked]
    rfl
  rw [Host.readText, Host.read, Files.read, Files.node, resolved]
  rfl

/-- Where the log cannot be written there is no marker, and where it can be the marker is behind a
file: there a build is refused. -/
theorem throughLog_starts_differ :
    let entered := [Turn.log (.append "a\n")]
    (run (withPlan throughLog [.refused (.os .accessDenied)]) entered).start.1 = .ok 0 ∧
      (run (withPlan throughLog []) entered).start.1 =
        .error (.markerUnreadable
          "Failed to read lock file /l/m: Not a directory (os error 20)") := by
  intro entered
  constructor
  · have missed : Files.Misses throughLog.host.files true Files.linkLimit [] ["l", "m"] :=
      .missing (by decide) rfl
    have usable : Files.Usable "/l/m" := by decide
    have unread : (run (withPlan throughLog [.refused (.os .accessDenied)]) entered).host.readText
        "/l/m" = .error (.os .noEntry) := by
      show Host.readText { throughLog.host with faults := [] } "/l/m" = _
      rw [Host.readText, Host.read, Files.read]
      simp only
      rw [Files.node_of_misses usable missed]
      rfl
    have idle : (run (withPlan throughLog [.refused (.os .accessDenied)]) entered).check = .idle :=
      Marker.check_eq_idle_iff.mpr ⟨_, unread, rfl⟩
    rw [start_of_idle idle]
    rfl
  · have unhindered : throughLog.host.Unhindered "/l" "l" :=
      ⟨by decide, by decide, rfl, fun _ held => by cases held⟩
    obtain ⟨file, added⟩ := unhindered.exists_appendDurably (Text.Utf8.encode "a\n")
    have behindFile : (run (withPlan throughLog []) entered).host.readText "/l/m" =
        .error (.os .notDirectory) := by
      show Host.readText (throughLog.host.appendDurably "/l" (Text.Utf8.encode "a\n")).2 "/l/m" = _
      rw [added]
      exact readText_behind_log (Files.get?_set_self _ _ _ (List.cons_ne_nil _ _))
    have checked : (run (withPlan throughLog []) entered).check =
        .error "Failed to read lock file /l/m: Not a directory (os error 20)" := by
      show Marker.check _ "/l/m" = _
      simp only [Marker.check, Marker.classify, behindFile]
      rfl
    rw [Monitor.start, checked]
    rfl

/-- The pid that a script publishes. -/
def pidFile : RegularFile := ⟨.ofList [52, 50], false, ⟨0, 0⟩⟩

/-- An entry, a build whose script publishes its pid, and a second start. -/
def publishedRun : List Turn :=
  [.log (.append "a\n"), .start, .script 0 .spawned,
    .surroundings fun host => host.withFile ["m"] pidFile, .start]

/-- What goes wrong with the copy of each entry. -/
def publishedPlan : List Fault :=
  [.refused (.os .accessDenied), .none, .cutShort 3 (.os (.other 28 "No space left on device"))]

/-- A build that publishes its pid is answered for alike, on a disk that works and on one that does
not. -/
theorem publishedRun_same_answers :
    SameAnswers (run (withPlan Transcript.freshMonitor publishedPlan) publishedRun)
      (run (withPlan Transcript.freshMonitor []) publishedRun) := by
  have log : NamesInRoot "/l" "l" := by decide
  have marker : NamesInRoot "/m" "m" := by decide
  have confined : Transcript.freshMonitor.host.Confined "/l" {["l"]} :=
    log.confined fun _ => nofun
  have respects : ∀ change, .surroundings change ∈ publishedRun →
      Respects change "/l" {["l"]} := by
    intro change member
    obtain rfl : change = fun host => host.withFile ["m"] pidFile := by
      simpa [publishedRun] using member
    exact ⟨fun _ _ alike => alike.withFile (by decide) pidFile,
      fun _ confined => confined.withFile (by decide) pidFile⟩
  have aside : MarkerAside {["l"]} (withPlan Transcript.freshMonitor publishedPlan)
      publishedRun := by
    intro before starts
    have off : ["m"] ∉ ({["l"]} : Set Location) := by simp
    refine marker.ignores (fun target link => ?_) off
    -- Before the first start the name is free, before the second it holds the published pid.
    obtain rfl | rfl : before = publishedRun.take 1 ∨ before = publishedRun.take 4 := by
      obtain ⟨after, split⟩ := starts
      rcases before with - | ⟨_, - | ⟨_, - | ⟨_, - | ⟨_, - | ⟨_, _⟩⟩⟩⟩⟩ <;>
        simp_all [publishedRun]
    · cases link
    · rw [show publishedRun.take 4 = publishedRun.take 3 ++ [.surroundings _] from rfl,
        run_concat] at link
      simp only [apply, Host.withFile, Files.get?_set_self _ _ _ (List.cons_ne_nil _ _)] at link
      cases link
  exact (disk_trouble_stays_on_disk Transcript.freshMonitor publishedPlan [] {["l"]} publishedRun
    confined respects aside (List.prefix_refl _)).1

end BuildMonitor.Disturbance
