import BuildMonitor.Proofs.Build.Behaviour
import BuildMonitor.Proofs.Monitor.Ledger
import BuildMonitor.Proofs.Monitor.Tasks

/-!
# The transcript of a build

From the time a build is accepted to its end the log is written by two: the task of the build, and
the requests to stop it that are delivered. What each adds at each point is
`additions`; the `transcript` of a run is all of it in the order of the run, and the log keeps its
end, however little room it has: `sink_run`. The shape of a whole transcript is `build_transcript`.

The surroundings may change at any point in any way. Only the durable copy asks for more: that every
write to it succeeds and that nobody else changes it.

Main definitions: `Occurrence`, `transcript`, `Interleaving`, `Durable`.
-/

namespace BuildMonitor.Transcript

open BuildMonitor.Build BuildMonitor.Log BuildMonitor.Text

/-! ## Two lists in one -/

/-- A list that is made up of two others, each in its own order. -/
inductive Interleaving {α : Type} : List α → List α → List α → Prop where
  | nil : Interleaving [] [] []
  | left {element : α} {first second whole : List α} (rest : Interleaving first second whole) :
      Interleaving (element :: first) second (element :: whole)
  | right {element : α} {first second whole : List α} (rest : Interleaving first second whole) :
      Interleaving first (element :: second) (element :: whole)

namespace Interleaving

variable {α : Type} {first second whole : List α}

/-- More of the first list may stand in front. -/
theorem append_left (more : List α) (rest : Interleaving first second whole) :
    Interleaving (more ++ first) second (more ++ whole) := by
  induction more with
  | nil => exact rest
  | cons element others inductionHypothesis => exact .left inductionHypothesis

/-- More of the second list may stand in front. -/
theorem append_right (more : List α) (rest : Interleaving first second whole) :
    Interleaving first (more ++ second) (more ++ whole) := by
  induction more with
  | nil => exact rest
  | cons element others inductionHypothesis => exact .right inductionHypothesis

end Interleaving

/-! ## Runs of a build -/

/-- What happens while a build is under way. -/
inductive Occurrence where
  /-- The task of the build is told something of its script. -/
  | script (event : Event)
  /-- The monitor is asked to stop the build. -/
  | stop
  /-- The surroundings change. -/
  | surroundings (host : Host)

/-- The monitor after an occurrence; the build is the one of the given number. -/
def apply (number : Nat) (monitor : Monitor) : Occurrence → Monitor
  | .script event => monitor.advance number event
  | .stop => monitor.stop.2
  | .surroundings host => { monitor with host := host }

/-- The monitor after occurrences. -/
def run (number : Nat) (monitor : Monitor) (occurrences : List Occurrence) : Monitor :=
  occurrences.foldl (apply number) monitor

/-- What the task is told. -/
def told (occurrences : List Occurrence) : List Event :=
  occurrences.filterMap fun occurrence =>
    match occurrence with
    | .script event => some event
    | _ => none

/-- The entry for a request to stop: there is one if the request is delivered. -/
def stopEntries (monitor : Monitor) : List String :=
  match monitor.stop.1 with
  | .ok pid => [Monitor.stopEntry monitor.host.timestamp pid]
  | .error _ => []

/-- The entries that an occurrence adds to the log. -/
def additions (number : Nat) (monitor : Monitor) : Occurrence → List String
  | .script event =>
    match monitor.tasks[number]? with
    | some task => task.additions monitor.host.timestamp event
    | none => []
  | .stop => stopEntries monitor
  | .surroundings _ => []

/-- The entries that a run adds to the log, in the order of the run. -/
def transcript (number : Nat) (monitor : Monitor) : List Occurrence → List String
  | [] => []
  | occurrence :: rest =>
    additions number monitor occurrence ++ transcript number (apply number monitor occurrence) rest

/-- The entries for the requests to stop that a run delivers. -/
def stops (number : Nat) (monitor : Monitor) : List Occurrence → List String
  | [] => []
  | .stop :: rest => stopEntries monitor ++ stops number (apply number monitor .stop) rest
  | occurrence :: rest => stops number (apply number monitor occurrence) rest

variable {monitor : Monitor} {number : Nat} {occurrence : Occurrence}
  {occurrences before after : List Occurrence}

/-- A run may be taken in two parts. -/
theorem run_append : run number monitor (before ++ after) =
    run number (run number monitor before) after :=
  List.foldl_append

/-- What a run adds is what its parts add. -/
theorem transcript_append : transcript number monitor (before ++ after) =
    transcript number monitor before ++ transcript number (run number monitor before) after := by
  induction before generalizing monitor with
  | nil => rfl
  | cons occurrence rest inductionHypothesis =>
    simp only [List.cons_append, transcript, inductionHypothesis, List.append_assoc]
    rfl

/-! ## What the log keeps -/

/-- Entries that are added are put behind those in memory. -/
theorem sink_appendAll (monitor : Monitor) (entries : List String) :
    (monitor.appendAll entries).sink = entries.foldl LogSink.push monitor.sink := by
  induction entries generalizing monitor with
  | nil => rfl
  | cons entry rest inductionHypothesis => exact inductionHypothesis (monitor.append entry)

/-- A delivered request to stop adds its entry, any other changes nothing. -/
theorem stop_snd (monitor : Monitor) :
    ∃ processes, monitor.stop.2 =
      Monitor.appendAll { monitor with host := { monitor.host with processes := processes } }
        (stopEntries monitor) := by
  unfold stopEntries
  rcases stop_cases monitor with ⟨pid, processes, -, -, stopped⟩ | ⟨error, stopped⟩
  · exact ⟨processes, by rw [stopped]; rfl⟩
  · exact ⟨monitor.host.processes, by rw [stopped]; rfl⟩

/-- An occurrence reaches the entries in memory by its additions alone. -/
theorem sink_apply (monitor : Monitor) (number : Nat) (occurrence : Occurrence) :
    (apply number monitor occurrence).sink =
      (additions number monitor occurrence).foldl LogSink.push monitor.sink := by
  cases occurrence with
  | script event =>
    simp only [apply, additions]
    cases found : monitor.tasks[number]? with
    | none => rw [Monitor.advance_of_none found]; rfl
    | some task => rw [Monitor.advance_eq found]; exact sink_appendAll _ _
  | stop =>
    obtain ⟨processes, stopped⟩ := stop_snd monitor
    rw [apply, stopped, sink_appendAll]
    rfl
  | surroundings host => rfl

/-- The entries in memory after a run are those before it with the transcript added. -/
theorem sink_run (monitor : Monitor) (number : Nat) (occurrences : List Occurrence) :
    (run number monitor occurrences).sink =
      (transcript number monitor occurrences).foldl LogSink.push monitor.sink := by
  induction occurrences generalizing monitor with
  | nil => rfl
  | cons occurrence rest inductionHypothesis =>
    rw [transcript, List.foldl_append, ← sink_apply]
    exact inductionHypothesis (apply number monitor occurrence)

/-! ## What the task and the requests add -/

/-- A task that is on its way goes on through a run, and the transcript is made up of the lines it
forwards and the entries for the requests to stop. -/
theorem weave {task final : Task} {events : List Event} {lines : List (List UInt8)}
    (goes : Task.Goes task events final lines) (found : monitor.tasks[number]? = some task)
    (heard : told occurrences = events) :
    (run number monitor occurrences).tasks[number]? = some final ∧
      Interleaving (lines.map entryOfLine) (stops number monitor occurrences)
        (transcript number monitor occurrences) := by
  induction occurrences generalizing monitor task events lines with
  | nil =>
    subst heard
    cases goes
    exact ⟨found, .nil⟩
  | cons occurrence rest inductionHypothesis =>
    cases occurrence with
    | script event =>
      subst heard
      cases goes with
      | @step _ _ _ _ lines verdict later =>
        have next := tasks_advance_self found event
        rw [Task.step_of_no_verdict _ _ verdict] at next
        obtain ⟨reached, woven⟩ := inductionHypothesis later next rfl
        refine ⟨reached, ?_⟩
        have added : additions number monitor (.script event) =
            (task.printed event).map entryOfLine := by
          simp only [additions, found, Task.additions, verdict]
        rw [transcript, added, List.map_append]
        exact woven.append_left _
    | stop =>
      have next : (apply number monitor .stop).tasks[number]? = some task := by
        obtain ⟨processes, stopped⟩ := stop_snd monitor
        rw [apply, stopped, Monitor.appendAll_eq]
        exact found
      obtain ⟨reached, woven⟩ := inductionHypothesis goes next heard
      exact ⟨reached, woven.append_right _⟩
    | surroundings host => exact inductionHypothesis goes found heard

/-! ## What the durable copy holds -/

/-- Every entry can be added to the durable copy in its turn. -/
def Copied (monitor : Monitor) : List String → Prop
  | [] => True
  | entry :: rest =>
    (monitor.host.appendDurably monitor.sink.path (Utf8.encode entry)).1 = .ok () ∧
      Copied (monitor.append entry) rest

/-- What an occurrence adds to the durable copy can be added, and nobody else changes the copy. -/
def Lasts (number : Nat) (monitor : Monitor) : Occurrence → Prop
  | .surroundings host =>
    ∀ bytes, monitor.host.Keeps monitor.sink.path (some bytes) →
      host.Keeps monitor.sink.path (some bytes)
  | occurrence => Copied monitor (additions number monitor occurrence)

/-- The durable copy is written without a failure throughout a run. -/
def Durable (number : Nat) (monitor : Monitor) : List Occurrence → Prop
  | [] => True
  | occurrence :: rest =>
    Lasts number monitor occurrence ∧ Durable number (apply number monitor occurrence) rest

variable {path : String} {bytes : List UInt8}

/-- Entries that can be added stand behind what the durable copy held. -/
theorem keeps_appendAll {entries : List String}
    (keeps : monitor.host.Keeps monitor.sink.path (some bytes)) (copied : Copied monitor entries) :
    (monitor.appendAll entries).host.Keeps monitor.sink.path
      (some (bytes ++ entries.flatMap Utf8.encode)) := by
  induction entries generalizing monitor bytes with
  | nil =>
    rw [List.flatMap_nil, List.append_nil]
    exact keeps
  | cons entry rest inductionHypothesis =>
    have first : (monitor.append entry).host.Keeps monitor.sink.path
        (some (bytes ++ Utf8.encode entry)) := keeps.appendDurably copied.1
    rw [List.flatMap_cons, ← List.append_assoc]
    exact inductionHypothesis first copied.2

/-- Processes make no difference to what is written. -/
theorem copied_withProcesses {entries : List String} (processes : Host.Processes)
    (copied : Copied monitor entries) :
    Copied { monitor with host := { monitor.host with processes := processes } } entries := by
  induction entries generalizing monitor with
  | nil => trivial
  | cons entry rest inductionHypothesis =>
    have same := monitor.host.appendDurably_withProcesses processes monitor.sink.path
      (Utf8.encode entry)
    refine ⟨?_, ?_⟩
    · rw [same]
      exact copied.1
    · have later := inductionHypothesis copied.2
      simp only [Monitor.append, LogSink.append] at later ⊢
      rw [same]
      exact later

/-- No occurrence moves the log. -/
theorem path_apply (monitor : Monitor) (number : Nat) (occurrence : Occurrence) :
    (apply number monitor occurrence).sink.path = monitor.sink.path := by
  rw [sink_apply, LogSink.foldl_push_path]

/-- What an occurrence adds stands behind what the durable copy held. -/
theorem keeps_apply (keeps : monitor.host.Keeps monitor.sink.path (some bytes))
    (lasts : Lasts number monitor occurrence) :
    (apply number monitor occurrence).host.Keeps monitor.sink.path
      (some (bytes ++ (additions number monitor occurrence).flatMap Utf8.encode)) := by
  cases occurrence with
  | script event =>
    simp only [Lasts, additions, apply] at lasts ⊢
    cases found : monitor.tasks[number]? with
    | none =>
      rw [Monitor.advance_of_none found, List.flatMap_nil, List.append_nil]
      exact keeps
    | some task =>
      rw [found] at lasts
      rw [Monitor.advance_eq found]
      exact keeps_appendAll keeps lasts
  | stop =>
    obtain ⟨processes, stopped⟩ := stop_snd monitor
    rw [apply, stopped]
    exact keeps_appendAll (keeps.of_node?_eq rfl) (copied_withProcesses processes lasts)
  | surroundings host =>
    rw [additions, List.flatMap_nil, List.append_nil]
    exact lasts bytes keeps

/-- What a run adds stands behind what the durable copy held. -/
theorem keeps_run (keeps : monitor.host.Keeps monitor.sink.path (some bytes))
    (durable : Durable number monitor occurrences) :
    (run number monitor occurrences).host.Keeps monitor.sink.path
      (some (bytes ++ (transcript number monitor occurrences).flatMap Utf8.encode)) := by
  induction occurrences generalizing monitor bytes with
  | nil =>
    rw [transcript, List.flatMap_nil, List.append_nil]
    exact keeps
  | cons occurrence rest inductionHypothesis =>
    have first := keeps_apply keeps durable.1
    rw [← path_apply monitor number occurrence] at first ⊢
    rw [transcript, List.flatMap_append, ← List.append_assoc]
    exact inductionHypothesis first durable.2

/-- Where no fault is due, entries can be added to a durable copy that is there. -/
theorem copied_of_keeps (keeps : monitor.host.Keeps monitor.sink.path (some bytes))
    (plain : monitor.host.faults = []) (entries : List String) :
    Copied monitor entries ∧ (monitor.appendAll entries).host.faults = [] := by
  induction entries generalizing monitor bytes with
  | nil => exact ⟨trivial, plain⟩
  | cons entry rest inductionHypothesis =>
    obtain ⟨added, still⟩ := keeps.appendDurably_ok plain (Utf8.encode entry)
    have first : (monitor.append entry).host.Keeps (monitor.append entry).sink.path
        (some (bytes ++ Utf8.encode entry)) := keeps.appendDurably added
    obtain ⟨copied, plainLater⟩ := inductionHypothesis first still
    exact ⟨⟨added, copied⟩, plainLater⟩

/-- Where no fault is due, what the build and the requests add can be added, and no fault is due
afterwards. -/
theorem lasts_of_plain (keeps : monitor.host.Keeps monitor.sink.path (some bytes))
    (plain : monitor.host.faults = []) (calm : ∀ host, occurrence ≠ .surroundings host) :
    Lasts number monitor occurrence ∧ (apply number monitor occurrence).host.faults = [] := by
  cases occurrence with
  | script event =>
    obtain ⟨copied, still⟩ :=
      copied_of_keeps keeps plain (additions number monitor (.script event))
    refine ⟨copied, ?_⟩
    rw [apply]
    cases found : monitor.tasks[number]? with
    | none =>
      rw [Monitor.advance_of_none found]
      exact plain
    | some task =>
      rw [additions, found] at still
      rw [Monitor.advance_eq found]
      exact still
  | stop =>
    obtain ⟨processes, stopped⟩ := stop_snd monitor
    let signalled : Monitor :=
      { monitor with host := { monitor.host with processes := processes } }
    have kept : signalled.host.Keeps signalled.sink.path (some bytes) := keeps.of_node?_eq rfl
    refine ⟨(copied_of_keeps keeps plain _).1, ?_⟩
    rw [apply, stopped]
    exact (copied_of_keeps kept plain (stopEntries monitor)).2
  | surroundings host => exact absurd rfl (calm host)

/-- Where no fault is due and nothing changes the surroundings, a run is durable. -/
theorem durable_of_plain (keeps : monitor.host.Keeps monitor.sink.path (some bytes))
    (plain : monitor.host.faults = [])
    (calm : ∀ host, .surroundings host ∉ occurrences) : Durable number monitor occurrences := by
  induction occurrences generalizing monitor bytes with
  | nil => trivial
  | cons occurrence rest inductionHypothesis =>
    have quiet : ∀ host, occurrence ≠ .surroundings host := by
      rintro host rfl
      exact calm host List.mem_cons_self
    obtain ⟨lasts, still⟩ : Lasts number monitor occurrence ∧
        (apply number monitor occurrence).host.faults = [] := lasts_of_plain keeps plain quiet
    have first := keeps_apply keeps lasts
    rw [← path_apply monitor number occurrence] at first
    exact ⟨lasts, inductionHypothesis first still fun host later =>
      calm host (List.mem_cons_of_mem _ later)⟩

/-! ## The whole build -/

/-- The log can be started anew: the durable copy can be removed, and the first entry be written. -/
def StartsDurably (monitor : Monitor) : Prop :=
  Ledger.Succeeds monitor .reset ∧
    Ledger.Succeeds monitor.resetLog (.append (Monitor.startEntry monitor.host.timestamp))

/-- Accepting a build starts the log anew, adds its first entry, and adds the task. -/
theorem accept_eq (monitor : Monitor) : monitor.accept =
    { monitor.resetLog.append (Monitor.startEntry monitor.host.timestamp) with
      tasks := monitor.tasks ++ [.launch monitor.command] } := by
  have same : monitor.resetLog.host.timestamp = monitor.host.timestamp := by
    obtain ⟨only, -⟩ := monitor.host.removeDurably_snd monitor.sink.path
    rw [Monitor.resetLog_host, Host.timestamp, Host.timestamp, only.now]
  rw [Monitor.accept, same]
  rfl

/-- On a disk that works a build starts durably, and no fault is due afterwards. -/
theorem startsDurably_of_unhindered {name : String}
    (unhindered : monitor.host.Unhindered monitor.sink.path name) :
    StartsDurably monitor ∧ monitor.accept.host.faults = [] := by
  obtain ⟨removed, reset⟩ := Ledger.succeeds_of_unhindered unhindered .reset
  obtain ⟨added, opened⟩ := Ledger.succeeds_of_unhindered reset
    (.append (Monitor.startEntry monitor.host.timestamp))
  refine ⟨⟨removed, added⟩, ?_⟩
  rw [accept_eq]
  exact opened.plain

/-- Accepting a build leaves the entry for its start as the only one. -/
theorem sink_accept (monitor : Monitor) : monitor.accept.sink =
    monitor.sink.clear.push (Monitor.startEntry monitor.host.timestamp) := by
  rw [accept_eq]
  rfl

/-- Behind its first entry the log of an accepted build keeps the end of the transcript. -/
theorem entries_run_accept (monitor : Monitor) (number : Nat) (occurrences : List Occurrence) :
    (run number monitor.accept occurrences).sink.entries =
      lastOf monitor.sink.capacity (Monitor.startEntry monitor.host.timestamp ::
        transcript number monitor.accept occurrences) := by
  have cleared : monitor.sink.clear.entries = lastOf monitor.sink.clear.capacity [] := by
    rw [lastOf_nil]
    rfl
  have opened : (monitor.sink.clear.push (Monitor.startEntry monitor.host.timestamp)).entries =
      lastOf monitor.sink.capacity [Monitor.startEntry monitor.host.timestamp] :=
    LogSink.push_window cleared
  rw [sink_run, sink_accept]
  exact LogSink.foldl_push_window (transcript number monitor.accept occurrences) opened

/-- Where the log can be started anew, the durable copy then holds the entry for the start alone. -/
theorem keeps_accept (monitor : Monitor) (durable : StartsDurably monitor) :
    monitor.accept.host.Keeps monitor.sink.path
      (some (Utf8.encode (Monitor.startEntry monitor.host.timestamp))) := by
  rw [accept_eq]
  have removed : monitor.resetLog.host.Keeps monitor.sink.path none :=
    Ledger.keeps_none_of_removeCopy monitor.sink monitor.host durable.1.1 durable.1.2
  have opened := removed.appendDurably durable.2
  rw [Option.getD_none, List.nil_append] at opened
  exact opened

/-- The log of a build that was accepted where there was no marker. The script may do anything, and
requests to stop may come at any point before its end. The build ends with the outcome that the
behaviour of the script calls for. The entries are the one for the start, then the lines that are
forwarded and the entries for the requests that are delivered, each in their order, and then one
last entry with the outcome. They come in the order of the run, and at every point of it the log
keeps the end of those that have come; the durable copy, if nothing disturbs it, holds all of them.
-/
theorem build_transcript (monitor : Monitor) (behaviour : Behaviour) (before : List Occurrence)
    (idle : monitor.check = .idle) (heard : told before = behaviour.opening) :
    let number := monitor.tasks.length
    let started := monitor.start.2
    let whole := before ++ [.script behaviour.closing]
    let final := run number started whole
    let first := Monitor.startEntry monitor.host.timestamp
    let entries := first :: transcript number started whole
    let outcome := behaviour.outcome monitor.command.script
    monitor.start.1 = .ok number ∧
      (∃ task, final.tasks[number]? = some task ∧ task.outcome? = some outcome) ∧
      (∃ body, entries = first :: body ++
          [s!"\n[{(run number started before).host.timestamp}] {outcome.describe}\n"] ∧
        Interleaving behaviour.lines (stops number started before) body) ∧
      (∀ earlier later, whole = earlier ++ later →
        (run number started earlier).sink.entries =
            lastOf monitor.sink.capacity (first :: transcript number started earlier) ∧
          first :: transcript number started earlier <+: entries) ∧
      final.sink.entries = lastOf monitor.sink.capacity entries ∧
      (StartsDurably monitor → Durable number started whole →
        final.host.Keeps monitor.sink.path (some (entries.flatMap Utf8.encode))) ∧
      (outcome = .succeeded ↔ ∃ chunks, behaviour = .ran chunks none (.ok (.exited 0))) ∧
      (∀ code, outcome = .failed code ↔
        code ≠ 0 ∧ ∃ chunks, behaviour = .ran chunks none (.ok (.exited code))) ∧
      (∀ signal, outcome = .terminated signal ↔
        ∃ chunks, behaviour = .ran chunks none (.ok (.signalled signal))) ∧
      ((∃ message, outcome = .errored message) ↔
        ∀ chunks status, behaviour = .ran chunks none (.ok status) → status = .unknown) := by
  intro number started whole final first entries outcome
  have accepted : monitor.start = (.ok number, monitor.accept) := start_of_idle idle
  have startedEq : started = monitor.accept := congrArg Prod.snd accepted
  have waiting : started.tasks[number]? = some (.launch monitor.command) := by
    rw [startedEq, accept_eq]
    exact List.getElem?_concat_length
  obtain ⟨task, forwarded, goes, lines, verdict⟩ := behaviour.goes_opening monitor.command
  obtain ⟨reached, woven⟩ := weave goes waiting heard
  have last : transcript number started whole =
      transcript number started before ++
        [Task.terminalEntry (run number started before).host.timestamp outcome] := by
    rw [transcript_append]
    simp only [transcript, additions, reached, Task.additions, verdict, List.append_nil]
    rfl
  have path : started.sink.path = monitor.sink.path := by
    rw [startedEq, sink_accept]
    rfl
  have window : ∀ occurrences, (run number started occurrences).sink.entries =
      lastOf monitor.sink.capacity (first :: transcript number started occurrences) := by
    intro occurrences
    rw [startedEq]
    exact entries_run_accept monitor number occurrences
  refine ⟨congrArg Prod.fst accepted, ?_, ?_, ?_, window whole, ?_,
    Behaviour.outcome_eq_succeeded_iff, fun _ => Behaviour.outcome_eq_failed_iff,
    fun _ => Behaviour.outcome_eq_terminated_iff, Behaviour.outcome_eq_errored_iff⟩
  · have ended := tasks_advance_self reached behaviour.closing
    rw [Task.step_of_verdict _ _ verdict] at ended
    refine ⟨{ task with phase := .finished outcome }, ?_, rfl⟩
    rw [show final = apply number (run number started before) (.script behaviour.closing) from
      run_append]
    exact ended
  · refine ⟨transcript number started before, ?_, lines ▸ woven⟩
    rw [List.cons_append, ← Task.terminalEntry, ← last]
  · intro earlier later split
    refine ⟨window earlier, ?_⟩
    rw [show entries = first :: transcript number started (earlier ++ later) by rw [← split],
      transcript_append]
    exact List.prefix_append _ _
  · intro startsDurably durable
    have keeps := keeps_accept monitor startsDurably
    rw [← startedEq, ← path] at keeps
    rw [← path, List.flatMap_cons]
    exact keeps_run keeps durable

/-- A monitor without a marker and without a durable copy. -/
def freshMonitor : Monitor where
  host := Host.bare .system [] ⟨0, 0⟩
  markerPath := "/m"
  outputDirectory := "/out"
  command := ⟨"/b", "/", []⟩
  sink := LogSink.create "/l" 10
  tasks := []

/-- A script that is ended by a signal in the middle of a line. -/
def killedScript : Behaviour := .ran [[104], [10, 106]] none (.ok (.signalled 15))

/-- The script runs, and a request to stop it comes before it has published its pid. -/
def killedRun : List Occurrence :=
  [.script .spawned, .script (.output [104]), .stop, .script (.output [10, 106]),
    .script .outputEnded]

/-- The fresh monitor has no marker. -/
theorem freshMonitor_idle : freshMonitor.check = .idle :=
  have named : Host.NamesInRoot "/m" "m" := by decide
  Marker.check_eq_idle_iff.mpr (Marker.missing_of_namesInRoot named rfl)

/-- Nothing is in the way of the log of the fresh monitor. -/
theorem freshMonitor_unhindered : freshMonitor.host.Unhindered freshMonitor.sink.path "l" :=
  ⟨by decide, by decide, rfl, fun _ held => by cases held⟩

/-- A build that is stopped, and ended by a signal in the middle of a line, leaves its whole
transcript. -/
theorem killedRun_transcript :
    let started := freshMonitor.start.2
    let whole := killedRun ++ [.script killedScript.closing]
    freshMonitor.check = .idle ∧ told killedRun = killedScript.opening ∧
      StartsDurably freshMonitor ∧ Durable 0 started whole ∧
      (∃ task, (run 0 started whole).tasks[0]? = some task ∧
        task.outcome? = some (.terminated 15)) ∧
      (run 0 started whole).host.Keeps "/l"
        (some ((Monitor.startEntry freshMonitor.host.timestamp ::
          transcript 0 started whole).flatMap Utf8.encode)) := by
  intro started whole
  have idle := freshMonitor_idle
  have heard : told killedRun = killedScript.opening := rfl
  obtain ⟨starts, still⟩ := startsDurably_of_unhindered freshMonitor_unhindered
  have accepted : started = freshMonitor.accept := congrArg Prod.snd (start_of_idle idle)
  have plain : started.host.faults = [] := accepted ▸ still
  have kept : started.host.Keeps started.sink.path
      (some (Utf8.encode (Monitor.startEntry freshMonitor.host.timestamp))) := by
    rw [accepted]
    exact keeps_accept freshMonitor starts
  have durable : Durable 0 started whole := by
    refine durable_of_plain kept plain ?_
    intro host member
    simp [whole, killedRun] at member
  obtain ⟨-, ended, -, -, -, copy, -⟩ :=
    build_transcript freshMonitor killedScript killedRun idle heard
  exact ⟨idle, heard, starts, durable, ended, copy starts durable⟩

end BuildMonitor.Transcript
