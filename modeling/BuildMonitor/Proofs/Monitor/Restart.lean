import BuildMonitor.Proofs.Monitor.Transcript
import BuildMonitor.Proofs.Text.LineStarts

/-!
# The log after a restart

A monitor that was set up anew has nothing in memory and shows the last lines of the durable copy.
They need not be the last entries: an entry for a request to stop holds two lines, and the last line
of output, if it was left unfinished, is finished by the entry behind it. But a line begins in every
entry of a build, whatever the script prints and whenever it is stopped: `eachStartsLine_transcript`.
So the lines shown after a restart are the end of the text that was shown before.

Main statement: `restarted_view`.
-/

namespace BuildMonitor.Restart

open BuildMonitor.Build BuildMonitor.Log BuildMonitor.Text BuildMonitor.Transcript

/-- Whether a character ends a line. -/
abbrev endsLine (character : Char) : Bool := character == '\n'

/-- The characters of entries, entry by entry. -/
def characters (entries : List String) : List (List Char) := entries.map String.toList

variable {monitor : Monitor} {number : Nat} {task : Task} {event : Event} {text : List Char}

/-! ## Where lines begin -/

/-- Whether the task may still forward output. -/
def mayForward (task : Task) : Bool :=
  match task.phase with
  | .launching | .streaming _ => true
  | .waiting _ | .finished _ => false

/-- An entry that closes a line that was left unfinished, and holds a whole line of its own. -/
theorem startsLine_of_mark {entry : String} {body : List Char}
    (form : entry.toList = '\n' :: (body ++ ['\n'])) (text : List Char) :
    StartsLine endsLine text entry.toList ∧ Closed endsLine (text ++ entry.toList) := by
  rw [form]
  refine ⟨Or.inr ⟨'\n', body ++ ['\n'], rfl, rfl, by simp⟩, ?_⟩
  rw [← List.cons_append, ← List.append_assoc]
  exact closed_concat rfl

/-- The entry for the end of a build begins and ends with a line break. -/
theorem toList_terminalEntry (timestamp : String) (outcome : Outcome) :
    ∃ body, (Task.terminalEntry timestamp outcome).toList = '\n' :: (body ++ ['\n']) := by
  refine ⟨'[' :: timestamp.toList ++ (']' :: ' ' :: outcome.describe.toList), ?_⟩
  simp [Task.terminalEntry, toString]

/-- The entry for a request to stop begins and ends with a line break. -/
theorem toList_stopEntry (timestamp : String) (pid : Nat) :
    ∃ body, (Monitor.stopEntry timestamp pid).toList = '\n' :: (body ++ ['\n']) := by
  refine ⟨'[' :: timestamp.toList ++ "] Build stop requested (PID: ".toList ++
    (toString pid).toList ++ [')'], ?_⟩
  simp [Monitor.stopEntry, toString]

/-- The entry for the start of a build is not empty and leaves no line unfinished. -/
theorem closed_startEntry (timestamp : String) :
    (Monitor.startEntry timestamp).toList ≠ [] ∧
      Closed endsLine (Monitor.startEntry timestamp).toList := by
  have form : (Monitor.startEntry timestamp).toList =
      '[' :: timestamp.toList ++ "] Starting build process...".toList ++ ['\n'] := by
    simp [Monitor.startEntry, toString]
  rw [form]
  exact ⟨by simp, closed_concat rfl⟩

/-- The lines that a chunk completes are complete. -/
theorem isComplete_of_mem_push {feed : LineFeed} {chunk line : List UInt8}
    (member : line ∈ (feed.push chunk).1) : LineFeed.isComplete line = true := by
  simp only [LineFeed.push] at member
  split at member
  · cases member
  · next last ended =>
    split at member
    · next complete =>
      obtain ⟨before, joined⟩ := List.getLast?_eq_some_iff.mp ended
      rw [joined] at member
      rcases List.mem_append.mp member with inside | final
      · have early : line ∈ (splitByteLines (feed.held ++ chunk)).dropLast := by
          rwa [joined, List.dropLast_concat]
        exact LineFeed.isComplete_of_isLine (isLine_of_mem_dropLast_splitAfter early)
      · rwa [List.mem_singleton.mp final]
    · exact LineFeed.isComplete_of_isLine (isLine_of_mem_dropLast_splitAfter member)

/-- A complete line of output is read as a text that leaves no line unfinished. -/
theorem closed_entryOfLine {line : List UInt8} (complete : LineFeed.isComplete line = true) :
    (entryOfLine line).toList ≠ [] ∧ Closed endsLine (entryOfLine line).toList := by
  obtain ⟨body, rfl⟩ := List.getLast?_eq_some_iff.mp (eq_of_beq complete)
  have form : (entryOfLine (body ++ [newlineByte])).toList =
      (Utf8.decodeLossy body).toList ++ ['\n'] := by
    simpa [entryOfLine, newlineByte] using Utf8.toList_decodeLossy_append_newline body []
  rw [form]
  exact ⟨by simp, closed_concat rfl⟩

/-- A line begins in each entry that a task forwards, as long as none is left unfinished while it
may forward more. -/
theorem eachStartsLine_printed (event : Build.Event)
    (ready : mayForward task = true → Closed endsLine text) :
    let forwarded := characters ((task.printed event).map entryOfLine)
    EachStartsLine endsLine text forwarded ∧
      (mayForward (task.onward event) = true → Closed endsLine (text ++ forwarded.flatten)) := by
  intro forwarded
  have idle (none : task.printed event = [])
      (stays : mayForward (task.onward event) = true → mayForward task = true) :
      EachStartsLine endsLine text forwarded ∧
        (mayForward (task.onward event) = true → Closed endsLine (text ++ forwarded.flatten)) := by
    have empty : forwarded = [] := by simp [forwarded, none, characters]
    rw [empty, List.flatten_nil, List.append_nil]
    exact ⟨trivial, ready ∘ stays⟩
  obtain ⟨command, phase⟩ := task
  cases phase with
  | launching => exact idle rfl fun _ => rfl
  | waiting failure => cases event <;> exact idle rfl id
  | finished outcome => cases event <;> exact idle rfl id
  | streaming feed =>
    cases event with
    | output chunk =>
      have closed := ready rfl
      have whole : ∀ piece ∈ forwarded, piece ≠ [] ∧ Closed endsLine piece := by
        intro piece member
        simp only [forwarded, characters, List.mem_map] at member
        obtain ⟨entry, ⟨line, inside, rfl⟩, rfl⟩ := member
        exact closed_entryOfLine (isComplete_of_mem_push inside)
      obtain ⟨each, still⟩ := eachStartsLine_of_closed closed whole
      exact ⟨each, fun _ => still⟩
    | outputEnded =>
      refine ⟨?_, fun forwards => absurd forwards Bool.false_ne_true⟩
      by_cases empty : feed.held = []
      · simp [forwarded, characters, Task.printed, LineFeed.finish, empty, EachStartsLine]
      · have some : (entryOfLine feed.held).toList ≠ [] := by
          simpa [entryOfLine, Utf8.decodeLossy_eq_empty_iff] using empty
        have one : forwarded = [(entryOfLine feed.held).toList] := by
          simp [forwarded, characters, Task.printed, LineFeed.finish, empty]
        rw [one]
        exact ⟨Or.inl ⟨ready rfl, some⟩, trivial⟩
    | outputFailed cause => exact idle rfl fun forwards => absurd forwards Bool.false_ne_true
    | _ => exact idle rfl id

/-! ## A whole run -/

/-- No line of the text is left unfinished while the task of the build may forward output. -/
def Ready (number : Nat) (monitor : Monitor) (text : List Char) : Prop :=
  ∀ task, monitor.tasks[number]? = some task → mayForward task = true → Closed endsLine text

/-- A line begins in each entry that an occurrence adds. -/
theorem Ready.apply (ready : Ready number monitor text) (occurrence : Occurrence) :
    let added := characters (additions number monitor occurrence)
    EachStartsLine endsLine text added ∧
      Ready number (apply number monitor occurrence) (text ++ added.flatten) := by
  intro added
  have unmarked (none : additions number monitor occurrence = [])
      (same : (Transcript.apply number monitor occurrence).tasks = monitor.tasks) :
      EachStartsLine endsLine text added ∧
        Ready number (Transcript.apply number monitor occurrence) (text ++ added.flatten) := by
    have empty : added = [] := by simp [added, none, characters]
    rw [empty, List.flatten_nil, List.append_nil, Ready, same]
    exact ⟨trivial, ready⟩
  have marked {entry : String} {body : List Char}
      (one : additions number monitor occurrence = [entry])
      (form : entry.toList = '\n' :: (body ++ ['\n'])) :
      EachStartsLine endsLine text added ∧
        Ready number (Transcript.apply number monitor occurrence) (text ++ added.flatten) := by
    obtain ⟨starts, closed⟩ := startsLine_of_mark form text
    have single : added = [entry.toList] := by simp [added, one, characters]
    rw [single]
    refine ⟨⟨starts, trivial⟩, fun _ _ _ => ?_⟩
    simpa using closed
  cases occurrence with
  | script event =>
    cases found : monitor.tasks[number]? with
    | none =>
      refine unmarked (by simp only [additions, found]) ?_
      rw [Transcript.apply, Monitor.advance_of_none found]
    | some task =>
      cases verdict : task.verdict? event with
      | some outcome =>
        obtain ⟨body, form⟩ := toList_terminalEntry monitor.host.timestamp outcome
        exact marked (by simp only [additions, found, Task.additions, verdict]) form
      | none =>
        have printed : added = characters ((task.printed event).map entryOfLine) := by
          simp only [added, additions, found, Task.additions, verdict]
        obtain ⟨each, still⟩ := eachStartsLine_printed event (ready task found)
        have next := tasks_advance_self found event
        rw [Task.step_of_no_verdict _ _ verdict] at next
        rw [printed]
        refine ⟨each, ?_⟩
        intro stepped reached
        rw [Transcript.apply, next] at reached
        cases reached
        exact still
  | stop =>
    have same : (Transcript.apply number monitor .stop).tasks = monitor.tasks := by
      obtain ⟨processes, stopped⟩ := stop_snd monitor
      rw [Transcript.apply, stopped, Monitor.appendAll_eq]
    cases answered : monitor.stop.1 with
    | error error => exact unmarked (by simp only [additions, stopEntries, answered]) same
    | ok pid =>
      obtain ⟨body, form⟩ := toList_stopEntry monitor.host.timestamp pid
      exact marked (by simp only [additions, stopEntries, answered]) form
  | surroundings host => exact unmarked rfl rfl

/-- A line begins in each entry that a run adds. -/
theorem eachStartsLine_transcript (ready : Ready number monitor text)
    (occurrences : List Occurrence) :
    EachStartsLine endsLine text (characters (transcript number monitor occurrences)) := by
  induction occurrences generalizing monitor text with
  | nil => trivial
  | cons occurrence rest inductionHypothesis =>
    obtain ⟨each, still⟩ := ready.apply occurrence
    rw [transcript, characters, List.map_append, eachStartsLine_append]
    exact ⟨each, inductionHypothesis still⟩

/-- A line begins in each entry of an accepted build. -/
theorem eachStartsLine_accepted (monitor started : Monitor) (number : Nat)
    (occurrences : List Occurrence) :
    EachStartsLine endsLine [] (characters
      (Monitor.startEntry monitor.host.timestamp :: transcript number started occurrences)) := by
  obtain ⟨some, closed⟩ := closed_startEntry monitor.host.timestamp
  have ready : Ready number started (Monitor.startEntry monitor.host.timestamp).toList :=
    fun _ _ _ => closed
  simp only [characters, List.map_cons, EachStartsLine, List.nil_append]
  exact ⟨Or.inl ⟨closed_nil, some⟩, eachStartsLine_transcript ready occurrences⟩

/-! ## What is shown -/

variable {entries : List String} {host : Host} {sink : LogSink} {path : String}

/-- The characters of entries that are joined are those of each, one after the other. -/
theorem toList_join (entries : List String) :
    (String.join entries).toList = (characters entries).flatten := by
  rw [String.toList_join, characters, List.flatMap_def]

/-- Entries that were copied one by one are copied as one text. -/
theorem flatMap_encode (entries : List String) :
    entries.flatMap Utf8.encode = Utf8.encode (String.join entries) := by
  rw [Utf8.encode, toList_join, characters, Utf8.encodeChars, ← List.flatMap_def, List.flatMap_assoc]
  rfl

/-- The end of a list of images holds the images of the end. -/
theorem lastOf_map {α β : Type} (change : α → β) (count : Nat) (elements : List α) :
    lastOf count (elements.map change) = (lastOf count elements).map change := by
  simp only [lastOf, List.length_map, List.map_drop]

/-- The last entries, joined, are the last lists of characters, joined. -/
theorem join_lastOf (count : Nat) (entries : List String) :
    (String.join (lastOf count entries)).toList = (lastOf count (characters entries)).flatten := by
  rw [toList_join, characters, characters, lastOf_map]

/-- The lines of the text that entries make up. -/
def linesOf (entries : List String) : List (List Char) :=
  splitAfter endsLine (characters entries).flatten

/-- A log that keeps the end of some entries shows the last of them. -/
theorem snapshot_of_window (some : entries ≠ [])
    (kept : sink.entries = lastOf sink.capacity entries) (count : Nat) :
    sink.snapshot host count = lastOf (min count sink.capacity) entries := by
  have positive := sink.positive
  have there : sink.entries ≠ [] := by
    rwa [kept, Ne, lastOf_eq_nil_iff (by omega)]
  rw [LogSink.snapshot_eq_lastOf there, kept, lastOf_lastOf]
  congr 1
  omega

/-- A log with nothing in memory shows the last lines of the text that was copied. -/
theorem snapshot_of_copy {content : Host.Blob} (read : host.read path = .ok content)
    (copied : content.toList = entries.flatMap Utf8.encode) (capacity count : Nat) :
    (LogSink.create path capacity).snapshot host count =
      (lastOf (min count (max capacity 1)) (linesOf entries)).map String.ofList := by
  have lines : splitLines (Utf8.decodeLossy content.toList) =
      (linesOf entries).map String.ofList := by
    rw [copied, flatMap_encode, Utf8.decodeLossy_encode, splitLines, toList_join, linesOf]
  simp only [LogSink.snapshot, LogSink.create, List.isEmpty_nil, if_true, LogSink.tailOfCopy, read,
    lines, lastOf_map]
  split
  · next none => rw [none, lastOf_zero, List.map_nil]
  · rfl

/-- The lines after a restart are the end of the text before it; there is one for each entry at
least, and they are the entries where each entry is a line. -/
theorem lines_agree (each : EachStartsLine endsLine [] (characters entries)) (count : Nat) :
    let live := lastOf count entries
    let restarted := (lastOf count (linesOf entries)).map String.ofList
    (String.join restarted).toList <:+ (String.join live).toList ∧
      live.length ≤ restarted.length ∧
      ((∀ entry ∈ entries, '\n' ∉ entry.toList.dropLast) →
        (∀ entry ∈ entries.dropLast, entry.toList.getLast? = some '\n') → restarted = live) := by
  intro live restarted
  have back : characters restarted = lastOf count (linesOf entries) := by
    simp [restarted, characters, Function.comp_def]
  refine ⟨?_, ?_, ?_⟩
  · rw [toList_join, back, join_lastOf]
    exact flatten_lastOf_splitAfter_suffix each count
  · have counted := each.length_splitAfter
    rw [splitAfter_nil, List.nil_append, ← linesOf, characters, List.length_map,
      List.length_nil] at counted
    simp only [live, restarted, List.length_map, length_lastOf]
    omega
  · intro plain ended
    have unbroken : ∀ piece ∈ characters entries, Unbroken endsLine piece.dropLast := by
      intro piece member character inside isEnd
      obtain ⟨entry, there, rfl⟩ := List.mem_map.mp member
      exact plain entry there (eq_of_beq isEnd ▸ inside)
    have finished : ∀ piece ∈ (characters entries).dropLast, Closed endsLine piece := by
      intro piece member last stands
      rw [characters, ← List.map_dropLast] at member
      obtain ⟨entry, there, rfl⟩ := List.mem_map.mp member
      rw [ended entry there] at stands
      cases stands
      rfl
    have same : linesOf entries = characters entries :=
      splitAfter_flatten each.ne_nil unbroken finished
    simp only [restarted, live, same, characters, lastOf_map, List.map_map, Function.comp_def,
      String.ofList_toList, List.map_id']

/-- The log of a build that was accepted where there was no marker, as a monitor shows it that was
set up anew with a log of the same capacity, at any point of the build or after its end. Whatever
the script has printed and whenever requests to stop came, the durable copy reads as the entries of
the build to the letter; the lines shown are the end of the text that the monitor showed before, and
are no fewer; and they are the same where no entry breaks off or holds two lines. -/
theorem restarted_view (monitor : Monitor) (occurrences : List Occurrence)
    (idle : monitor.check = .idle) (starts : StartsDurably monitor)
    (durable : Durable monitor.tasks.length monitor.start.2 occurrences) :
    let number := monitor.tasks.length
    let final := run number monitor.start.2 occurrences
    let entries :=
      Monitor.startEntry monitor.host.timestamp :: transcript number monitor.start.2 occurrences
    (∃ content, final.host.read final.sink.path = .ok content ∧
        content.toList = entries.flatMap Utf8.encode ∧
        Utf8.decodeLossy content.toList = String.join entries) ∧
      ∀ (later : Host) (count : Nat),
        later.read final.sink.path = final.host.read final.sink.path →
        let live := final.sink.snapshot final.host count
        let restarted :=
          (LogSink.create final.sink.path final.sink.capacity).snapshot later count
        (String.join restarted).toList <:+ (String.join live).toList ∧
          live.length ≤ restarted.length ∧ restarted.length ≤ min count final.sink.capacity ∧
          ((∀ entry ∈ entries, '\n' ∉ entry.toList.dropLast) →
            (∀ entry ∈ entries.dropLast, entry.toList.getLast? = some '\n') →
            restarted = live) := by
  intro number final entries
  have accepted : monitor.start.2 = monitor.accept := congrArg Prod.snd (start_of_idle idle)
  have path : final.sink.path = monitor.sink.path := by
    simp only [final, accepted, sink_run, LogSink.foldl_push_path, sink_accept]
    rfl
  have capacity : final.sink.capacity = monitor.sink.capacity := by
    simp only [final, accepted, sink_run, LogSink.foldl_push_capacity, sink_accept]
    rfl
  have window : final.sink.entries = lastOf final.sink.capacity entries := by
    rw [capacity]
    simp only [final, entries, accepted]
    exact entries_run_accept monitor number occurrences
  have keeps : final.host.Keeps final.sink.path (some (entries.flatMap Utf8.encode)) := by
    have first := keeps_accept monitor starts
    have same : monitor.start.2.sink.path = monitor.sink.path := by
      rw [accepted, sink_accept]
      rfl
    rw [← accepted, ← same] at first
    rw [path, ← same, List.flatMap_cons]
    exact keeps_run first durable
  obtain ⟨content, read, holds⟩ := Host.read_of_keeps_some keeps
  refine ⟨⟨content, read, holds, ?_⟩, ?_⟩
  · rw [holds, flatMap_encode, Utf8.decodeLossy_encode]
  · intro later count unchanged live restarted
    have positive := final.sink.positive
    have shown : live = lastOf (min count final.sink.capacity) entries :=
      snapshot_of_window (List.cons_ne_nil _ _) window count
    have shownLater : restarted =
        (lastOf (min count final.sink.capacity) (linesOf entries)).map String.ofList := by
      rw [show final.sink.capacity = max final.sink.capacity 1 by omega]
      exact snapshot_of_copy (unchanged.trans read) holds _ count
    have each := eachStartsLine_accepted monitor monitor.start.2 number occurrences
    obtain ⟨ends, more, same⟩ := lines_agree each (min count final.sink.capacity)
    rw [shown, shownLater]
    refine ⟨ends, more, ?_, same⟩
    rw [List.length_map, length_lastOf]
    exact Nat.min_le_left _ _

/-- The end of a build whose output broke off in the middle of a line, and a smaller window. -/
theorem killedRun_restarted :
    let started := freshMonitor.start.2
    let final := run 0 started (killedRun ++ [.script killedScript.closing])
    freshMonitor.check = .idle ∧ StartsDurably freshMonitor ∧
      Durable 0 started (killedRun ++ [.script killedScript.closing]) ∧
      (String.join ((LogSink.create "/l" 10).snapshot final.host 2)).toList <:+
        (String.join (final.sink.snapshot final.host 2)).toList := by
  intro started final
  have idle := freshMonitor_idle
  obtain ⟨starts, still⟩ := startsDurably_of_unhindered freshMonitor_unhindered
  have accepted : started = freshMonitor.accept := congrArg Prod.snd (start_of_idle idle)
  have plain : started.host.faults = [] := accepted ▸ still
  have kept : started.host.Keeps started.sink.path
      (some (Utf8.encode (Monitor.startEntry freshMonitor.host.timestamp))) := by
    rw [accepted]
    exact keeps_accept freshMonitor starts
  have durable : Durable 0 started (killedRun ++ [.script killedScript.closing]) := by
    refine durable_of_plain kept plain ?_
    intro host member
    simp [killedRun] at member
  obtain ⟨-, shown⟩ := restarted_view freshMonitor _ idle starts durable
  have path : final.sink.path = "/l" := by
    simp only [final, accepted, sink_run, LogSink.foldl_push_path, sink_accept]
    rfl
  have capacity : final.sink.capacity = 10 := by
    simp only [final, accepted, sink_run, LogSink.foldl_push_capacity, sink_accept]
    rfl
  obtain ⟨ends, -⟩ := shown final.host 2 rfl
  rw [← path, ← capacity]
  exact ⟨idle, starts, durable, ends⟩

end BuildMonitor.Restart
