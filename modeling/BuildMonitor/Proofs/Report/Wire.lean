import BuildMonitor.Cli.Run
import BuildMonitor.Proofs.Http.Answers
import BuildMonitor.Proofs.Http.Refusals
import BuildMonitor.Proofs.Report.Reading
import BuildMonitor.Proofs.Text.Frames

/-!
# Reports on the wire

A report is sent with its members in the order of its fields, and shown on the command line with
the members of every object in rising order. Both texts are read as one value, and what is read of
it is the report: whatever characters its texts hold, whatever the metadata is. Only metadata that
is null is not told from none. The state of the build has the name in the document that it has in
the table.

A reader that limits how deep containers are nested must allow for the metadata and two containers
around it: `StatusReport.depth_toJson`.

Main definition: `StatusReport.Survives`. Main statement: `reports_survive_wire`.
-/

namespace BuildMonitor

open Json Text Http

/-! ## Numbers and depth of a report -/

private theorem isWhole_ofNat {number : Nat} (small : number ≤ wordLimit) :
    (Value.ofNat number).IsWhole :=
  small

private theorem isWhole_ofOption {held : Option Value}
    (whole : ∀ document ∈ held, document.IsWhole) : (Value.ofOption held).IsWhole := by
  cases held with
  | none => trivial
  | some document => exact whole document rfl

private theorem isWhole_size {size : Option Nat} (small : ∀ number ∈ size, number ≤ wordLimit) :
    (Value.ofOption (size.map .ofNat)).IsWhole := by
  cases size with
  | none => trivial
  | some number => exact small number rfl

private theorem isWhole_text (held : Option String) :
    (Value.ofOption (held.map .text)).IsWhole := by
  cases held <;> trivial

/-- The numbers in the document of a state are integers of 64 bits. -/
theorem BuildState.isWhole_toJson {state : BuildState} (representable : state.Representable) :
    state.toJson.IsWhole := by
  cases state with
  | idle => exact ⟨trivial, trivial⟩
  | running pid => exact ⟨trivial, isWhole_ofNat (representable pid rfl), trivial⟩
  | stale pid => exact ⟨trivial, isWhole_ofNat (representable pid rfl), trivial⟩
  | error message => exact ⟨trivial, trivial, trivial⟩

/-- The numbers in the document of a report on the status are integers of 64 bits. -/
theorem StatusReport.isWhole_toJson {report : StatusReport} (representable : report.Representable) :
    report.toJson.IsWhole := by
  have database : report.database.toJson.IsWhole :=
    ⟨trivial, isWhole_size representable.databaseSize, isWhole_text _, trivial,
      isWhole_size representable.archiveSize, isWhole_ofOption representable.whole, trivial,
      trivial, trivial⟩
  exact ⟨BuildState.isWhole_toJson representable.build, database, trivial, trivial⟩

/-- The numbers in the document of a report on the log are integers of 64 bits. -/
theorem LogReport.isWhole_toJson {report : LogReport} (counted : report.totalLines ≤ wordLimit) :
    report.toJson.IsWhole := by
  have lines : Value.WholeItems (report.lines.map .text) := by
    induction report.lines with
    | nil => trivial
    | cons line rest inductionHypothesis => exact ⟨trivial, inductionHypothesis⟩
  exact ⟨lines, isWhole_ofNat counted, trivial, trivial⟩

/-- How many containers are nested at most in the metadata. -/
def StatusReport.metadataDepth (report : StatusReport) : Nat :=
  (report.database.metadata.map Value.depth).getD 0

/-- The document of a report on the status is two containers deeper than its metadata. -/
theorem StatusReport.depth_toJson (report : StatusReport) :
    report.toJson.depth = report.metadataDepth + 2 := by
  have build : report.build.toJson.depth = 1 := by
    cases report.build <;> rfl
  have size (held : Option Nat) : (Value.ofOption (held.map .ofNat)).depth = 0 := by
    cases held <;> rfl
  have time (held : Option String) : (Value.ofOption (held.map .text)).depth = 0 := by
    cases held <;> rfl
  have metadata : (Value.ofOption report.database.metadata).depth = report.metadataDepth := by
    rw [metadataDepth]
    cases report.database.metadata <;> rfl
  have database : report.database.toJson.depth = report.metadataDepth + 1 := by
    simp [Artifact.Inventory.toJson, Value.depth, Value.depthOfMembers, size, time, metadata]
  simp only [toJson, Value.depth, Value.depthOfMembers, build, database]
  omega

/-- The document of a report on the log is two containers deep. -/
theorem LogReport.depth_toJson (report : LogReport) : report.toJson.depth = 2 := by
  have lines : Value.depthOfItems (report.lines.map .text) = 0 := by
    induction report.lines with
    | nil => rfl
    | cons line rest inductionHypothesis =>
      rw [List.map_cons, Value.depthOfItems, inductionHypothesis]
      rfl
  simp [toJson, Value.depth, Value.depthOfMembers, Value.ofNat, lines]

/-! ## Reading what was sent and what was shown -/

section Received

variable {limit : Option Nat} {value : Value}

/-- What is sent is read as the value in order. -/
theorem ofBytesWithin?_json (whole : value.IsWhole) (allows : Allows limit value.depth)
    (status : Nat) :
    Value.ofBytesWithin? limit (Response.json status value).body.toList = some value.sorted := by
  have fits := Value.fits_of_depth_le value whole (Nat.le_refl _)
  rw [Response.json, Response.bodyOf, Host.Blob.toList_ofList,
    Value.ofBytesWithin?_compact fits allows]

/-- What is shown in order and ended with a line break is read as the same. -/
theorem ofBytesWithin?_shown (whole : value.IsWhole) (allows : Allows limit value.depth) :
    Value.ofBytesWithin? limit (Utf8.encode (value.sorted.pretty ++ "\n")) =
      some value.sorted := by
  have fits := Value.fits_sorted value (Value.fits_of_depth_le value whole (Nat.le_refl _))
  rw [Value.ofBytesWithin?_pretty fits allows,
    Value.sorted_eq_self _ (Value.isSorted_sorted value)]

end Received

/-- Different states have different texts, sent and shown. -/
theorem BuildState.texts_ne {state other : BuildState} (representable : state.Representable)
    (representable' : other.Representable) (differ : state ≠ other) :
    state.toJson.compact ≠ other.toJson.compact ∧
      state.toJson.sorted.pretty ≠ other.toJson.sorted.pretty := by
  have anyDepth : ∀ depth, Allows none depth := nofun
  have whole := isWhole_toJson representable
  have whole' := isWhole_toJson representable'
  constructor
  · intro same
    have read := ofBytesWithin?_json whole (anyDepth _) 200
    have read' := ofBytesWithin?_json whole' (anyDepth _) 200
    rw [Response.json, same, ← Response.json, read'] at read
    exact differ (eq_of_sorted_eq (Option.some.inj read).symm)
  · intro same
    have read := ofBytesWithin?_shown whole (anyDepth _)
    rw [same, ofBytesWithin?_shown whole' (anyDepth _)] at read
    exact differ (eq_of_sorted_eq (Option.some.inj read).symm)

/-! ## The table -/

namespace StatusReport

private theorem length_of_mem_rows {report : StatusReport} {row : List String}
    (isRow : row ∈ report.rows) : row.length = 2 := by
  have state : ∀ row ∈ stateRows report.build, row.length = 2 := by
    cases report.build <;> simp [stateRows]
  have metadata : ∀ label name, ∀ row ∈ metadataRow report.database.metadata label name,
      row.length = 2 := by
    intro label name
    unfold metadataRow
    split <;> simp
  simp only [rows, List.mem_append] at isRow
  rcases isRow with ((((build | ofState) | artifacts) | time) | updated) | next
  · rw [List.mem_singleton.mp build]
    rfl
  · exact state row ofState
  · rcases List.mem_pair.mp artifacts with rfl | rfl <;> rfl
  · split at time
    · rw [List.mem_singleton.mp time]
      rfl
    · cases time
  · exact metadata _ _ row updated
  · exact metadata _ _ row next

/-- A line of the table shows the name of the state. -/
theorem exists_table_eq (report : StatusReport) :
    ∃ above below first second, report.table =
      above ++ "\n" ++ ("│ Build" ++ spaces first ++ " ┆ " ++ report.build.name ++
        spaces second ++ " │") ++ "\n" ++ below := by
  have isRow : ["Build", report.build.name] ∈ report.rows := by simp [rows]
  have pairs : ∀ row ∈ frameRow ["Field", "Value"] :: report.rows.map frameRow,
      row.length = 2 := by
    simp only [List.mem_cons, List.mem_map]
    rintro row (rfl | ⟨cells, found, rfl⟩)
    · rfl
    · rw [frameRow, List.length_map, length_of_mem_rows found]
  obtain ⟨first, second, widths⟩ := exists_columnWidths_eq (List.cons_ne_nil _ _) pairs
  have plain : '\n' ∉ report.build.name.toList := by
    cases report.build <;> simp [BuildState.name]
  have shown := @frameLines_pair "Build" _ (by decide) plain first second
  obtain ⟨above, below, framedEq⟩ := exists_framed_eq isRow
    (by rw [widths, shown]; exact List.mem_singleton_self _)
  have opening : "│ Build" = "│ " ++ "Build" := rfl
  exact ⟨above, below ++ hint report.build, _, _, by
    rw [table, framedEq, opening, String.append_assoc]⟩

end StatusReport

/-! ## Where reports come from -/

/-- The command that shows the state writes the report of the monitor that it opens. -/
theorem Cli.output_run_status {arguments : List String} {environment : Config.Environment}
    {json : Bool} {file : Option String}
    (read : Invocation.read (environment.lookup fileVariable) arguments =
      .ok ⟨.status, json, file⟩) (host : Host) :
    (run arguments environment host).output =
      ((openMonitor host environment file).toOption.map fun opened =>
        (if json then opened.2.status.document else opened.2.status.table) ++ "\n").getD "" := by
  simp only [run, read, perform, status]
  cases openMonitor host environment file <;> rfl

/-! ## Reports are read as they are -/

/-- A reader with this limit reads what is sent of the report and what is shown of it as one value.
The report is read of that, as it is unless its metadata is null, and the state of the build has its
name there and in the table. -/
structure StatusReport.Survives (report : StatusReport) (limit : Option Nat) (value : Value) :
    Prop where
  sent : Value.ofBytesWithin? limit (Response.json 200 report.toJson).body.toList = some value
  shown : Value.ofBytesWithin? limit (Utf8.encode (report.document ++ "\n")) = some value
  read : StatusReport.ofJson? value = some report.told
  kept : report.database.metadata ≠ some .null → StatusReport.ofJson? value = some report
  named : (value.member? "build").bind (Value.member? "status") = some (.text report.build.name)
  listed : ∃ above below first second, report.table =
    above ++ "\n" ++ ("│ Build" ++ spaces first ++ " ┆ " ++ report.build.name ++ spaces second ++
      " │") ++ "\n" ++ below

/-- A reader with this limit reads the report of what is sent of it. -/
structure LogReport.Survives (report : LogReport) (limit : Option Nat) (value : Value) : Prop where
  sent : Value.ofBytesWithin? limit (Response.json 200 report.toJson).body.toList = some value
  read : LogReport.ofJson? value = some report

/-- A report on the status survives where there is room for its metadata. -/
theorem StatusReport.survives {report : StatusReport} {limit : Option Nat}
    (representable : report.Representable) (allows : Allows limit (report.metadataDepth + 2)) :
    report.Survives limit report.toJson.sorted where
  sent := ofBytesWithin?_json (isWhole_toJson representable) (report.depth_toJson ▸ allows) 200
  shown := ofBytesWithin?_shown (isWhole_toJson representable) (report.depth_toJson ▸ allows)
  read := ofJson?_sorted report representable.sorted
  kept notNull := by rw [ofJson?_sorted report representable.sorted, told_eq_self notNull]
  named := by
    simp [toJson, Value.member?_sorted, BuildState.member?_status_sorted]
  listed := exists_table_eq report

/-- A report on the log survives where there is room for two containers. -/
theorem LogReport.survives {report : LogReport} {limit : Option Nat}
    (counted : report.totalLines ≤ wordLimit) (allows : Allows limit 2) :
    report.Survives limit report.toJson.sorted where
  sent := ofBytesWithin?_json (isWhole_toJson counted) (report.depth_toJson ▸ allows) 200
  read := ofJson?_sorted report

/-- What is sent of a report and what is shown of it are read as one value, of which the report is
read again, by every reader that allows its depth; a reader without a limit allows any. The same
holds of what is sent of the log. Different states of the build have different texts, sent and
shown. Requests for the state and the log are answered with such reports, and the command line
writes the one of the monitor that it opens. -/
theorem reports_survive_wire (limit : Option Nat) :
    (∀ report : StatusReport, report.Representable → Allows limit (report.metadataDepth + 2) →
      ∃ value, report.Survives limit value) ∧
    (∀ report : LogReport, report.totalLines ≤ wordLimit → Allows limit 2 →
      ∃ value, report.Survives limit value) ∧
    (∀ state other : BuildState, state.Representable → other.Representable → state ≠ other →
      state.toJson.compact ≠ other.toJson.compact ∧
        state.toJson.sorted.pretty ≠ other.toJson.sorted.pretty) ∧
    (∀ (sharing : Bool) (query : Option String) (monitor : Monitor),
      (handle sharing ⟨"GET", ⟨"/api/status", query⟩⟩ monitor).1.Carries
        (.json 200 monitor.status.toJson) ∧
      ∀ raw, linesParameter query = .ok raw →
        (handle sharing ⟨"GET", ⟨"/api/logs", query⟩⟩ monitor).1.Carries
          (.json 200 (monitor.logs (lineCount raw)).toJson)) ∧
    ∀ (arguments : List String) (environment : Config.Environment) (json : Bool)
      (file : Option String),
      Cli.Invocation.read (environment.lookup Cli.fileVariable) arguments =
        .ok ⟨.status, json, file⟩ →
      ∀ host, (Cli.run arguments environment host).output =
        ((Cli.openMonitor host environment file).toOption.map fun opened =>
          (if json then opened.2.status.document else opened.2.status.table) ++ "\n").getD "" :=
  ⟨fun _ representable allows => ⟨_, StatusReport.survives representable allows⟩,
    fun _ counted allows => ⟨_, LogReport.survives counted allows⟩,
    fun _ _ => BuildState.texts_ne,
    fun sharing query monitor =>
      ⟨handle_status sharing query monitor, fun _ read => handle_logs sharing read monitor⟩,
    fun _ _ _ _ => Cli.output_run_status⟩

/-- A report whose texts hold what must be escaped and what need not be. -/
def garbledReport : StatusReport where
  build := .error "no \"pid\" in \\ \x00\n\x7f\u2028\ufffd𝒳"
  database :=
    { databaseExists := true
      databaseSize := some wordLimit
      databaseTime := none
      archiveExists := false
      archiveSize := none
      metadata := some (.object
        [("", .null), ("\t", .array [.number (.negative 5), .object []]), ("𝒳", .text "\ud7ff")])
      databaseSizeText := "16.00 EB"
      archiveSizeText := "N/A" }
  timestamp := "\x1f"

/-- Lines that hold the same. -/
def garbledLines : LogReport := ⟨["\x1b[0m\"\\\r\n", "", "\ufffd𝒳\n"], 3, "\x1f"⟩

/-- Reports with texts that must be escaped survive. -/
theorem garbledReport_survives :
    garbledReport.Representable ∧ Allows (some depthLimit) (garbledReport.metadataDepth + 2) ∧
      (∃ value, garbledReport.Survives (some depthLimit) value) ∧
      (∃ value, garbledLines.Survives (some depthLimit) value) ∧
      (BuildState.running 7).toJson.compact ≠ (BuildState.stale 7).toJson.compact ∧
      (Cli.run ["status", "--json"] [] Http.freshService.monitor.host).output =
        ((Cli.openMonitor Http.freshService.monitor.host [] none).toOption.map fun opened =>
          opened.2.status.document ++ "\n").getD "" := by
  have representable : garbledReport.Representable := {
    build := by rintro pid ⟨⟩
    databaseSize := by
      rintro size ⟨⟩
      exact Nat.le_refl _
    archiveSize := by rintro size ⟨⟩
    whole := by
      rintro document ⟨⟩
      have five : Number.IsWhole (.negative 5) := by
        rw [Number.IsWhole]
        decide
      exact ⟨trivial, ⟨five, trivial, trivial⟩, trivial, trivial⟩
    sorted := by
      rintro document ⟨⟩
      have ordered : Ordered [("", ()), ("\t", ()), ("𝒳", ())] := by
        rw [Ordered]
        decide
      exact ⟨ordered, trivial, ⟨trivial, ⟨List.Pairwise.nil, trivial⟩, trivial⟩, trivial, trivial⟩ }
  have shallow : Allows (some depthLimit) (garbledReport.metadataDepth + 2) := by
    rintro most ⟨⟩
    decide
  have shallow' : Allows (some depthLimit) 2 := by
    rintro most ⟨⟩
    decide
  have small : (7 : Nat) ≤ wordLimit := by decide
  obtain ⟨reports, logs, states, -, shown⟩ := reports_survive_wire (some depthLimit)
  refine ⟨representable, shallow, reports _ representable shallow,
    logs garbledLines (by decide) shallow', (states (.running 7) (.stale 7) ?_ ?_ ?_).1,
    shown ["status", "--json"] [] true none rfl _⟩
  · rintro pid ⟨⟩
    exact small
  · rintro pid ⟨⟩
    exact small
  · rintro ⟨⟩

end BuildMonitor
