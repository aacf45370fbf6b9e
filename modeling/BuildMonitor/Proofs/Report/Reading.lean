import BuildMonitor.Proofs.Json.Order
import BuildMonitor.Proofs.Json.RoundTrip
import BuildMonitor.Report.Status

/-!
# Reading reports

A reader of a report finds its members by name and knows the state of the build by its tag. What is
read of a report is the report, from whichever order its members come in:
`StatusReport.ofJson?_sorted`, `LogReport.ofJson?_sorted`. Only metadata that is the value null is
not told from none.

A tag is the name of the state, so no two states have one document: `tag_eq_name`,
`BuildState.eq_of_sorted_eq`.

Main definitions: `StatusReport.ofJson?`, `LogReport.ofJson?`, `StatusReport.Representable`.
-/

namespace BuildMonitor

open Json Artifact

namespace Json.Value

/-- The truth value, if the value is one. -/
def boolean? : Value → Option Bool
  | .boolean value => some value
  | _ => none

/-- The natural number, if the value is one. -/
def natural? : Value → Option Nat
  | .number (.natural value) => some value
  | _ => none

/-- The items, if the value is an array. -/
def items? : Value → Option (List Value)
  | .array items => some items
  | _ => none

/-- Reads what may be missing; `null` stands for none. -/
def optional? {α : Type} (read : Value → Option α) : Value → Option (Option α)
  | .null => some none
  | value => (read value).map some

/-- The value, if it says anything. -/
def given? : Value → Option Value
  | .null => none
  | value => some value

end Json.Value

/-! ## Readers -/

/-- The state that a document tells of. -/
def BuildState.ofJson? (document : Value) : Option BuildState := do
  let tag ← (← document.member? "status").text?
  if tag = "idle" then return .idle
  else if tag = "running" then return .running (← (← document.member? "pid").natural?)
  else if tag = "stale_lock" then return .stale (← (← document.member? "pid").natural?)
  else if tag = "error" then return .error (← (← document.member? "message").text?)
  else none

/-- The inventory that a document tells of. -/
def Artifact.Inventory.ofJson? (document : Value) : Option Inventory := do
  return {
    databaseExists := ← (← document.member? "db_exists").boolean?
    databaseSize := ← (← document.member? "db_size").optional? Value.natural?
    databaseTime := ← (← document.member? "db_mtime").optional? Value.text?
    archiveExists := ← (← document.member? "tar_exists").boolean?
    archiveSize := ← (← document.member? "tar_size").optional? Value.natural?
    metadata := (← document.member? "metadata").given?
    databaseSizeText := ← (← document.member? "db_size_formatted").text?
    archiveSizeText := ← (← document.member? "tar_size_formatted").text? }

/-- The report that a document holds. -/
def StatusReport.ofJson? (document : Value) : Option StatusReport := do
  return {
    build := ← BuildState.ofJson? (← document.member? "build")
    database := ← Inventory.ofJson? (← document.member? "database")
    timestamp := ← (← document.member? "timestamp").text? }

/-- The report that a document holds. -/
def LogReport.ofJson? (document : Value) : Option LogReport := do
  return {
    lines := ← (← (← document.member? "logs").items?).mapM Value.text?
    totalLines := ← (← document.member? "total_lines").natural?
    timestamp := ← (← document.member? "timestamp").text? }

/-! ## What can be told -/

/-- The number of a process is that of a 64-bit word. -/
def BuildState.Representable (state : BuildState) : Prop := ∀ pid ∈ state.pid?, pid ≤ wordLimit

/-- Numbers are those of 64-bit words, and metadata is a document as it is read: its numbers are
integers of 64 bits and its members in order. -/
structure StatusReport.Representable (report : StatusReport) : Prop where
  build : report.build.Representable
  databaseSize : ∀ size ∈ report.database.databaseSize, size ≤ wordLimit
  archiveSize : ∀ size ∈ report.database.archiveSize, size ≤ wordLimit
  whole : ∀ document ∈ report.database.metadata, document.IsWhole
  sorted : ∀ document ∈ report.database.metadata, document.IsSorted

/-- The report as it is told: metadata that is null is none. -/
def StatusReport.told (report : StatusReport) : StatusReport :=
  { report with
    database := { report.database with metadata := report.database.metadata.bind Value.given? } }

/-- A report whose metadata is not null is told as it is. -/
theorem StatusReport.told_eq_self {report : StatusReport}
    (notNull : report.database.metadata ≠ some .null) : report.told = report := by
  have given : report.database.metadata.bind Value.given? = report.database.metadata := by
    cases held : report.database.metadata with
    | none => rfl
    | some document =>
      cases document with
      | null => exact absurd held notNull
      | _ => rfl
  rw [told, given]

/-! ## Reading the state of the build -/

namespace BuildState

variable {state other : BuildState}

/-- The tag of a state is its name. -/
@[simp] theorem tag_eq_name (state : BuildState) : state.tag = state.name := by
  cases state <;> rfl

/-- A state is read back from its document. -/
theorem ofJson?_sorted (state : BuildState) : ofJson? state.toJson.sorted = some state := by
  cases state <;>
    simp [ofJson?, toJson, name, Value.member?_sorted, lookup_cons_eq_ite, Value.text?,
      Value.natural?, Value.ofNat]

/-- Different states have different documents. -/
theorem eq_of_sorted_eq (same : state.toJson.sorted = other.toJson.sorted) : state = other := by
  have read := ofJson?_sorted state
  rw [same, ofJson?_sorted other] at read
  exact (Option.some.inj read).symm

/-- The member that tells states apart is the name of the state. -/
theorem member?_status_sorted (state : BuildState) :
    state.toJson.sorted.member? "status" = some (.text state.name) := by
  cases state <;> simp [toJson, Value.member?_sorted]

end BuildState

/-! ## Reading reports -/

private theorem optional?_natural (held : Option Nat) :
    (Value.ofOption (held.map .ofNat)).sorted.optional? Value.natural? = some held := by
  cases held <;> rfl

private theorem optional?_text (held : Option String) :
    (Value.ofOption (held.map .text)).sorted.optional? Value.text? = some held := by
  cases held <;> rfl

private theorem given?_ofOption {held : Option Value}
    (sorted : ∀ document ∈ held, document.IsSorted) :
    (Value.ofOption held).sorted.given? = held.bind Value.given? := by
  cases held with
  | none => rfl
  | some document =>
    rw [Value.ofOption, Option.getD_some, Value.sorted_eq_self document (sorted document rfl),
      Option.bind_some]

/-- An inventory is read back from its document, as metadata that is null says nothing. -/
theorem Artifact.Inventory.ofJson?_sorted (inventory : Inventory)
    (sorted : ∀ document ∈ inventory.metadata, document.IsSorted) :
    Inventory.ofJson? inventory.toJson.sorted =
      some { inventory with metadata := inventory.metadata.bind Value.given? } := by
  simp [Inventory.ofJson?, Inventory.toJson, Value.member?_sorted, lookup_cons_eq_ite,
    optional?_natural, optional?_text, given?_ofOption sorted, Value.boolean?, Value.text?]

/-- A report on the status is read back from its document, as it is told. -/
theorem StatusReport.ofJson?_sorted (report : StatusReport)
    (sorted : ∀ document ∈ report.database.metadata, document.IsSorted) :
    StatusReport.ofJson? report.toJson.sorted = some report.told := by
  simp [StatusReport.ofJson?, StatusReport.toJson, Value.member?_sorted, lookup_cons_eq_ite,
    BuildState.ofJson?_sorted, Inventory.ofJson?_sorted _ sorted, Value.text?, told]

private theorem sorted_texts (texts : List String) :
    (Value.array (texts.map .text)).sorted = .array (texts.map .text) := by
  rw [Value.sorted]
  congr 1
  induction texts with
  | nil => rfl
  | cons text rest inductionHypothesis =>
    rw [List.map_cons, Value.sortedItems, inductionHypothesis, Value.sorted_text]

private theorem mapM_text? (texts : List String) :
    texts.mapM (Value.text? ∘ Value.text) = some texts := by
  have read : Value.text? ∘ Value.text = fun text => pure (id text) := rfl
  rw [read, List.mapM_pure, List.map_id]
  rfl

/-- A report on the log is read back from its document. -/
theorem LogReport.ofJson?_sorted (report : LogReport) :
    LogReport.ofJson? report.toJson.sorted = some report := by
  simp [LogReport.ofJson?, LogReport.toJson, Value.member?_sorted, lookup_cons_eq_ite,
    sorted_texts, mapM_text?, Value.items?, Value.text?, Value.natural?, Value.ofNat]

end BuildMonitor
