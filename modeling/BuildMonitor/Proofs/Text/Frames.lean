import Mathlib.Data.List.Basic
import BuildMonitor.Proofs.Text.Split
import BuildMonitor.Text.Frame

/-!
# What a table shows

Each line of a row is a line of the table: `exists_framed_eq`. The line of a row of two cells that
hold one line each is the two texts, filled up to the widths of the columns, between bars:
`frameLines_pair`.
-/

namespace BuildMonitor.Text

/-! ## Joined pieces -/

/-- What is in a piece is in the pieces as they are joined. -/
theorem mem_joinWith {α : Type} {element : α} {separator piece : List α} {pieces : List (List α)}
    (found : element ∈ piece) (isPiece : piece ∈ pieces) : element ∈ joinWith separator pieces := by
  induction pieces with
  | nil => cases isPiece
  | cons first rest inductionHypothesis =>
    cases rest with
    | nil =>
      obtain rfl := List.mem_singleton.mp isPiece
      exact found
    | cons next others =>
      rcases List.mem_cons.mp isPiece with rfl | later
      · exact List.mem_append_left _ (List.mem_append_left _ found)
      · exact List.mem_append_right _ (inductionHypothesis later)

/-- Pieces may be joined in two parts. -/
theorem joinWith_append {α : Type} {separator : List α} {before behind : List (List α)}
    (some : before ≠ []) (more : behind ≠ []) :
    joinWith separator (before ++ behind) =
      joinWith separator before ++ separator ++ joinWith separator behind := by
  induction before with
  | nil => exact absurd rfl some
  | cons first rest inductionHypothesis =>
    cases rest with
    | nil =>
      obtain ⟨next, others, rfl⟩ := List.exists_cons_of_ne_nil more
      rfl
    | cons next others =>
      have later := inductionHypothesis (List.cons_ne_nil _ _)
      simp only [List.cons_append, joinWith] at later ⊢
      rw [later]
      simp only [List.append_assoc]

/-- Texts may be joined in two parts. -/
theorem joinTexts_append {separator : String} {before behind : List String} (some : before ≠ [])
    (more : behind ≠ []) :
    joinTexts separator (before ++ behind) =
      joinTexts separator before ++ separator ++ joinTexts separator behind := by
  rw [← String.toList_inj]
  simp only [joinTexts, String.toList_append, String.toList_ofList, List.map_append]
  exact joinWith_append (by simpa using some) (by simpa using more)

/-- A text by itself is joined with nothing. -/
@[simp] theorem joinTexts_singleton (separator text : String) :
    joinTexts separator [text] = text := by
  rw [joinTexts, List.map_singleton, joinWith, String.ofList_toList]

/-- A text among others stands between two separators. -/
theorem joinTexts_middle {separator text : String} {before behind : List String}
    (some : before ≠ []) (more : behind ≠ []) :
    joinTexts separator (before ++ text :: behind) =
      joinTexts separator before ++ separator ++ text ++ separator ++
        joinTexts separator behind := by
  rw [joinTexts_append some (List.cons_ne_nil _ _), ← List.singleton_append,
    joinTexts_append (List.cons_ne_nil _ _) more, joinTexts_singleton]
  simp only [String.append_assoc]

/-! ## Lines of a table -/

variable {heading : List String} {rows : List (List String)} {row : List String} {line : String}

/-- A line of a row is a line of the table. -/
theorem exists_framed_eq (isRow : row ∈ rows)
    (isLine : line ∈ frameLines (columnWidths (frameRow heading :: rows.map frameRow))
      (frameRow row)) :
    ∃ above below, framed heading rows = above ++ "\n" ++ line ++ "\n" ++ below := by
  generalize widthsEq : columnWidths (frameRow heading :: rows.map frameRow) = widths at isLine
  have inBody : line ∈ joinWith [rule "├" "╌" "┼" "┤" widths]
      ((rows.map frameRow).map (frameLines widths)) :=
    mem_joinWith isLine (List.mem_map_of_mem (List.mem_map_of_mem isRow))
  obtain ⟨before, behind, body⟩ := List.append_of_mem inBody
  have lines : ∀ above divider below : List String,
      above ++ divider ++ (before ++ line :: behind) ++ below =
        (above ++ divider ++ before) ++ line :: (behind ++ below) := by
    intro above divider below
    simp
  simp only [framed, widthsEq, body, lines]
  exact ⟨_, _, joinTexts_middle (by simp) (by simp)⟩

/-- In a table of two columns there are two widths. -/
theorem exists_columnWidths_eq {rows : List FrameRow} (some : rows ≠ [])
    (pairs : ∀ row ∈ rows, row.length = 2) :
    ∃ first second, columnWidths rows = [first, second] := by
  suffices grown : ∀ widths, widths = [] ∧ rows ≠ [] ∨ widths.length = 2 →
      (rows.foldl (fun widths row => maxWidths widths (row.map widest)) widths).length = 2 from
    List.length_eq_two.mp (grown [] (Or.inl ⟨rfl, some⟩))
  clear some
  induction rows with
  | nil =>
    rintro widths (⟨-, none⟩ | pair)
    · exact absurd rfl none
    · exact pair
  | cons row rest inductionHypothesis =>
    obtain ⟨isPair, others⟩ := List.forall_mem_cons.mp pairs
    obtain ⟨first, second, rfl⟩ := List.length_eq_two.mp isPair
    intro widths start
    refine inductionHypothesis others _ (Or.inr ?_)
    rcases start with ⟨rfl, -⟩ | pair
    · rfl
    · obtain ⟨one, other, rfl⟩ := List.length_eq_two.mp pair
      rfl

/-- Spaces. -/
def spaces (count : Nat) : String := String.ofList (List.replicate count ' ')

/-- A row of two cells of one line each has one line, which shows both. -/
theorem frameLines_pair {label text : String} (plain : '\n' ∉ label.toList)
    (plain' : '\n' ∉ text.toList) (first second : Nat) :
    frameLines [first, second] (frameRow [label, text]) =
      ["│ " ++ label ++ spaces (first - displayWidth label) ++ " ┆ " ++ text ++
        spaces (second - displayWidth text) ++ " │"] := by
  have oneLine : ∀ {text : String}, '\n' ∉ text.toList → splitText '\n' text = [text] := by
    intro text plain
    rw [splitText, splitOn_eq_singleton plain, List.map_singleton, String.ofList_toList]
  have cells : frameRow [label, text] = [[label], [text]] := by
    rw [frameRow, List.map_cons, List.map_singleton, oneLine plain, oneLine plain']
  have two : ∀ left right : String, joinTexts "┆" [left, right] = left ++ "┆" ++ right := by
    intro left right
    rw [← List.singleton_append, joinTexts_append (List.cons_ne_nil _ _) (List.cons_ne_nil _ _),
      joinTexts_singleton, joinTexts_singleton]
  have line : frameLines [first, second] [[label], [text]] =
      ["│" ++ joinTexts "┆" [" " ++ filled first label ++ " ", " " ++ filled second text ++ " "] ++
        "│"] := rfl
  have opening : "│ " = "│" ++ " " := rfl
  have between : " ┆ " = " " ++ "┆" ++ " " := rfl
  have closing : " │" = " " ++ "│" := rfl
  rw [cells, line, two, opening, between, closing]
  simp only [filled, spaces, String.append_assoc]

end BuildMonitor.Text
