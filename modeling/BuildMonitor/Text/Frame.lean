import BuildMonitor.Text.Split
import BuildMonitor.Text.Width

/-!
# Framed tables

A table is drawn with box characters: a double rule below the heading, dotted rules between the
rows. A cell may hold several lines. Columns are as wide as their widest line, in columns of the
terminal, and nothing is ever wrapped.

Main definitions: `columnWidths`, `framed`.
-/

namespace BuildMonitor.Text

/-- A row of a table: its cells, each a list of lines. -/
abbrev FrameRow := List (List String)

/-- The row with the given texts as cells; a cell breaks at each line break. -/
def frameRow (cells : List String) : FrameRow := cells.map (splitText '\n')

/-- The columns that the widest of some lines takes. -/
def widest (lines : List String) : Nat :=
  lines.foldl (fun width line => max width (displayWidth line)) 0

/-- The greater of two lists of widths, place by place. -/
def maxWidths : List Nat → List Nat → List Nat
  | first :: firsts, second :: seconds => max first second :: maxWidths firsts seconds
  | [], seconds => seconds
  | firsts, [] => firsts

/-- The width of each column. -/
def columnWidths (rows : List FrameRow) : List Nat :=
  rows.foldl (fun widths row => maxWidths widths (row.map widest)) []

/-- A line filled up with spaces to a width. -/
def filled (width : Nat) (line : String) : String :=
  line ++ String.ofList (List.replicate (width - displayWidth line) ' ')

/-- A rule across the table, from its four characters. -/
def rule (left stroke crossing right : String) (widths : List Nat) : String :=
  let strokes := widths.map fun width => String.join (List.replicate (width + 2) stroke)
  left ++ joinTexts crossing strokes ++ right

/-- One line of a row: the line of that number of each cell, or spaces where a cell has fewer. -/
def frameLine (widths : List Nat) (row : FrameRow) (number : Nat) : String :=
  let cells := (widths.zip row).map fun (width, cell) =>
    " " ++ filled width (cell.getD number "") ++ " "
  "│" ++ joinTexts "┆" cells ++ "│"

/-- All lines of a row. -/
def frameLines (widths : List Nat) (row : FrameRow) : List String :=
  let height := row.foldl (fun height cell => max height cell.length) 0
  (List.range height).map (frameLine widths row)

/-- A table with a heading. -/
def framed (heading : List String) (rows : List (List String)) : String :=
  let heading := frameRow heading
  let rows := rows.map frameRow
  let widths := columnWidths (heading :: rows)
  let divider := rule "├" "╌" "┼" "┤" widths
  let body := joinWith [divider] (rows.map (frameLines widths))
  joinTexts "\n" <|
    [rule "┌" "─" "┬" "┐" widths] ++ frameLines widths heading ++
      [rule "╞" "═" "╪" "╡" widths] ++ body ++ [rule "└" "─" "┴" "┘" widths]

end BuildMonitor.Text
