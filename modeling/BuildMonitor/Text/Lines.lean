import BuildMonitor.Text.Utf8

/-!
# Lines with their ends

A log is a list of lines, each with the line break that ends it; only the last may lack one. The
same rule cuts bytes as they leave a script and characters as they are read back from a file, so
it is stated once, over any alphabet and any test for the last element of a line.

Main definitions: `splitAfter`, `splitLines`, `splitByteLines`.
-/

namespace BuildMonitor.Text

/-- Puts an element in front of a list of pieces: it is a piece of its own if it ends one, and
belongs to the first piece otherwise. -/
def consPiece {α : Type} (isEnd : α → Bool) (element : α) : List (List α) → List (List α)
  | [] => [[element]]
  | piece :: others =>
    if isEnd element then [element] :: piece :: others else (element :: piece) :: others

/-- Cuts a list after each element that passes the test. No piece is empty, and the pieces joined
give the list back. -/
def splitAfter {α : Type} (isEnd : α → Bool) (elements : List α) : List (List α) :=
  elements.foldr (consPiece isEnd) []

/-- The byte that ends a line. -/
def newlineByte : UInt8 := 10

/-- Cuts bytes after each line break. -/
def splitByteLines (bytes : List UInt8) : List (List UInt8) :=
  splitAfter (· == newlineByte) bytes

/-- Cuts a text after each line break. -/
def splitLines (text : String) : List String :=
  (splitAfter (· == '\n') text.toList).map String.ofList

/-- Nothing is cut into no pieces. -/
@[simp] theorem splitAfter_nil {α : Type} (isEnd : α → Bool) : splitAfter isEnd [] = [] := rfl

/-- Cutting goes from the end: an element stands in front of the first piece of the rest. -/
@[simp] theorem splitAfter_cons {α : Type} (isEnd : α → Bool) (element : α) (rest : List α) :
    splitAfter isEnd (element :: rest) = consPiece isEnd element (splitAfter isEnd rest) := rfl

/-- An element put in front is the first of the pieces joined. -/
theorem flatten_consPiece {α : Type} (isEnd : α → Bool) (element : α) (pieces : List (List α)) :
    (consPiece isEnd element pieces).flatten = element :: pieces.flatten := by
  cases pieces with
  | nil => rfl
  | cons piece others =>
    simp only [consPiece]
    split <;> simp

/-- Nothing is lost: the pieces joined are the list. -/
theorem flatten_splitAfter {α : Type} (isEnd : α → Bool) (elements : List α) :
    (splitAfter isEnd elements).flatten = elements := by
  induction elements with
  | nil => rfl
  | cons element rest ih => rw [splitAfter_cons, flatten_consPiece, ih]

end BuildMonitor.Text
