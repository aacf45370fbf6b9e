import BuildMonitor.Proofs.Text.Decoding
import BuildMonitor.Text.Lines

/-!
# Cutting into lines

A list is whole lines and an unfinished tail, in one way. `splitAfter` gives the lines and then the
tail if there is one, so a cut behind a whole line can be made first or last:
`splitAfter_flatten_append`. With the reading of `Proofs.Text.Decoding` it follows that bytes may be
cut and then read or read and then cut: `splitLines_decodeLossy`.
-/

namespace BuildMonitor.Text

section Pieces

variable {α : Type} {isEnd : α → Bool}

/-- No element of the list ends a line. -/
def Unbroken (isEnd : α → Bool) (elements : List α) : Prop := ∀ element ∈ elements, ¬ isEnd element

/-- A whole line: one element that ends it, at its end. -/
def IsLine (isEnd : α → Bool) (piece : List α) : Prop :=
  ∃ body last, piece = body ++ [last] ∧ Unbroken isEnd body ∧ isEnd last

/-- A line is not empty, as it has an element that ends it. -/
theorem IsLine.ne_nil {piece : List α} (line : IsLine isEnd piece) : piece ≠ [] := by
  obtain ⟨body, last, rfl, _, _⟩ := line
  simp

/-- A whole line in front is a piece by itself. -/
theorem splitAfter_append_of_isLine {piece : List α} (line : IsLine isEnd piece)
    (rest : List α) : splitAfter isEnd (piece ++ rest) = piece :: splitAfter isEnd rest := by
  obtain ⟨body, last, rfl, unbroken, ends⟩ := line
  induction body with
  | nil =>
    simp only [List.nil_append, List.singleton_append, splitAfter_cons]
    cases splitAfter isEnd rest <;> simp [consPiece, ends]
  | cons element body inductionHypothesis =>
    have plain : ¬ isEnd element := unbroken element List.mem_cons_self
    have rest := inductionHypothesis fun other member =>
      unbroken other (List.mem_cons_of_mem _ member)
    simp only [List.cons_append, splitAfter_cons, rest, consPiece, if_neg plain]

/-- Whole lines in front are the first pieces. -/
theorem splitAfter_flatten_append {lines : List (List α)}
    (whole : ∀ line ∈ lines, IsLine isEnd line) (rest : List α) :
    splitAfter isEnd (lines.flatten ++ rest) = lines ++ splitAfter isEnd rest := by
  induction lines with
  | nil => rfl
  | cons line others inductionHypothesis =>
    rw [List.flatten_cons, List.append_assoc,
      splitAfter_append_of_isLine (whole line List.mem_cons_self),
      inductionHypothesis fun other member => whole other (List.mem_cons_of_mem _ member)]
    rfl

/-- What no element ends is one piece. -/
theorem splitAfter_of_unbroken {elements : List α} (unbroken : Unbroken isEnd elements)
    (some : elements ≠ []) : splitAfter isEnd elements = [elements] := by
  induction elements with
  | nil => exact absurd rfl some
  | cons element rest inductionHypothesis =>
    have plain : ¬ isEnd element := unbroken element List.mem_cons_self
    cases rest with
    | nil => rfl
    | cons next others =>
      rw [splitAfter_cons, inductionHypothesis
        (fun other member => unbroken other (List.mem_cons_of_mem _ member)) (by simp)]
      simp only [consPiece, if_neg plain]

/-- Every list is whole lines and a tail without an end. -/
theorem exists_lines_append (isEnd : α → Bool) (elements : List α) :
    ∃ (lines : List (List α)) (tail : List α), elements = lines.flatten ++ tail ∧
      (∀ line ∈ lines, IsLine isEnd line) ∧ Unbroken isEnd tail := by
  induction elements with
  | nil => exact ⟨[], [], rfl, by simp, by simp [Unbroken]⟩
  | cons element rest inductionHypothesis =>
    obtain ⟨lines, tail, rfl, whole, unbroken⟩ := inductionHypothesis
    by_cases ends : isEnd element
    · have alone : IsLine isEnd [element] := ⟨[], element, rfl, by simp [Unbroken], ends⟩
      refine ⟨[element] :: lines, tail, rfl, ?_, unbroken⟩
      rintro line (_ | ⟨_, member⟩)
      · exact alone
      · exact whole line member
    · cases lines with
      | nil =>
        refine ⟨[], element :: tail, rfl, by simp, ?_⟩
        rintro other (_ | ⟨_, member⟩)
        · exact ends
        · exact unbroken other member
      | cons first others =>
        refine ⟨(element :: first) :: others, tail, rfl, ?_, unbroken⟩
        rintro line (_ | ⟨_, member⟩)
        · obtain ⟨body, last, rfl, plain, ended⟩ := whole first List.mem_cons_self
          refine ⟨element :: body, last, rfl, ?_, ended⟩
          rintro other (_ | ⟨_, inside⟩)
          · exact ends
          · exact plain other inside
        · exact whole line (List.mem_cons_of_mem _ member)

/-- The pieces of whole lines and a tail. -/
theorem splitAfter_lines_tail {lines : List (List α)} {tail : List α}
    (whole : ∀ line ∈ lines, IsLine isEnd line) (unbroken : Unbroken isEnd tail) :
    splitAfter isEnd (lines.flatten ++ tail) = lines ++ if tail = [] then [] else [tail] := by
  rw [splitAfter_flatten_append whole]
  split
  · next empty => rw [empty, splitAfter_nil]
  · next some => rw [splitAfter_of_unbroken unbroken some]

/-- No piece is empty. -/
theorem ne_nil_of_mem_splitAfter {elements piece : List α}
    (member : piece ∈ splitAfter isEnd elements) : piece ≠ [] := by
  obtain ⟨lines, tail, rfl, whole, unbroken⟩ := exists_lines_append isEnd elements
  rw [splitAfter_lines_tail whole unbroken, List.mem_append] at member
  rcases member with line | rest
  · exact (whole piece line).ne_nil
  · split at rest
    · cases rest
    · next some => simpa [List.mem_singleton.mp rest] using some

/-- Every piece but the last is a whole line. -/
theorem isLine_of_mem_dropLast_splitAfter {elements piece : List α}
    (member : piece ∈ (splitAfter isEnd elements).dropLast) : IsLine isEnd piece := by
  obtain ⟨lines, tail, rfl, whole, unbroken⟩ := exists_lines_append isEnd elements
  rw [splitAfter_lines_tail whole unbroken] at member
  split at member
  · rw [List.append_nil] at member
    exact whole piece (List.dropLast_subset _ member)
  · rw [List.dropLast_concat] at member
    exact whole piece member

end Pieces

/-! ## Lines of bytes and lines of text -/

open Utf8

/-- A whole line of bytes is read as a whole line of text, whatever stands behind it. -/
theorem isLine_decodeLossy {line : List UInt8} (whole : IsLine (· == newlineByte) line) :
    IsLine (· == '\n') (decodeLossy line).toList ∧
      ∀ rest, (decodeLossy (line ++ rest)).toList =
        (decodeLossy line).toList ++ (decodeLossy rest).toList := by
  obtain ⟨body, last, rfl, unbroken, ends⟩ := whole
  obtain rfl : last = newlineByte := by simpa using ends
  have plain : (10 : UInt8) ∉ body := fun member => unbroken 10 member rfl
  have read :
      (decodeLossy (body ++ [newlineByte])).toList = (decodeLossy body).toList ++ ['\n'] := by
    simpa [newlineByte] using toList_decodeLossy_append_newline body []
  constructor
  · refine ⟨(decodeLossy body).toList, '\n', read, ?_, rfl⟩
    intro character member isEnd
    obtain rfl : character = '\n' := by simpa using isEnd
    exact newline_not_mem_decodeLossy plain member
  · intro rest
    rw [read, List.append_assoc, List.append_assoc]
    exact toList_decodeLossy_append_newline body rest

/-- Whole lines are read one by one. -/
theorem toList_decodeLossy_flatten_append {lines : List (List UInt8)}
    (whole : ∀ line ∈ lines, IsLine (· == newlineByte) line) (rest : List UInt8) :
    (decodeLossy (lines.flatten ++ rest)).toList =
      (lines.map fun line => (decodeLossy line).toList).flatten ++ (decodeLossy rest).toList := by
  induction lines with
  | nil => rfl
  | cons line others inductionHypothesis =>
    have first := (isLine_decodeLossy (whole line List.mem_cons_self)).2
    rw [List.flatten_cons, List.append_assoc, first,
      inductionHypothesis fun other member => whole other (List.mem_cons_of_mem _ member)]
    simp

/-- Bytes cut into lines and read line by line give the lines of the text that they read as. -/
theorem splitLines_decodeLossy (bytes : List UInt8) :
    splitLines (decodeLossy bytes) = (splitByteLines bytes).map decodeLossy := by
  obtain ⟨lines, tail, rfl, whole, unbroken⟩ := exists_lines_append (· == newlineByte) bytes
  have wholeText : ∀ line ∈ lines.map fun line => (decodeLossy line).toList,
      IsLine (· == '\n') line := by
    intro line member
    obtain ⟨source, inside, rfl⟩ := List.mem_map.mp member
    exact (isLine_decodeLossy (whole source inside)).1
  have unbrokenText : Unbroken (· == '\n') (decodeLossy tail).toList := by
    intro character member isEnd
    obtain rfl : character = '\n' := by simpa using isEnd
    exact newline_not_mem_decodeLossy (fun inside => unbroken 10 inside rfl) member
  rw [splitLines, splitByteLines, toList_decodeLossy_flatten_append whole,
    splitAfter_lines_tail wholeText unbrokenText, splitAfter_lines_tail whole unbroken]
  by_cases empty : tail = []
  · simp [empty, Function.comp_def, String.ofList_toList]
  · simp [empty, decodeLossy_eq_empty_iff, Function.comp_def, String.ofList_toList]

/-- The lines of a text joined are the text. -/
theorem join_splitLines (text : String) : String.join (splitLines text) = text := by
  have flat : ((splitLines text).map String.toList).flatten = text.toList := by
    simp [splitLines, Function.comp_def, flatten_splitAfter]
  rw [← String.toList_inj, String.toList_join]
  simpa [List.flatMap_def] using flat

/-- No line is empty. -/
theorem ne_empty_of_mem_splitLines {text line : String} (member : line ∈ splitLines text) :
    line ≠ "" := by
  obtain ⟨piece, inside, rfl⟩ := List.mem_map.mp member
  simpa using ne_nil_of_mem_splitAfter inside

/-- Every line but the last ends with a line break and holds no other. -/
theorem exists_body_of_mem_dropLast_splitLines {text line : String}
    (member : line ∈ (splitLines text).dropLast) :
    ∃ body : String, line = body ++ "\n" ∧ '\n' ∉ body.toList := by
  rw [splitLines, ← List.map_dropLast] at member
  obtain ⟨piece, inside, rfl⟩ := List.mem_map.mp member
  obtain ⟨body, last, rfl, unbroken, ends⟩ := isLine_of_mem_dropLast_splitAfter inside
  obtain rfl : last = '\n' := by simpa using ends
  refine ⟨String.ofList body, by simp, ?_⟩
  intro broken
  exact unbroken '\n' (by simpa using broken) rfl

end BuildMonitor.Text
