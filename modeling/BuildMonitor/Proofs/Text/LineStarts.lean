import BuildMonitor.Proofs.Log.Window
import BuildMonitor.Proofs.Text.Lines

/-!
# Pieces that start lines

A text that is written piece by piece need not be cut into these pieces when it is read line by
line. A piece may hold several lines, and one that is left unfinished is finished by the next. What
stays true is a matter of counting: a piece *starts a line* if some line of the whole begins in it,
and where each piece does, the last lines lie within as many last pieces:
`flatten_lastOf_splitAfter_suffix`. Where each piece is one line, the lines are the pieces:
`splitAfter_flatten`.

Main definitions: `Closed`, `StartsLine`, `EachStartsLine`.
-/

namespace BuildMonitor.Text

open BuildMonitor.Log

variable {α : Type} {isEnd : α → Bool} {before other piece elements : List α}
  {pieces first second : List (List α)}

/-- No line is left unfinished. -/
def Closed (isEnd : α → Bool) (elements : List α) : Prop :=
  ∀ last, elements.getLast? = some last → isEnd last = true

/-- Where there is nothing, no line is left unfinished. -/
theorem closed_nil : Closed isEnd ([] : List α) := nofun

/-- An element that ends a line leaves none unfinished. -/
theorem closed_concat {last : α} (ends : isEnd last = true) : Closed isEnd (elements ++ [last]) := by
  intro final same
  rw [List.getLast?_concat] at same
  cases same
  exact ends

/-- Only what stands last matters. -/
theorem closed_append_iff (some : elements ≠ []) :
    Closed isEnd (before ++ elements) ↔ Closed isEnd elements := by
  simp [Closed, List.getLast?_append, some]

/-! ## Cutting at the end of a line -/

/-- What stands behind whole lines is cut by itself. -/
theorem splitAfter_append_of_closed (closed : Closed isEnd before) (elements : List α) :
    splitAfter isEnd (before ++ elements) = splitAfter isEnd before ++ splitAfter isEnd elements := by
  obtain ⟨lines, tail, rfl, whole, unbroken⟩ := exists_lines_append isEnd before
  obtain rfl : tail = [] := by
    rcases List.eq_nil_or_concat tail with empty | ⟨body, last, rfl⟩
    · exact empty
    · have member : last ∈ body.concat last := by simp
      have ended : isEnd last = true := closed last (by simp)
      exact absurd ended (unbroken last member)
  rw [List.append_nil, splitAfter_flatten_append whole, ← List.append_nil lines.flatten,
    splitAfter_flatten_append whole, splitAfter_nil, List.append_nil]

/-- Where there is something there is a line. -/
theorem length_splitAfter_pos (isEnd : α → Bool) (some : elements ≠ []) :
    0 < (splitAfter isEnd elements).length := by
  rw [List.length_pos_iff]
  intro none
  have joined := flatten_splitAfter isEnd elements
  rw [none, List.flatten_nil] at joined
  exact some joined.symm

/-- What is added makes no fewer pieces. -/
theorem length_splitAfter_le_append (isEnd : α → Bool) (before elements : List α) :
    (splitAfter isEnd before).length ≤ (splitAfter isEnd (before ++ elements)).length := by
  obtain ⟨lines, tail, rfl, whole, unbroken⟩ := exists_lines_append isEnd before
  rw [splitAfter_lines_tail whole unbroken, List.append_assoc, splitAfter_flatten_append whole]
  simp only [List.length_append]
  split
  · simp
  · next unfinished =>
    have more : tail ++ elements ≠ [] := by simp [unfinished]
    have positive := length_splitAfter_pos isEnd more
    simp only [List.length_singleton]
    omega

/-! ## Starting a line -/

/-- A line begins in the piece: no line was left unfinished, or the piece finishes it first and goes
on. -/
def StartsLine (isEnd : α → Bool) (before piece : List α) : Prop :=
  Closed isEnd before ∧ piece ≠ [] ∨
    ∃ mark rest, piece = mark :: rest ∧ isEnd mark = true ∧ rest ≠ []

/-- A line begins in each of the pieces, the first of which stands behind the given elements. -/
def EachStartsLine (isEnd : α → Bool) (before : List α) : List (List α) → Prop
  | [] => True
  | piece :: rest => StartsLine isEnd before piece ∧ EachStartsLine isEnd (before ++ piece) rest

/-- A piece in which a line begins is not empty. -/
theorem StartsLine.ne_nil (starts : StartsLine isEnd before piece) : piece ≠ [] := by
  rcases starts with ⟨-, some⟩ | ⟨mark, rest, rfl, -, -⟩
  · exact some
  · simp

/-- A line begins in each of the pieces if it does in each of the first, and of the others behind
them. -/
theorem eachStartsLine_append : EachStartsLine isEnd before (first ++ second) ↔
    EachStartsLine isEnd before first ∧ EachStartsLine isEnd (before ++ first.flatten) second := by
  induction first generalizing before with
  | nil => simp [EachStartsLine]
  | cons piece rest inductionHypothesis =>
    simp only [List.cons_append, EachStartsLine, inductionHypothesis, List.flatten_cons,
      List.append_assoc, and_assoc]

/-- What stands in front of the pieces matters only in whether it is closed. -/
theorem EachStartsLine.of_closed (each : EachStartsLine isEnd before pieces)
    (closed : Closed isEnd before → Closed isEnd other) : EachStartsLine isEnd other pieces := by
  induction pieces generalizing before other with
  | nil => trivial
  | cons piece rest inductionHypothesis =>
    obtain ⟨starts, later⟩ := each
    have some := starts.ne_nil
    refine ⟨starts.imp_left (And.imp_left closed), inductionHypothesis later ?_⟩
    rw [closed_append_iff some, closed_append_iff some]
    exact id

/-- Pieces in which lines begin are not empty. -/
theorem EachStartsLine.ne_nil (each : EachStartsLine isEnd before pieces) :
    ∀ piece ∈ pieces, piece ≠ [] := by
  induction pieces generalizing before with
  | nil => simp
  | cons piece rest inductionHypothesis =>
    rintro member (_ | ⟨_, inside⟩)
    · exact each.1.ne_nil
    · exact inductionHypothesis each.2 member inside

/-- A piece in which a line begins makes for more lines. -/
theorem StartsLine.length_splitAfter (starts : StartsLine isEnd before piece) :
    (splitAfter isEnd before).length < (splitAfter isEnd (before ++ piece)).length := by
  rcases starts with ⟨closed, some⟩ | ⟨mark, rest, rfl, ends, some⟩
  · have positive := length_splitAfter_pos isEnd some
    rw [splitAfter_append_of_closed closed, List.length_append]
    omega
  · have positive := length_splitAfter_pos isEnd some
    have finished := length_splitAfter_le_append isEnd before [mark]
    rw [← List.singleton_append, ← List.append_assoc, splitAfter_append_of_closed (closed_concat ends),
      List.length_append]
    omega

/-- There is a line for each piece. -/
theorem EachStartsLine.length_splitAfter (each : EachStartsLine isEnd before pieces) :
    (splitAfter isEnd before).length + pieces.length ≤
      (splitAfter isEnd (before ++ pieces.flatten)).length := by
  induction pieces generalizing before with
  | nil => simp
  | cons piece rest inductionHypothesis =>
    have step := each.1.length_splitAfter
    have later := inductionHypothesis each.2
    rw [List.flatten_cons, ← List.append_assoc, List.length_cons]
    omega

/-- Pieces that leave no line unfinished start lines where none was, and leave none. -/
theorem eachStartsLine_of_closed (closed : Closed isEnd before)
    (whole : ∀ piece ∈ pieces, piece ≠ [] ∧ Closed isEnd piece) :
    EachStartsLine isEnd before pieces ∧ Closed isEnd (before ++ pieces.flatten) := by
  induction pieces generalizing before with
  | nil =>
    rw [List.flatten_nil, List.append_nil]
    exact ⟨trivial, closed⟩
  | cons piece rest inductionHypothesis =>
    obtain ⟨some, ended⟩ := whole piece List.mem_cons_self
    have still : Closed isEnd (before ++ piece) := (closed_append_iff some).mpr ended
    obtain ⟨later, final⟩ := inductionHypothesis still fun other member =>
      whole other (List.mem_cons_of_mem _ member)
    rw [List.flatten_cons, ← List.append_assoc]
    exact ⟨⟨Or.inl ⟨closed, some⟩, later⟩, final⟩

/-! ## The last lines and the last pieces -/

/-- Behind anything, the pieces hold whole lines of their own, one for each of them at least. -/
theorem EachStartsLine.exists_suffix (each : EachStartsLine isEnd before pieces) :
    ∃ lines, lines <:+ splitAfter isEnd (before ++ pieces.flatten) ∧
      pieces.length ≤ lines.length ∧ lines.flatten <:+ pieces.flatten := by
  cases pieces with
  | nil => exact ⟨[], List.nil_suffix, Nat.le_refl _, List.nil_suffix⟩
  | cons piece rest =>
    rcases each.1 with ⟨closed, some⟩ | ⟨mark, behind, rfl, ends, some⟩
    · have alone : EachStartsLine isEnd [] (piece :: rest) := each.of_closed fun _ => closed_nil
      refine ⟨splitAfter isEnd (piece :: rest).flatten, ?_, ?_, ?_⟩
      · rw [splitAfter_append_of_closed closed]
        exact List.suffix_append _ _
      · simpa using alone.length_splitAfter
      · have whole := flatten_splitAfter isEnd (piece :: rest).flatten
        exact ⟨[], whole⟩
    · -- The mark belongs to the line that was left unfinished, so the lines begin behind it.
      have later : EachStartsLine isEnd behind rest := by
        refine each.2.of_closed fun closed => ?_
        rwa [List.append_cons, closed_append_iff some] at closed
      refine ⟨splitAfter isEnd (behind ++ rest.flatten), ?_, ?_, ?_⟩
      · rw [List.flatten_cons, List.cons_append, List.append_cons,
          splitAfter_append_of_closed (closed_concat ends)]
        exact List.suffix_append _ _
      · have counted := later.length_splitAfter
        have positive := length_splitAfter_pos isEnd some
        rw [List.length_cons]
        omega
      · rw [flatten_splitAfter, List.flatten_cons, List.cons_append]
        exact List.suffix_cons _ _

/-- The last lines lie within as many last pieces. -/
theorem flatten_lastOf_splitAfter_suffix (each : EachStartsLine isEnd [] pieces) (count : Nat) :
    (lastOf count (splitAfter isEnd pieces.flatten)).flatten <:+ (lastOf count pieces).flatten := by
  by_cases short : pieces.length ≤ count
  · rw [lastOf_of_length_le short]
    conv => rhs; rw [← flatten_splitAfter isEnd pieces.flatten]
    obtain ⟨dropped, split⟩ := lastOf_suffix count (splitAfter isEnd pieces.flatten)
    conv => rhs; rw [← split]
    rw [List.flatten_append]
    exact List.suffix_append _ _
  · obtain ⟨earlier, split⟩ := lastOf_suffix count pieces
    have parted : EachStartsLine isEnd earlier.flatten (lastOf count pieces) := by
      rw [← split, eachStartsLine_append] at each
      exact each.2
    obtain ⟨lines, tail, enough, within⟩ := parted.exists_suffix
    rw [← List.flatten_append, split] at tail
    have fewer : (lastOf count (splitAfter isEnd pieces.flatten)).length ≤ lines.length := by
      rw [length_lastOf] at enough ⊢
      omega
    obtain ⟨surplus, rest⟩ := List.suffix_of_suffix_length_le (lastOf_suffix _ _) tail fewer
    refine List.IsSuffix.trans ?_ within
    rw [← rest, List.flatten_append]
    exact List.suffix_append _ _

/-! ## Pieces that are lines -/

/-- An element that ends a line may stand at the end of a piece and nowhere else. -/
theorem splitAfter_of_unbroken_dropLast (unbroken : Unbroken isEnd elements.dropLast)
    (some : elements ≠ []) : splitAfter isEnd elements = [elements] := by
  rcases List.eq_nil_or_concat elements with empty | ⟨body, last, rfl⟩
  · exact absurd empty some
  · rw [List.concat_eq_append] at unbroken some ⊢
    rw [List.dropLast_concat] at unbroken
    by_cases ends : isEnd last
    · have line : IsLine isEnd (body ++ [last]) := ⟨body, last, rfl, unbroken, ends⟩
      rw [← List.append_nil (body ++ [last]), splitAfter_append_of_isLine line, splitAfter_nil,
        List.append_nil]
    · refine splitAfter_of_unbroken ?_ some
      intro element member
      rcases List.mem_append.mp member with inside | final
      · exact unbroken element inside
      · rwa [List.mem_singleton.mp final]

/-- Pieces that are whole lines, save that the last may be left unfinished, are the lines of what
they make up. -/
theorem splitAfter_flatten (some : ∀ piece ∈ pieces, piece ≠ [])
    (unbroken : ∀ piece ∈ pieces, Unbroken isEnd piece.dropLast)
    (finished : ∀ piece ∈ pieces.dropLast, Closed isEnd piece) :
    splitAfter isEnd pieces.flatten = pieces := by
  induction pieces with
  | nil => rfl
  | cons piece rest inductionHypothesis =>
    have alone := splitAfter_of_unbroken_dropLast (unbroken piece List.mem_cons_self)
      (some piece List.mem_cons_self)
    cases rest with
    | nil => simpa using alone
    | cons next others =>
      have closed : Closed isEnd piece := finished piece List.mem_cons_self
      rw [List.flatten_cons, splitAfter_append_of_closed closed, alone,
        inductionHypothesis (fun other member => some other (List.mem_cons_of_mem _ member))
          (fun other member => unbroken other (List.mem_cons_of_mem _ member))
          (fun other member => finished other (List.mem_cons_of_mem _ member)),
        List.singleton_append]

end BuildMonitor.Text
