import BuildMonitor.Log.LineFeed
import BuildMonitor.Proofs.Text.Lines

/-!
# Lines do not depend on the chunks

A line feed that has taken some bytes has given out their whole lines and holds what is left. This
is all there is to know of it, and it names the bytes only, not the chunks that they came in:
`LineFeed.Delivered`. A chunk more keeps it so, and at the end what was given out are the pieces that
`splitByteLines` cuts the bytes into.
-/

namespace BuildMonitor.Log

open BuildMonitor.Text

/-- The lines that end with a line break. -/
def wholeLines (bytes : List UInt8) : List (List UInt8) :=
  (splitByteLines bytes).filter LineFeed.isComplete

namespace LineFeed

/-- The feed has taken the bytes and given out the lines. -/
structure Delivered (feed : LineFeed) (bytes : List UInt8) (lines : List (List UInt8)) : Prop where
  joined : bytes = lines.flatten ++ feed.held
  whole : ∀ line ∈ lines, IsLine (· == newlineByte) line
  unbroken : Unbroken (· == newlineByte) feed.held

variable {feed : LineFeed} {bytes chunk : List UInt8} {lines : List (List UInt8)}

/-- A line ends with its line break. -/
theorem isComplete_of_isLine {piece : List UInt8} (line : IsLine (· == newlineByte) piece) :
    isComplete piece = true := by
  obtain ⟨body, last, rfl, -, ends⟩ := line
  obtain rfl : last = newlineByte := by simpa using ends
  simp [isComplete]

/-- What has no line break is no whole line. -/
theorem not_isComplete_of_unbroken {piece : List UInt8}
    (unbroken : Unbroken (· == newlineByte) piece) : isComplete piece = false := by
  rw [isComplete, beq_eq_false_iff_ne]
  intro ends
  exact unbroken newlineByte (List.mem_of_getLast? ends) (by simp)

/-- A feed that is new has taken nothing and given nothing out. -/
theorem start_delivered : start.Delivered [] [] := ⟨rfl, by simp, by simp [Unbroken, start]⟩

/-- A chunk gives out the lines that it completes. -/
theorem Delivered.push (delivered : feed.Delivered bytes lines) (chunk : List UInt8) :
    (feed.push chunk).2.Delivered (bytes ++ chunk) (lines ++ (feed.push chunk).1) := by
  obtain ⟨more, tail, joined, whole, unbroken⟩ :=
    exists_lines_append (· == newlineByte) (feed.held ++ chunk)
  have pushed : feed.push chunk = (more, ⟨tail⟩) := by
    simp only [LineFeed.push, splitByteLines, joined, splitAfter_lines_tail whole unbroken]
    by_cases empty : tail = []
    · subst empty
      rw [if_pos rfl, List.append_nil]
      rcases List.eq_nil_or_concat more with rfl | ⟨before, last, rfl⟩
      · obtain rfl : feed = ⟨[]⟩ := by
          have nothing : feed.held = [] := by simpa using (List.append_eq_nil_iff.mp joined).1
          rw [← nothing]
        rfl
      · have complete := isComplete_of_isLine (whole last (by simp))
        simp [complete]
    · have incomplete := not_isComplete_of_unbroken unbroken
      simp [empty, incomplete]
  rw [pushed]
  refine ⟨?_, ?_, unbroken⟩
  · rw [delivered.joined, List.append_assoc, joined, List.flatten_append, List.append_assoc]
  · intro line member
    rcases List.mem_append.mp member with old | new
    · exact delivered.whole line old
    · exact whole line new

/-- At the end all pieces have been given out. -/
theorem Delivered.splitByteLines_eq (delivered : feed.Delivered bytes lines) :
    splitByteLines bytes = lines ++ feed.finish := by
  rw [splitByteLines, delivered.joined, splitAfter_lines_tail delivered.whole delivered.unbroken,
    finish]
  simp

/-- Before the end the whole lines have been given out. -/
theorem Delivered.wholeLines_eq (delivered : feed.Delivered bytes lines) :
    wholeLines bytes = lines := by
  have incomplete := not_isComplete_of_unbroken delivered.unbroken
  rw [wholeLines, delivered.splitByteLines_eq, List.filter_append, List.filter_eq_self.mpr
    fun line member => isComplete_of_isLine (delivered.whole line member), finish]
  split <;> simp [incomplete]

end LineFeed

end BuildMonitor.Log
