import BuildMonitor.Proofs.Build.Step
import BuildMonitor.Proofs.Log.LineFeed

/-!
# Forwarding the output of a script

While its script prints, a task adds to the log the lines that each chunk completes, and when the
output ends the line that is left. The entries added over a whole output are the lines of the text
that the output reads as, just as the durable copy is cut into lines when it is read back. They are
settled by the bytes and not by the chunks: `forwarded_lines`.
-/

namespace BuildMonitor.Build

open BuildMonitor.Log BuildMonitor.Text

variable {feed : LineFeed} {bytes : List UInt8} {lines : List (List UInt8)}

/-- Any number of chunks: only the bytes they make up matter. -/
theorem goes_output (command : Command) (delivered : feed.Delivered bytes lines)
    (chunks : List (List UInt8)) :
    ∃ (next : LineFeed) (more : List (List UInt8)),
      next.Delivered (bytes ++ chunks.flatten) (lines ++ more) ∧
      Task.Goes ⟨command, .streaming feed⟩ (chunks.map .output) ⟨command, .streaming next⟩
        more := by
  induction chunks generalizing feed bytes lines with
  | nil => exact ⟨feed, [], by simpa using delivered, .stay⟩
  | cons chunk rest inductionHypothesis =>
    obtain ⟨next, later, deliveredLater, goes⟩ := inductionHypothesis (delivered.push chunk)
    refine ⟨next, (feed.push chunk).1 ++ later, ?_, .step rfl goes⟩
    simpa [List.append_assoc] using deliveredLater

/-- A whole output: all its lines are forwarded. -/
theorem goes_output_ended (command : Command) (chunks : List (List UInt8)) :
    Task.Goes ⟨command, .streaming .start⟩ (chunks.map .output ++ [.outputEnded])
      ⟨command, .waiting none⟩ (splitByteLines chunks.flatten) := by
  obtain ⟨next, lines, delivered, goes⟩ :=
    goes_output command LineFeed.start_delivered chunks
  rw [List.nil_append, List.nil_append] at delivered
  rw [delivered.splitByteLines_eq]
  exact goes.trans (.one rfl)

/-- An output that breaks off: the lines that were whole by then are forwarded. -/
theorem goes_output_failed (command : Command) (chunks : List (List UInt8)) (cause : Host.IoError) :
    Task.Goes ⟨command, .streaming .start⟩ (chunks.map .output ++ [.outputFailed cause])
      ⟨command, .waiting (some (.streamFailure cause.message))⟩ (wholeLines chunks.flatten) := by
  obtain ⟨next, lines, delivered, goes⟩ :=
    goes_output command LineFeed.start_delivered chunks
  rw [List.nil_append, List.nil_append] at delivered
  rw [delivered.wholeLines_eq, ← List.append_nil lines]
  exact goes.trans (.one rfl)

/-- The entries that a script's output becomes, whatever its bytes are and in whatever chunks they
come: the lines of the text they read as. Reading the bytes back from the durable copy gives the
same lines. None is empty, all but the last end with their only line break, and joined they are the
text; nothing is lost of an output that is UTF-8. -/
theorem forwarded_lines (command : Command) (sink : LogSink) (host : Host)
    (chunks : List (List UInt8)) :
    let bytes := chunks.flatten
    let entries := splitLines (Utf8.decodeLossy bytes)
    Task.follow ⟨command, .streaming .start⟩ sink host (chunks.map .output ++ [.outputEnded]) =
        (⟨command, .waiting none⟩, sink.appendAll host entries) ∧
      (splitByteLines bytes).map Utf8.decodeLossy = entries ∧
      (∀ (other : Host) (content : Host.Blob) (count : Nat), other.read sink.path = .ok content →
        content.toList = bytes → sink.tailOfCopy other count = lastOf count entries) ∧
      (∀ entry ∈ entries, entry ≠ "") ∧
      (∀ entry ∈ entries.dropLast,
        ∃ body : String, entry = body ++ "\n" ∧ '\n' ∉ body.toList) ∧
      String.join entries = Utf8.decodeLossy bytes ∧
      ∀ text : String, Utf8.encode text = bytes → Utf8.encode (String.join entries) = bytes := by
  intro bytes entries
  have same : entries = (splitByteLines bytes).map entryOfLine := splitLines_decodeLossy bytes
  refine ⟨?_, same.symm, ?_, fun _ => ne_empty_of_mem_splitLines,
    fun _ => exists_body_of_mem_dropLast_splitLines, join_splitLines _, ?_⟩
  · rw [same]
    exact (goes_output_ended command chunks).follow_eq sink host
  · intro other content count read holds
    rw [LogSink.tailOfCopy, read]
    simp only [holds]
    rfl
  · intro text encoded
    rw [join_splitLines, ← encoded, Utf8.decodeLossy_encode]

end BuildMonitor.Build
