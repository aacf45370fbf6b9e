import BuildMonitor.Text.Lines

/-!
# Lines from a pipe

The output of a script arrives in chunks that end anywhere, also in the middle of a character. A
line feed holds back the bytes after the last line break and gives out whole lines, so the lines
depend on the bytes alone and not on the chunks.

Main definitions: `LineFeed`, `LineFeed.push`, `LineFeed.finish`.
-/

namespace BuildMonitor.Log

open BuildMonitor.Text

/-- The bytes that have arrived since the last line break. -/
structure LineFeed where
  held : List UInt8
  deriving DecidableEq, Repr

namespace LineFeed

/-- Nothing has arrived. -/
def start : LineFeed := ⟨[]⟩

/-- Whether a piece ends with a line break. -/
def isComplete (piece : List UInt8) : Bool := piece.getLast? == some newlineByte

/-- Takes a chunk and gives out the lines that are complete. -/
def push (feed : LineFeed) (chunk : List UInt8) : List (List UInt8) × LineFeed :=
  let pieces := splitByteLines (feed.held ++ chunk)
  match pieces.getLast? with
  | none => ([], feed)
  | some last => if isComplete last then (pieces, ⟨[]⟩) else (pieces.dropLast, ⟨last⟩)

/-- Ends the output: what is held is the last line, if there is any. -/
def finish (feed : LineFeed) : List (List UInt8) :=
  if feed.held.isEmpty then [] else [feed.held]

end LineFeed

/-- The entry that a line of output becomes. -/
def entryOfLine (line : List UInt8) : String := Utf8.decodeLossy line

end BuildMonitor.Log
