import BuildMonitor.Yaml.Cursor
import BuildMonitor.Json.Token

/-!
# The text of YAML scalars

A scalar is written plainly, between single or double quotes, or as an indented block. In the first
three forms a line break inside the scalar reads as a space, and empty lines as line breaks. A block
keeps its line breaks or folds them, as its header says.

Each reader takes a cursor at the start of a scalar and gives the text with the cursor behind it, or
nothing if the scalar is broken.

Main definitions: `readPlain?`, `readQuoted?`, `readBlock?`.
-/

namespace BuildMonitor.Yaml

/-- White space inside a scalar that is being read. What it reads as is known once the next word
comes. -/
structure Gap where
  /-- Blanks on the line. -/
  blanks : List Char
  /-- Whether a line has ended since the last word. -/
  broken : Bool
  /-- The end of that line. -/
  firstBreak : List Char
  /-- The ends of the empty lines after it. -/
  emptyLines : List Char
  deriving Repr

namespace Gap

/-- No white space. -/
def none : Gap := ⟨[], false, [], []⟩

/-- What the white space reads as between two words. -/
def fold (gap : Gap) : List Char :=
  if gap.broken then
    match gap.firstBreak with
    | '\n' :: _ => if gap.emptyLines.isEmpty then [' '] else gap.emptyLines
    | other => other ++ gap.emptyLines
  else gap.blanks

/-- Takes a blank. At the start of a line it is indentation. -/
def addBlank (gap : Gap) (blank : Char) : Gap :=
  if gap.broken then gap else { gap with blanks := gap.blanks ++ [blank] }

/-- Takes the end of a line. -/
def addBreak (gap : Gap) (ending : List Char) : Gap :=
  if gap.broken then { gap with emptyLines := gap.emptyLines ++ ending }
  else { gap with blanks := [], broken := true, firstBreak := ending }

end Gap

/-- Reads white space; `fuel` bounds its length. A tab that stands for indentation less than
`indent` is refused. -/
def readGap? (indent : Nat) : Nat → Gap → Cursor → Option (Gap × Cursor)
  | 0, gap, cursor => some (gap, cursor)
  | fuel + 1, gap, cursor =>
    match cursor.peek? 0 with
    | some character =>
      if isSpaceOrTab character then
        if gap.broken && cursor.column < indent && character == '\t' then Option.none
        else readGap? indent fuel (gap.addBlank character) cursor.skip
      else if isBreak character then
        let ending := cursor.takeBreak
        readGap? indent fuel (gap.addBreak ending.1) ending.2
      else some (gap, cursor)
    | Option.none => some (gap, cursor)

/-! ## Plain scalars -/

/-- The characters that end a plain scalar between brackets. -/
def isFlowMark (character : Char) : Bool :=
  character = ',' || character = '[' || character = ']' || character = '\x7b' || character = '\x7d'

/-- Whether a plain scalar ends at the character here, which is no white space. -/
def endsPlain (inFlow : Bool) (cursor : Cursor) : Bool :=
  (cursor.sees 0 ':' && cursor.seesBlankOrEnd 1) || (inFlow && cursor.seesWhere 0 isFlowMark)

/-- Whether a colon stands where it is neither part of a plain scalar nor behind a key. -/
def misplacedColon (inFlow : Bool) (cursor : Cursor) : Bool :=
  inFlow && cursor.sees 0 ':' && cursor.seesWhere 1 fun next => isFlowMark next || next = '?'

/-- Reads a word of a plain scalar, latest character first; `fuel` bounds its length. -/
def readWord? (inFlow : Bool) : Nat → List Char → Cursor → Option (List Char × Cursor)
  | 0, word, cursor => some (word, cursor)
  | fuel + 1, word, cursor =>
    if cursor.seesBlankOrEnd 0 then some (word, cursor)
    else if misplacedColon inFlow cursor then Option.none
    else if endsPlain inFlow cursor then some (word, cursor)
    else
      match cursor.peek? 0 with
      | some character => readWord? inFlow fuel (character :: word) cursor.skip
      | Option.none => some (word, cursor)

/-- What a reader of a scalar gives: the text, the cursor behind it, and whether the last thing read
was the end of a line. -/
structure ScalarReading where
  text : List Char
  cursor : Cursor
  endsLine : Bool

/-- Reads the words of a plain scalar; `fuel` bounds their number. -/
def readWords? (inFlow : Bool) (indent : Nat) :
    Nat → (reversed : List Char) → Gap → Cursor → Option ScalarReading
  | 0, reversed, gap, cursor => some ⟨reversed.reverse, cursor, gap.broken⟩
  | fuel + 1, reversed, gap, cursor =>
    if cursor.seesDocumentMarks || cursor.sees 0 '#' then
      some ⟨reversed.reverse, cursor, gap.broken⟩
    else
      match readWord? inFlow cursor.rest.length [] cursor with
      | Option.none => Option.none
      | some (word, afterWord) =>
        let grown :=
          if word.isEmpty then (reversed, gap) else (word ++ gap.fold.reverse ++ reversed, Gap.none)
        if !afterWord.seesBlankOrEnd 0 || afterWord.atEnd then
          some ⟨grown.1.reverse, afterWord, grown.2.broken⟩
        else
          match readGap? indent afterWord.rest.length grown.2 afterWord with
          | Option.none => Option.none
          | some (gap, afterGap) =>
            if !inFlow && afterGap.column < indent then
              some ⟨grown.1.reverse, afterGap, gap.broken⟩
            else readWords? inFlow indent fuel grown.1 gap afterGap

/-- Reads a plain scalar. Its further lines are indented by `indent` columns at least. -/
def readPlain? (inFlow : Bool) (indent : Nat) (cursor : Cursor) : Option ScalarReading :=
  readWords? inFlow indent (cursor.rest.length + 1) [] Gap.none cursor

/-! ## Quoted scalars -/

/-- The value of hexadecimal digits. -/
def hexNumber? (digits : List Char) : Option Nat :=
  digits.foldlM (fun value digit => (Json.hexValue? digit).map (value * 16 + ·)) 0

/-- The character that an escape with a number of digits stands for. -/
def numberedEscape? (count : Nat) (cursor : Cursor) : Option (Char × Cursor) := do
  let digits := cursor.rest.take count
  if digits.length < count then Option.none
  else
    let code ← hexNumber? digits
    if (0xD800 ≤ code && code ≤ 0xDFFF) || 0x10FFFF < code then Option.none
    else return (Char.ofNat code, cursor.skipMany count)

/-- The character that an escape letter stands for. -/
def escapeLetter? : Char → Option Char
  | '0' => some '\x00'
  | 'a' => some '\x07'
  | 'b' => some '\x08'
  | 't' => some '\t'
  | '\t' => some '\t'
  | 'n' => some '\n'
  | 'v' => some '\x0b'
  | 'f' => some '\x0c'
  | 'r' => some '\r'
  | 'e' => some '\x1b'
  | ' ' => some ' '
  | '"' => some '"'
  | '/' => some '/'
  | '\\' => some '\\'
  | 'N' => some '\u0085'
  | '_' => some '\u00a0'
  | 'L' => some '\u2028'
  | 'P' => some '\u2029'
  | _ => none

/-- Reads an escape behind its backslash. -/
def readEscape? (cursor : Cursor) : Option (Char × Cursor) :=
  match cursor.peek? 0 with
  | some 'x' => numberedEscape? 2 cursor.skip
  | some 'u' => numberedEscape? 4 cursor.skip
  | some 'U' => numberedEscape? 8 cursor.skip
  | some letter => (escapeLetter? letter).map fun character => (character, cursor.skip)
  | none => none

/-- Reads a quoted scalar behind its opening quote; `fuel` bounds the number of steps. The text read
so far is given latest character first, with the white space after it. -/
def readQuotedFrom? (double : Bool) :
    Nat → (reversed : List Char) → Gap → Cursor → Option ScalarReading
  | 0, _, _, _ => none
  | fuel + 1, reversed, gap, cursor =>
    let quote := if double then '"' else '\''
    if cursor.seesDocumentMarks then none
    else
      match cursor.peek? 0 with
      | none => none
      | some character =>
        if isSpaceOrTab character then
          readQuotedFrom? double fuel reversed (gap.addBlank character) cursor.skip
        else if isBreak character then
          let ending := cursor.takeBreak
          readQuotedFrom? double fuel reversed (gap.addBreak ending.1) ending.2
        else
          let joined := gap.fold.reverse ++ reversed
          if !double && character = '\'' && cursor.sees 1 '\'' then
            readQuotedFrom? double fuel ('\'' :: joined) Gap.none (cursor.skipMany 2)
          else if character = quote then some ⟨joined.reverse, cursor.skip, false⟩
          else if double && character = '\\' then
            if cursor.seesWhere 1 isBreak then
              let ending := cursor.skip.takeBreak
              readQuotedFrom? double fuel joined ⟨[], true, [], []⟩ ending.2
            else
              match readEscape? cursor.skip with
              | some (escaped, rest) =>
                readQuotedFrom? double fuel (escaped :: joined) Gap.none rest
              | none => none
          else readQuotedFrom? double fuel (character :: joined) Gap.none cursor.skip

/-- Reads a quoted scalar from its opening quote. -/
def readQuoted? (double : Bool) (cursor : Cursor) : Option ScalarReading :=
  readQuotedFrom? double (cursor.rest.length + 1) [] Gap.none cursor.skip

/-! ## Block scalars -/

/-- What becomes of the line ends at the end of a block. -/
inductive Chomping where
  | strip
  | clip
  | keep
  deriving DecidableEq, Repr

/-- The header of a block: what becomes of its last line ends, and its indentation if given. -/
structure BlockHeader where
  chomping : Chomping
  increment : Option Nat
  deriving Repr

/-- Reads the chomping mark of a block. -/
def readChomping (cursor : Cursor) : Option Chomping × Cursor :=
  match cursor.peek? 0 with
  | some '+' => (some .keep, cursor.skip)
  | some '-' => (some .strip, cursor.skip)
  | _ => (none, cursor)

/-- Reads the indentation mark of a block, which is not zero. -/
def readIncrement? (cursor : Cursor) : Option (Option Nat × Cursor) :=
  match cursor.peek? 0 with
  | some character =>
    if character = '0' then none
    else if '1' ≤ character && character ≤ '9' then
      some (some (character.toNat - '0'.toNat), cursor.skip)
    else some (none, cursor)
  | none => some (none, cursor)

/-- Reads the header of a block up to the end of its line. -/
def readHeader? (cursor : Cursor) : Option (BlockHeader × Cursor) := do
  let (early, cursor) := readChomping cursor
  let (increment, cursor) ← readIncrement? cursor
  let (late, cursor) := if early.isSome then (none, cursor) else readChomping cursor
  let cursor := (cursor.takeWhile isSpaceOrTab).2
  let cursor :=
    if cursor.sees 0 '#' then (cursor.takeWhile fun character => !isBreak character).2 else cursor
  if cursor.seesBreakOrEnd 0 then
    return (⟨(early.or late).getD .clip, increment⟩, cursor.takeBreak.2)
  else none

/-- The start of the next line of a block: its indentation, the empty lines passed, and the cursor
there. -/
structure BlockStart where
  indent : Nat
  emptyLines : List Char
  cursor : Cursor

/-- Passes empty lines of a block; `fuel` bounds their number. An indentation of zero is still
unknown, and is then the widest of the lines passed, but `least` at least. -/
def passEmptyLines? (least : Nat) :
    Nat → (indent widest : Nat) → (emptyLines : List Char) → Cursor → Option BlockStart
  | 0, _, _, _, _ => none
  | fuel + 1, indent, widest, emptyLines, cursor =>
    let room := if indent = 0 then cursor.rest.length else indent - cursor.column
    let spaces := (cursor.rest.take room).takeWhile (· == ' ')
    let there := cursor.skipMany spaces.length
    let widest := max widest there.column
    if (indent = 0 || there.column < indent) && there.sees 0 '\t' then none
    else if there.seesWhere 0 isBreak then
      let ending := there.takeBreak
      passEmptyLines? least fuel indent widest (emptyLines ++ ending.1) ending.2
    else
      let found := if indent = 0 then max (max widest least) 1 else indent
      some ⟨found, emptyLines, there⟩

/-- Reads the lines of a block; `fuel` bounds their number. `ending` is the end of the line read
last, and `afterBlank` tells whether that line started with a blank. -/
def readBlockLines? (literal : Bool) (chomping : Chomping) :
    Nat → (reversed ending : List Char) → (afterBlank : Bool) → BlockStart → Option ScalarReading
  | 0, _, _, _, _ => none
  | fuel + 1, reversed, ending, afterBlank, start =>
    if start.cursor.column = start.indent && !start.cursor.atEnd then
      let startsBlank := start.cursor.seesWhere 0 isSpaceOrTab
      let folds := !literal && ending.head? == some '\n' && !afterBlank && !startsBlank
      let between :=
        if folds then (if start.emptyLines.isEmpty then [' '] else start.emptyLines)
        else ending ++ start.emptyLines
      let line := start.cursor.takeWhile fun character => !isBreak character
      let grown := line.1.reverse ++ between.reverse ++ reversed
      let lineEnd := line.2.takeBreak
      match passEmptyLines? 1 (lineEnd.2.rest.length + 1) start.indent 0 [] lineEnd.2 with
      | some next => readBlockLines? literal chomping fuel grown lineEnd.1 startsBlank next
      | none => none
    else
      let tail := match chomping with
        | .strip => []
        | .clip => ending
        | .keep => ending ++ start.emptyLines
      some ⟨(tail.reverse ++ reversed).reverse, start.cursor, true⟩

/-- Reads a block scalar from its mark, inside a collection indented by `parent` columns, if by
any. -/
def readBlock? (literal : Bool) (parent : Option Nat) (cursor : Cursor) :
    Option ScalarReading := do
  let (header, cursor) ← readHeader? cursor.skip
  let indent := match header.increment with
    | some increment => parent.getD 0 + increment
    | none => 0
  let least := match parent with
    | some column => column + 1
    | none => 0
  let start ← passEmptyLines? least (cursor.rest.length + 1) indent 0 [] cursor
  readBlockLines? literal header.chomping (cursor.rest.length + 1) [] [] false start

end BuildMonitor.Yaml
