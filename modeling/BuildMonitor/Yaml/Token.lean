import BuildMonitor.Yaml.ScalarText
import BuildMonitor.Yaml.Tag

/-!
# YAML tokens

The first step of reading turns a text into tokens. Indentation becomes tokens too: a collection
opens where its first entry stands farther to the right than the one around it, and closes where a
line starts farther to the left.

A key is recognised only when its colon comes, behind a scalar or a closing bracket that is already
read. Such a scalar is remembered as a *pending key*, and the key token is put in front of it later.

Main definitions: `Token`, `Token.ofText?`.
-/

namespace BuildMonitor.Yaml

/-- A token of a document. -/
inductive Token where
  | directive
  | documentStart
  | documentEnd
  | blockSequence
  | blockMapping
  | blockEnd
  | openSequence
  | closeSequence
  | openMapping
  | closeMapping
  | entry
  | comma
  | key
  | value
  | alias_ (name : String)
  | anchor (name : String)
  /-- A tag by its full name. -/
  | tag (name : String)
  /-- A scalar, and whether it is written plainly. -/
  | scalar (text : String) (plain : Bool)
  deriving DecidableEq, Repr

/-- A scalar or collection that may turn out to be a key. -/
structure PendingKey where
  /-- The number of tokens in front of it. -/
  position : Nat
  line : Nat
  column : Nat
  index : Nat
  /-- Whether it can be nothing but a key. -/
  required : Bool
  deriving Repr

/-- How far the text has been turned into tokens. -/
structure Scanner where
  cursor : Cursor
  /-- The tokens so far, latest first. -/
  reversed : List Token
  /-- The columns of the open block collections, innermost first. -/
  indents : List Nat
  /-- Whether a key may start here. -/
  keyAllowed : Bool
  /-- The pending key of each open bracket, innermost first, and of the block around them. -/
  pending : List (Option PendingKey)
  /-- What the lines in front of the document say. -/
  directives : Directives
  deriving Repr

namespace Scanner

/-- Nothing has been read. -/
def start (text : List Char) : Scanner := ⟨.start text, [], [], true, [none], .none⟩

/-- The number of brackets that are open. -/
def flowDepth (scanner : Scanner) : Nat := scanner.pending.length - 1

/-- Whether a bracket is open. -/
def inFlow (scanner : Scanner) : Bool := 0 < scanner.flowDepth

/-- Whether a column lies to the right of the innermost block collection. -/
def isDeeper (scanner : Scanner) (column : Nat) : Bool :=
  match scanner.indents with
  | [] => true
  | indent :: _ => indent < column

/-- Adds a token. -/
def emit (scanner : Scanner) (token : Token) : Scanner :=
  { scanner with reversed := token :: scanner.reversed }

/-- Puts a token in front of those from a position on. -/
def insertAt (scanner : Scanner) (position : Nat) (token : Token) : Scanner :=
  let behind := scanner.reversed.length - position
  { scanner with
    reversed := scanner.reversed.take behind ++ token :: scanner.reversed.drop behind }

/-- Moves the cursor. -/
def moveTo (scanner : Scanner) (cursor : Cursor) : Scanner := { scanner with cursor := cursor }

/-- Opens a block collection at a column, unless one is open there; its token is put in front of
those from a position on. -/
def openBlock (scanner : Scanner) (column position : Nat) (token : Token) : Scanner :=
  if scanner.inFlow || !scanner.isDeeper column then scanner
  else
    let opened := { scanner with indents := column :: scanner.indents }
    opened.insertAt position token

/-- Closes the block collections that lie to the right of a column. -/
def closeBlocksAfter (scanner : Scanner) (column : Nat) : Scanner :=
  if scanner.inFlow then scanner
  else
    let closed := scanner.indents.takeWhile (column < ·)
    { scanner with
      indents := scanner.indents.drop closed.length
      reversed := closed.map (fun _ => Token.blockEnd) ++ scanner.reversed }

/-- Closes all block collections. -/
def closeAllBlocks (scanner : Scanner) : Scanner :=
  if scanner.inFlow then scanner
  else
    { scanner with
      indents := []
      reversed := scanner.indents.map (fun _ => Token.blockEnd) ++ scanner.reversed }

/-! ## Pending keys -/

/-- Gives up the innermost pending key; `none` if it had to be one. -/
def dropPending? (scanner : Scanner) : Option Scanner :=
  match scanner.pending with
  | some key :: outer =>
    if key.required then none else some { scanner with pending := none :: outer }
  | _ => some scanner

/-- Notes that what starts here may be a key. -/
def notePending? (scanner : Scanner) : Option Scanner :=
  if !scanner.keyAllowed then some scanner
  else do
    let cleared ← scanner.dropPending?
    let cursor := scanner.cursor
    let required := !scanner.inFlow && scanner.indents.head? == some cursor.column
    let key : PendingKey :=
      ⟨scanner.reversed.length, cursor.line, cursor.column, cursor.index, required⟩
    return { cleared with pending := some key :: cleared.pending.drop 1 }

/-- The distance within which the colon of a key must come. -/
def keyReach : Nat := 1024

/-- Whether a pending key can no longer be one. -/
def isStale (cursor : Cursor) (key : PendingKey) : Bool :=
  key.line < cursor.line || key.index + keyReach < cursor.index

/-- Gives up the pending keys that can no longer be keys; `none` if one of them had to be. -/
def dropStale? (scanner : Scanner) : Option Scanner :=
  let stale := isStale scanner.cursor
  if scanner.pending.any fun slot => slot.any fun key => stale key && key.required then none
  else some { scanner with pending := scanner.pending.map fun slot => slot.filter (!stale ·) }

/-! ## White space -/

/-- Passes blanks, comments and line ends in front of a token; `fuel` bounds their number. A line
end outside brackets allows a key again. A tab is white space only where no key can start. -/
def passBlanks : Nat → Scanner → Scanner
  | 0, scanner => scanner
  | fuel + 1, scanner =>
    let cursor := scanner.cursor
    let isSkippable (character : Char) : Bool :=
      character = ' ' || (character = '\t' && (scanner.inFlow || !scanner.keyAllowed))
    let afterBlanks := (cursor.takeWhile isSkippable).2
    let afterComment :=
      if afterBlanks.sees 0 '#' then (afterBlanks.takeWhile fun next => !isBreak next).2
      else afterBlanks
    if afterComment.seesWhere 0 isBreak then
      passBlanks fuel
        { scanner with
          cursor := afterComment.takeBreak.2
          keyAllowed := scanner.keyAllowed || !scanner.inFlow }
    else scanner.moveTo afterComment

/-! ## Tokens -/

/-- Reads one punctuation mark as a token. -/
def mark (scanner : Scanner) (token : Token) : Scanner :=
  (scanner.emit token).moveTo scanner.cursor.skip

/-- Closes all blocks and reads a line that separates documents. -/
def documentMark? (scanner : Scanner) (token : Token) : Option Scanner := do
  let cleared ← scanner.closeAllBlocks.dropPending?
  return { (cleared.emit token).moveTo (cleared.cursor.skipMany 3) with keyAllowed := false }

/-- Reads a line that starts with a percent sign. -/
def directive? (scanner : Scanner) : Option Scanner := do
  let cleared ← scanner.closeAllBlocks.dropPending?
  let (directives, cursor) ← readDirective? cleared.directives cleared.cursor
  return { (cleared.emit .directive).moveTo cursor with
    keyAllowed := false, directives := directives }

/-- Reads an opening bracket. -/
def openBracket? (scanner : Scanner) (token : Token) : Option Scanner := do
  let noted ← scanner.notePending?
  return { noted.mark token with keyAllowed := true, pending := none :: noted.pending }

/-- Reads a closing bracket. -/
def closeBracket? (scanner : Scanner) (token : Token) : Option Scanner := do
  let cleared ← scanner.dropPending?
  let outer := if cleared.inFlow then cleared.pending.drop 1 else cleared.pending
  return { cleared.mark token with keyAllowed := false, pending := outer }

/-- Reads a comma. -/
def comma? (scanner : Scanner) : Option Scanner := do
  let cleared ← scanner.dropPending?
  return { cleared.mark .comma with keyAllowed := true }

/-- Reads the dash of a block sequence. -/
def entry? (scanner : Scanner) : Option Scanner := do
  if !scanner.inFlow && !scanner.keyAllowed then none
  else
    let opened :=
      scanner.openBlock scanner.cursor.column scanner.reversed.length .blockSequence
    let cleared ← opened.dropPending?
    return { cleared.mark .entry with keyAllowed := true }

/-- Reads the question mark in front of a key. -/
def key? (scanner : Scanner) : Option Scanner := do
  if !scanner.inFlow && !scanner.keyAllowed then none
  else
    let opened :=
      scanner.openBlock scanner.cursor.column scanner.reversed.length .blockMapping
    let cleared ← opened.dropPending?
    return { cleared.mark .key with keyAllowed := !cleared.inFlow }

/-- Reads the colon in front of a value. If a key is pending, its token is put in front of it. -/
def value? (scanner : Scanner) : Option Scanner :=
  match scanner.pending with
  | some key :: outer =>
    let keyed := scanner.insertAt key.position .key
    let opened := keyed.openBlock key.column key.position .blockMapping
    some { opened.mark .value with pending := none :: outer, keyAllowed := false }
  | _ =>
    if scanner.inFlow then some { scanner.mark .value with keyAllowed := false }
    else if !scanner.keyAllowed then none
    else
      let opened :=
        scanner.openBlock scanner.cursor.column scanner.reversed.length .blockMapping
      some { opened.mark .value with keyAllowed := true }

/-- The characters that may follow a name directly. -/
def endsName (character : Char) : Bool :=
  character = '?' || character = ':' || character = ',' || character = ']' || character = '\x7d' ||
    character = '%' || character = '@' || character = '\x60'

/-- Reads an anchor or an alias. -/
def name? (scanner : Scanner) (token : String → Token) : Option Scanner := do
  let noted ← scanner.notePending?
  let (name, cursor) := noted.cursor.skip.takeWhile isNameCharacter
  if name.isEmpty || !(cursor.seesBlankOrEnd 0 || cursor.seesWhere 0 endsName) then none
  else
    return { (noted.emit (token (String.ofList name))).moveTo cursor with keyAllowed := false }

/-- Reads a tag. -/
def tag? (scanner : Scanner) : Option Scanner := do
  let noted ← scanner.notePending?
  let (name, cursor) ← readTag? noted.directives noted.inFlow noted.cursor
  return { (noted.emit (.tag name)).moveTo cursor with keyAllowed := false }

/-- Adds the token of a scalar that was read. -/
def scalar (scanner : Scanner) (reading : ScalarReading) (plain keyAllowed : Bool) : Scanner :=
  { (scanner.emit (.scalar (String.ofList reading.text) plain)).moveTo reading.cursor with
    keyAllowed := keyAllowed }

/-- Reads a quoted scalar. -/
def quoted? (scanner : Scanner) (double : Bool) : Option Scanner := do
  let noted ← scanner.notePending?
  let reading ← readQuoted? double noted.cursor
  return noted.scalar reading false false

/-- Reads a block scalar. -/
def block? (scanner : Scanner) (literal : Bool) : Option Scanner := do
  let cleared ← scanner.dropPending?
  let reading ← readBlock? literal cleared.indents.head? cleared.cursor
  return cleared.scalar reading false true

/-- Reads a plain scalar. -/
def plain? (scanner : Scanner) : Option Scanner := do
  let noted ← scanner.notePending?
  let indent := match noted.indents.head? with
    | some column => column + 1
    | none => 0
  let reading ← readPlain? noted.inFlow indent noted.cursor
  return noted.scalar reading true reading.endsLine

/-- The characters that no plain scalar starts with. -/
def isIndicator (character : Char) : Bool :=
  ['-', '?', ':', ',', '[', ']', '\x7b', '\x7d', '#', '&', '*', '!', '|', '>', '\'', '"', '%', '@',
    '\x60'].contains character

/-- Whether a plain scalar starts here. -/
def startsPlain (scanner : Scanner) (character : Char) : Bool :=
  let followed := !scanner.cursor.seesBlankOrEnd 1
  !isSpaceOrTab character &&
    (!isIndicator character || (character = '-' && followed) ||
      (!scanner.inFlow && (character = '?' || character = ':') && followed))

/-- Reads the token that starts with a character; `none` where none can. -/
def token? (scanner : Scanner) (character : Char) : Option Scanner :=
  let blankNext := scanner.cursor.seesBlankOrEnd 1
  if scanner.cursor.column = 0 && character = '%' then scanner.directive?
  else if scanner.cursor.seesMarks '-' then scanner.documentMark? .documentStart
  else if scanner.cursor.seesMarks '.' then scanner.documentMark? .documentEnd
  else if character = '[' then scanner.openBracket? .openSequence
  else if character = '\x7b' then scanner.openBracket? .openMapping
  else if character = ']' then scanner.closeBracket? .closeSequence
  else if character = '\x7d' then scanner.closeBracket? .closeMapping
  else if character = ',' then scanner.comma?
  else if character = '-' && blankNext then scanner.entry?
  else if character = '?' && (scanner.inFlow || blankNext) then scanner.key?
  else if character = ':' && (scanner.inFlow || blankNext) then scanner.value?
  else if character = '*' then scanner.name? .alias_
  else if character = '&' then scanner.name? .anchor
  else if character = '!' then scanner.tag?
  else if character = '|' && !scanner.inFlow then scanner.block? true
  else if character = '>' && !scanner.inFlow then scanner.block? false
  else if character = '\'' then scanner.quoted? false
  else if character = '"' then scanner.quoted? true
  else if scanner.startsPlain character then scanner.plain?
  else none

/-- Reads tokens to the end of the text; `fuel` bounds their number. -/
def run? : Nat → Scanner → Option (List Token)
  | 0, _ => none
  | fuel + 1, scanner =>
    let ready := passBlanks (scanner.cursor.rest.length + 1) scanner
    match ready.dropStale? with
    | none => none
    | some fresh =>
      let placed := fresh.closeBlocksAfter fresh.cursor.column
      match placed.cursor.peek? 0 with
      | none => (placed.closeAllBlocks.dropPending?).map fun ended => ended.reversed.reverse
      | some character =>
        match placed.token? character with
        | none => none
        | some next => run? fuel next

end Scanner

/-- The tokens of a text. A byte order mark in front is passed over. -/
def Token.ofText? (text : String) : Option (List Token) :=
  let characters := match text.toList with
    | '\uFEFF' :: rest => rest
    | characters => characters
  if characters.all isAllowed then
    Scanner.run? (characters.length + 2) (.start characters)
  else none

end BuildMonitor.Yaml
