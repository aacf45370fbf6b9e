/-!
# Walking through a YAML text

YAML depends on lines and columns, so its text is walked with a cursor that counts both. A line ends
with a line feed, a carriage return, the two together, or one of three further characters; the
first four read as a line feed.

Main definitions: `Cursor`, `Cursor.skip`, `Cursor.takeBreak`.
-/

namespace BuildMonitor.Yaml

/-- A place in a text: what is left of it, and where it lies. -/
structure Cursor where
  rest : List Char
  line : Nat
  column : Nat
  index : Nat
  deriving Repr

/-- Whether a character ends a line. -/
def isBreak (character : Char) : Bool :=
  character = '\n' || character = '\r' || character = '\u0085' || character = '\u2028' ||
    character = '\u2029'

/-- Whether a character is a space or a tab. -/
def isSpaceOrTab (character : Char) : Bool := character = ' ' || character = '\t'

/-- Whether a text may hold a character at all. -/
def isAllowed (character : Char) : Bool :=
  let code := character.toNat
  code = 0x09 || code = 0x0A || code = 0x0D || (0x20 ≤ code && code ≤ 0x7E) || code = 0x85 ||
    (0xA0 ≤ code && code ≤ 0xFFFD && code != 0xFEFF) || 0x10000 ≤ code

namespace Cursor

/-- The start of a text. -/
def start (text : List Char) : Cursor := ⟨text, 0, 0, 0⟩

/-- The character `ahead` places on. -/
def peek? (cursor : Cursor) (ahead : Nat) : Option Char := cursor.rest[ahead]?

/-- Whether the character `ahead` places on is the given one. -/
def sees (cursor : Cursor) (ahead : Nat) (character : Char) : Bool :=
  cursor.peek? ahead == some character

/-- Whether the character `ahead` places on passes a test. -/
def seesWhere (cursor : Cursor) (ahead : Nat) (test : Char → Bool) : Bool :=
  (cursor.peek? ahead).any test

/-- Whether the text ends here. -/
def atEnd (cursor : Cursor) : Bool := cursor.rest.isEmpty

/-- Whether the text or the line ends `ahead` places on. -/
def seesBreakOrEnd (cursor : Cursor) (ahead : Nat) : Bool :=
  match cursor.peek? ahead with
  | none => true
  | some character => isBreak character

/-- Whether a space, a tab, or the end of the line or of the text stands `ahead` places on. -/
def seesBlankOrEnd (cursor : Cursor) (ahead : Nat) : Bool :=
  match cursor.peek? ahead with
  | none => true
  | some character => isSpaceOrTab character || isBreak character

/-- Goes on by one character that ends no line. -/
def skip (cursor : Cursor) : Cursor :=
  match cursor.rest with
  | [] => cursor
  | _ :: rest => ⟨rest, cursor.line, cursor.column + 1, cursor.index + 1⟩

/-- Goes on by several characters that end no line. -/
def skipMany (cursor : Cursor) : Nat → Cursor
  | 0 => cursor
  | count + 1 => cursor.skip.skipMany count

/-- Goes on past characters that pass a test, and gives them. The test fails at line ends. -/
def takeWhile (cursor : Cursor) (test : Char → Bool) : List Char × Cursor :=
  let taken := cursor.rest.takeWhile test
  (taken, cursor.skipMany taken.length)

/-- Goes on past the end of a line, and gives the character it reads as. -/
def takeBreak (cursor : Cursor) : List Char × Cursor :=
  match cursor.rest with
  | '\r' :: '\n' :: rest => (['\n'], ⟨rest, cursor.line + 1, 0, cursor.index + 2⟩)
  | '\u2028' :: rest => (['\u2028'], ⟨rest, cursor.line + 1, 0, cursor.index + 1⟩)
  | '\u2029' :: rest => (['\u2029'], ⟨rest, cursor.line + 1, 0, cursor.index + 1⟩)
  | _ :: rest => (['\n'], ⟨rest, cursor.line + 1, 0, cursor.index + 1⟩)
  | [] => ([], cursor)

/-- Whether three equal marks and a blank stand at the start of a line. -/
def seesMarks (cursor : Cursor) (mark : Char) : Bool :=
  cursor.column == 0 && cursor.sees 0 mark && cursor.sees 1 mark && cursor.sees 2 mark &&
    cursor.seesBlankOrEnd 3

/-- Whether a line that separates documents starts here. -/
def seesDocumentMarks (cursor : Cursor) : Bool := cursor.seesMarks '-' || cursor.seesMarks '.'

end Cursor

end BuildMonitor.Yaml
