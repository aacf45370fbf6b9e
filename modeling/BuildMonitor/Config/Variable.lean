import BuildMonitor.Config.Tree
import BuildMonitor.Decimal.Reading
import BuildMonitor.Json.Token
import BuildMonitor.Text.Blank
import BuildMonitor.Text.Integer

/-!
# Values of environment variables

The value of an environment variable is a text, but it may spell a truth value, a number, a quoted
text, one character between apostrophes, a list in brackets or a dictionary in braces. What spells
none of these as a whole is taken as the text it is. Blanks around it are dropped.

Main definitions: `treeOfVariable`.
-/

namespace BuildMonitor.Config

open BuildMonitor.Decimal BuildMonitor.Json BuildMonitor.Text

/-- The characters that end an unquoted value inside a list or a dictionary. -/
def isSeparator (character : Char) : Bool :=
  character = ',' || character = '\x7b' || character = '\x7d' || character = '[' || character = ']'

/-- The blanks that may stand around a value: those of ASCII. -/
def isAsciiBlank (character : Char) : Bool :=
  character = ' ' || character = '\t' || character = '\n' || character = '\r' ||
    character = '\x0c'

/-- The value of hexadecimal digits, if it is a code point. -/
def codePoint? (digits : List Char) : Option Char := do
  let code ← digits.foldlM (fun value digit => (hexValue? digit).map (value * 16 + ·)) 0
  if code < 0xD800 || (0xDFFF < code && code ≤ 0x10FFFF) then return Char.ofNat code else none

/-- Reads the characters of a quoted text up to its closing quote; `fuel` bounds their number. -/
def readQuotedFrom? : Nat → (reversed : List Char) → List Char → Option (List Char × List Char)
  | 0, _, _ => none
  | fuel + 1, reversed, characters =>
    match characters with
    | '"' :: rest => some (reversed.reverse, rest)
    | '\\' :: letter :: rest =>
      let plain (character : Char) := readQuotedFrom? fuel (character :: reversed) rest
      let numbered (count : Nat) :=
        if rest.length < count then none
        else
          match codePoint? (rest.take count) with
          | some character => readQuotedFrom? fuel (character :: reversed) (rest.drop count)
          | none => none
      match letter with
      | '"' => plain '"'
      | '\\' => plain '\\'
      | 'b' => plain '\x08'
      | 'f' => plain '\x0c'
      | 'n' => plain '\n'
      | 'r' => plain '\r'
      | 't' => plain '\t'
      | 'u' => numbered 4
      | 'U' => numbered 8
      | _ => none
    | '\\' :: [] => none
    | character :: rest => readQuotedFrom? fuel (character :: reversed) rest
    | [] => none

/-- Reads a quoted text behind its opening quote. -/
def readVariableText? (characters : List Char) : Option (List Char × List Char) :=
  readQuotedFrom? (characters.length + 1) [] characters

/-- What an unquoted value means. -/
def scalarOfWord (word : List Char) : Scalar :=
  let fraction := if word.contains '.' then readBinary64? word else none
  match fraction with
  | some value => .floating value
  | none =>
    match readUnsigned (maxUnsigned 64) word with
    | .ok value => .natural value
    | .error _ =>
      match readSigned (maxSigned 64) word with
      | .ok value => .signed value
      | .error _ => .text (String.ofList word)

/-- Reads the name of a member of a dictionary: a quoted text or a word. -/
def readName? (characters : List Char) : Option (String × List Char) :=
  match characters with
  | '"' :: rest => (readVariableText? rest).map fun read => (String.ofList read.1, read.2)
  | _ =>
    let isNameCharacter (character : Char) : Bool :=
      character.isAlphanum || character = '_' || character = '-'
    let name := characters.takeWhile isNameCharacter
    if name.isEmpty then none else some (String.ofList name, characters.dropWhile isNameCharacter)

mutual

/-- Reads a value with the blanks around it, and gives what follows; `fuel` bounds the work. -/
def readValue? (source : Source) (fuel : Nat) (characters : List Char) :
    Option (Tree × List Char) :=
  match fuel with
  | 0 => none
  | fuel + 1 =>
    let read : Option (Tree × List Char) := match characters.dropWhile isAsciiBlank with
      | 't' :: 'r' :: 'u' :: 'e' :: rest => some (Tree.scalar source (.boolean true), rest)
      | 'f' :: 'a' :: 'l' :: 's' :: 'e' :: rest => some (.scalar source (.boolean false), rest)
      | '\x7b' :: rest =>
        (readPairs? source fuel rest).map fun read => (Tree.ofMembers source read.1, read.2)
      | '[' :: rest =>
        (readList? source fuel rest).map fun read => (.sequence source read.1, read.2)
      | '"' :: rest =>
        (readVariableText? rest).map fun read => (Tree.text source (String.ofList read.1), read.2)
      | '\'' :: character :: '\'' :: rest =>
        some (Tree.text source (String.ofList [character]), rest)
      | '\'' :: _ => none
      | unquoted =>
        let word := trimBlanks (unquoted.takeWhile fun character => !isSeparator character)
        some (.scalar source (scalarOfWord word), unquoted.dropWhile fun character =>
          !isSeparator character)
    read.map fun read => (read.1, read.2.dropWhile isAsciiBlank)

/-- Reads the items of a list up to its closing bracket. -/
def readList? (source : Source) (fuel : Nat) (characters : List Char) :
    Option (List Tree × List Char) :=
  match fuel with
  | 0 => none
  | fuel + 1 =>
    match characters with
    | ']' :: rest => some ([], rest)
    | _ =>
      match readValue? source fuel characters with
      | some (item, ',' :: rest) =>
        (readList? source fuel rest).map fun read => (item :: read.1, read.2)
      | some (item, ']' :: rest) => some ([item], rest)
      | _ => none

/-- Reads the members of a dictionary up to its closing brace. -/
def readPairs? (source : Source) (fuel : Nat) (characters : List Char) :
    Option (List (String × Tree) × List Char) :=
  match fuel with
  | 0 => none
  | fuel + 1 =>
    match characters with
    | '\x7d' :: rest => some ([], rest)
    | _ =>
      match readName? (characters.dropWhile isAsciiBlank) with
      | none => none
      | some (name, rest) =>
        match rest.dropWhile isAsciiBlank with
        | '=' :: rest =>
          match readValue? source fuel rest with
          | some (value, ',' :: rest) =>
            (readPairs? source fuel rest).map fun read => ((name, value) :: read.1, read.2)
          | some (value, '\x7d' :: rest) => some ([(name, value)], rest)
          | _ => none
        | _ => none

end

/-- The value of an environment variable. -/
def treeOfVariable (source : Source) (value : String) : Tree :=
  let characters := trimBlanks value.toList
  match readValue? source (characters.length + 2) characters with
  | some (tree, []) => tree
  | _ => .text source (String.ofList characters)

end BuildMonitor.Config
