import BuildMonitor.Script.Word
import BuildMonitor.Text.Integer
import BuildMonitor.Text.Split

/-!
# Tokens of a script

A script is cut into words, operators and line ends as it is read, so that its first lines run
before its last are looked at. Inside double quotes, braces and documents different characters are
special; a context says which.

The body of a document stands on the lines behind the one that asks for it. It is taken out of the
text where it is asked for, and its lines are counted when that line ends.

Main definitions: `Cursor`, `Fault`, `readWord`, `Token`, `Cursor.next`.
-/

namespace BuildMonitor.Script

open BuildMonitor.Text

/-- What is still to be read. -/
structure Cursor where
  rest : Octets
  line : Nat
  /-- The lines taken out behind the one that is being read. -/
  owed : Nat
  deriving DecidableEq, Repr

/-- The start of a text. -/
def Cursor.start (text : Octets) : Cursor := ⟨text, 1, 0⟩

/-- What is wrong with a script. -/
inductive Fault where
  /-- A token stands where another was wanted. -/
  | unexpected (token : String) (wanted : Option String)
  /-- A quoted text has no end. -/
  | unterminatedQuote
  /-- A loop runs over something that is no name. -/
  | badLoopName
  /-- A function has something for a name that is none. -/
  | badFunctionName
  /-- A substitution by braces has no end. -/
  | missingBrace
  /-- The text is nested too deeply to be read. -/
  | tooDeep
  deriving DecidableEq, Repr

/-- The words for what is wrong. -/
def Fault.message : Fault → String
  | .unexpected token none => s!"Syntax error: {token} unexpected"
  | .unexpected token (some wanted) => s!"Syntax error: {token} unexpected (expecting {wanted})"
  | .unterminatedQuote => "Syntax error: Unterminated quoted string"
  | .badLoopName => "Syntax error: Bad for loop variable"
  | .badFunctionName => "Syntax error: Bad function name"
  | .missingBrace => "Syntax error: Missing '\x7d'"
  | .tooDeep => "Syntax error: Nested too deeply"

/-- Something that is no command, and the line on which that is noticed. -/
structure Misreading where
  fault : Fault
  line : Nat
  deriving DecidableEq, Repr

/-- Notices a fault behind what was read. -/
def Cursor.fail {α : Type} (cursor : Cursor) (fault : Fault) : Except Misreading α :=
  .error ⟨fault, cursor.line⟩

/-- What a stretch of a word stands in. -/
inductive Context where
  /-- Nothing: blanks and operators end the word. -/
  | word
  /-- Double quotes, which end it. -/
  | quotes
  /-- Braces, of which the closing one ends it. -/
  | braces (quoted : Bool)
  /-- A document or an expression, which ends with its text. -/
  | document
  deriving DecidableEq, Repr

/-- Whether literals in a context are quoted. -/
def Context.quoted : Context → Bool
  | .word => false
  | .quotes => true
  | .braces quoted => quoted
  | .document => true

/-- The characters that end a word. -/
def isWordEnd (character : Char) : Bool :=
  [' ', '\t', '\n', ';', '&', '|', '(', ')', '<', '>'].contains character

/-- Adds a character to the parts read so far. They are kept latest first, and the text of the
latest literal is reversed. -/
def addCharacter (quoted : Bool) (character : Char) : List Part → List Part
  | .literal held text :: rest =>
    if held = quoted then .literal held (character :: text) :: rest
    else .literal quoted [character] :: .literal held text :: rest
  | parts => .literal quoted [character] :: parts

/-- Puts parts into their order. -/
def finishParts (parts : List Part) : Word :=
  parts.reverse.map fun part =>
    match part with
    | .literal quoted text => .literal quoted text.reverse
    | other => other

/-- Which quotes a scan for a closing parenthesis is inside of. -/
inductive Quoting where
  | none
  | single
  | double
  deriving DecidableEq, Repr

/-- Splits a text at the parenthesis that closes it; parentheses in quotes do not count. `taken` is
reversed. -/
def splitAtClosing (taken : Octets) (depth : Nat) (quoting : Quoting) :
    Octets → Option (Octets × Octets)
  | [] => none
  | '\\' :: escaped :: rest =>
    if quoting = .single then
      match escaped with
      | '\'' => splitAtClosing ('\'' :: '\\' :: taken) depth .none rest
      | _ => splitAtClosing (escaped :: '\\' :: taken) depth quoting rest
    else splitAtClosing (escaped :: '\\' :: taken) depth quoting rest
  | character :: rest =>
    match quoting, character with
    | .none, '(' => splitAtClosing (character :: taken) (depth + 1) .none rest
    | .none, ')' =>
      match depth with
      | 0 => some (taken.reverse, rest)
      | depth + 1 => splitAtClosing (character :: taken) depth .none rest
    | .none, '\'' => splitAtClosing (character :: taken) depth .single rest
    | .none, '"' => splitAtClosing (character :: taken) depth .double rest
    | .single, '\'' => splitAtClosing (character :: taken) depth .none rest
    | .double, '"' => splitAtClosing (character :: taken) depth .none rest
    | _, _ => splitAtClosing (character :: taken) depth quoting rest

/-- Splits a text at the grave accent that closes it, and takes the backslashes in front of special
characters away. `taken` is reversed. -/
def splitAtGrave (taken : Octets) : Octets → Option (Octets × Octets)
  | [] => none
  | '\x60' :: rest => some (taken.reverse, rest)
  | '\\' :: escaped :: rest =>
    if ['$', '\x60', '\\'].contains escaped then splitAtGrave (escaped :: taken) rest
    else splitAtGrave (escaped :: '\\' :: taken) rest
  | character :: rest => splitAtGrave (character :: taken) rest

/-- The number of line ends in a text. -/
def lineEnds (text : Octets) : Nat := text.count '\n'

namespace Cursor

/-- Goes on behind a stretch of text. -/
def skipTo (cursor : Cursor) (stretch rest : Octets) : Cursor :=
  { cursor with rest := rest, line := cursor.line + lineEnds stretch }

/-- Goes on behind a line end. -/
def nextLine (cursor : Cursor) (rest : Octets) : Cursor :=
  ⟨rest, cursor.line + 1 + cursor.owed, 0⟩

end Cursor

/-- The characters that name a parameter by themselves. -/
def isSpecialParameter (character : Char) : Bool :=
  ['@', '*', '#', '?', '$', '!', '-'].contains character

/-- The name of a parameter at the start of a text. -/
def splitName : Octets → Option (Octets × Octets)
  | [] => none
  | first :: rest =>
    if startsName first then
      some (first :: rest.takeWhile isNameCharacter, rest.dropWhile isNameCharacter)
    else if first.isDigit || isSpecialParameter first then some ([first], rest)
    else none

/-- The name of a parameter in braces, where numbers may be long. -/
def splitBracedName (text : Octets) : Option (Octets × Octets) :=
  match text with
  | first :: _ =>
    if first.isDigit then some (text.takeWhile Char.isDigit, text.dropWhile Char.isDigit)
    else splitName text
  | [] => none

/-- The operator at the start of a text. -/
def splitOperator : Octets → Option (Operator × Octets)
  | ':' :: '-' :: rest => some (.fallback true, rest)
  | ':' :: '=' :: rest => some (.assign true, rest)
  | ':' :: '?' :: rest => some (.demand true, rest)
  | ':' :: '+' :: rest => some (.alternative true, rest)
  | '-' :: rest => some (.fallback false, rest)
  | '=' :: rest => some (.assign false, rest)
  | '?' :: rest => some (.demand false, rest)
  | '+' :: rest => some (.alternative false, rest)
  | '#' :: '#' :: rest => some (.trimStart true, rest)
  | '#' :: rest => some (.trimStart false, rest)
  | '%' :: '%' :: rest => some (.trimEnd true, rest)
  | '%' :: rest => some (.trimEnd false, rest)
  | _ => none

/-- Whether a pattern follows an operator, in which quotes count even inside of quotes. -/
def Operator.takesPattern : Operator → Bool
  | .trimStart _ => true
  | .trimEnd _ => true
  | _ => false

mutual

/-- Reads parts up to the end of a context. `fuel` bounds the characters and the nesting. -/
def readParts (fuel : Nat) (context : Context) (parts : List Part) (cursor : Cursor) :
    Except Misreading (Word × Cursor) :=
  match fuel with
  | 0 => cursor.fail .tooDeep
  | fuel + 1 =>
    let literal (character : Char) (rest : Octets) :=
      readParts fuel context (addCharacter context.quoted character parts)
        (cursor.skipTo [character] rest)
    match cursor.rest with
    | [] =>
      match context with
      | .quotes => cursor.fail .unterminatedQuote
      | .braces _ => cursor.fail .missingBrace
      | _ => .ok (finishParts parts, cursor)
    | '\\' :: '\n' :: rest => readParts fuel context parts (cursor.skipTo ['\n'] rest)
    | '\\' :: escaped :: rest =>
      let special := match context with
        | .document => ['$', '\x60', '\\']
        | _ => ['$', '\x60', '"', '\\']
      if !context.quoted || special.contains escaped then
        readParts fuel context (addCharacter true escaped parts) (cursor.skipTo [escaped] rest)
      else literal '\\' (escaped :: rest)
    | '$' :: rest => do
      let (part, cursor) ← readDollar fuel context.quoted { cursor with rest := rest }
      readParts fuel context (part.elim (addCharacter context.quoted '$' parts) (· :: parts)) cursor
    | '\x60' :: rest =>
      match splitAtGrave [] rest with
      | none => (cursor.skipTo rest []).fail .unterminatedQuote
      | some (source, behind) =>
        readParts fuel context (.output context.quoted source :: parts)
          (cursor.skipTo source behind)
    | '\'' :: rest =>
      if context.quoted then literal '\'' rest
      else
        match cutAtFirst '\'' rest with
        | (_, none) => (cursor.skipTo rest []).fail .unterminatedQuote
        | (text, some behind) =>
          readParts fuel context (.literal true text.reverse :: parts) (cursor.skipTo text behind)
    | '"' :: rest =>
      match context with
      | .quotes => .ok (finishParts parts, { cursor with rest := rest })
      | .document => literal '"' rest
      | _ => do
        let (inner, cursor) ← readParts fuel .quotes [] { cursor with rest := rest }
        let inner := if inner.isEmpty then [.literal true []] else inner
        let reversed := inner.reverse.map fun part =>
          match part with
          | .literal quoted text => .literal quoted text.reverse
          | other => other
        readParts fuel context (reversed ++ parts) cursor
    | character :: rest =>
      match context with
      | .word =>
        if isWordEnd character then .ok (finishParts parts, cursor) else literal character rest
      | .braces _ =>
        if character = '\x7d' then .ok (finishParts parts, { cursor with rest := rest })
        else literal character rest
      | _ => literal character rest

/-- Reads what a dollar sign stands in front of; `none` if it stands for itself. -/
def readDollar (fuel : Nat) (quoted : Bool) (cursor : Cursor) :
    Except Misreading (Option Part × Cursor) :=
  match fuel with
  | 0 => cursor.fail .tooDeep
  | fuel + 1 =>
    match cursor.rest with
    | '(' :: rest =>
      match splitAtClosing [] 0 .none rest with
      | none => (cursor.skipTo rest []).fail (.unexpected "end of file" (some "\")\""))
      | some (inside, behind) =>
        let whole := cursor.skipTo inside behind
        match inside, inside.getLast? with
        | '(' :: body, some ')' => do
          let (parts, _) ← readParts fuel .document [] ⟨body.dropLast, cursor.line, 0⟩
          return (some (.arithmetic quoted parts), whole)
        | _, _ => .ok (some (.output quoted inside), whole)
    | '\x7b' :: rest => do
      let (part, cursor) ← readBraces fuel quoted { cursor with rest := rest }
      return (some part, cursor)
    | text =>
      match splitName text with
      | some (name, behind) =>
        .ok (some (.parameter quoted name none []), { cursor with rest := behind })
      | none => .ok (none, cursor)

/-- Reads a substitution behind its opening brace. -/
def readBraces (fuel : Nat) (quoted : Bool) (cursor : Cursor) : Except Misreading (Part × Cursor) :=
  match fuel with
  | 0 => cursor.fail .tooDeep
  | fuel + 1 =>
    let lengthOf : Option (Octets × Octets) :=
      match cursor.rest with
      | '#' :: rest =>
        match splitBracedName rest with
        | some (name, '\x7d' :: behind) => some (name, behind)
        | _ => none
      | _ => none
    match lengthOf with
    | some (name, behind) =>
      .ok (.parameter quoted name (some .length) [], { cursor with rest := behind })
    | none =>
      match splitBracedName cursor.rest with
      | none => do
        let (word, cursor) ← readParts fuel (.braces quoted) [] cursor
        return (.parameter quoted [] (some .unknown) word, cursor)
      | some (name, '\x7d' :: behind) =>
        .ok (.parameter quoted name none [], { cursor with rest := behind })
      | some (name, behind) =>
        match splitOperator behind with
        | none => do
          let (word, cursor) ← readParts fuel (.braces quoted) [] { cursor with rest := behind }
          return (.parameter quoted name (some .unknown) word, cursor)
        | some (operator, behind) => do
          let inner := quoted && !operator.takesPattern
          let (word, cursor) ← readParts fuel (.braces inner) [] { cursor with rest := behind }
          return (.parameter quoted name (some operator) word, cursor)

end

/-- Reads a word. -/
def readWord (cursor : Cursor) : Except Misreading (Word × Cursor) :=
  readParts (2 * cursor.rest.length + 4) .word [] cursor

/-- The parts of a document. -/
def documentParts (text : Octets) : Except Misreading Word :=
  (readParts (2 * text.length + 4) .document [] (.start text)).map (·.1)

/-! ## Tokens -/

/-- A token of a script. -/
inductive Token where
  | endOfFile
  | newline
  | operator (text : String)
  /-- The number of a descriptor in front of a redirection. -/
  | descriptor (number : Nat)
  | word (parts : Word)
  deriving Repr

/-- The reserved words that end a list of commands. -/
def closingWords : List String := ["then", "else", "elif", "fi", "do", "done", "esac", "\x7d"]

/-- The reserved words. -/
def reservedWords : List String :=
  closingWords ++ ["if", "while", "until", "for", "case", "\x7b", "!", "in"]

/-- The reserved word that a token is, if it is written without quotes. -/
def reservedWord? (token : Token) : Option String :=
  match token with
  | .word parts =>
    match bareText? parts with
    | some text =>
      let word := String.ofList text
      if reservedWords.contains word then some word else none
    | none => none
  | _ => none

/-- A token as messages show it. -/
def Token.display : Token → String
  | .endOfFile => "end of file"
  | .newline => "newline"
  | .operator text =>
    if text.contains '<' || text.contains '>' then "redirection" else s!"\"{text}\""
  | .descriptor _ => "redirection"
  | .word parts =>
    match reservedWord? (.word parts) with
    | some reserved => s!"\"{reserved}\""
    | none => "word"

/-- The operators, longer ones before those they start with. -/
def operators : List String :=
  ["&&", "||", ";;", "<<-", "<<", ">>", "<&", ">&", ">|", "<>", "&", "|", ";", "(", ")", "<", ">"]

/-- The operator at the start of a text. -/
def operatorAt? (text : Octets) : Option String :=
  operators.find? fun operator => operator.toList.isPrefixOf text

/-- Passes over blanks, continued lines and a comment. -/
def skipBlanks (cursor : Cursor) : Octets → Cursor
  | ' ' :: rest => skipBlanks { cursor with rest := rest } rest
  | '\t' :: rest => skipBlanks { cursor with rest := rest } rest
  | '\\' :: '\n' :: rest =>
    skipBlanks { cursor with rest := rest, line := cursor.line + 1 } rest
  | '#' :: rest => { cursor with rest := rest.dropWhile (· != '\n') }
  | rest => { cursor with rest := rest }

/-- Reads the next token. -/
def Cursor.next (cursor : Cursor) : Except Misreading (Token × Cursor) :=
  let cursor := skipBlanks cursor cursor.rest
  match cursor.rest with
  | [] => .ok (.endOfFile, cursor)
  | '\n' :: rest => .ok (.newline, cursor.nextLine rest)
  | text =>
    match operatorAt? text with
    | some operator =>
      .ok (.operator operator, { cursor with rest := text.drop operator.length })
    | none =>
      let digits := text.takeWhile Char.isDigit
      let behind := text.drop digits.length
      if !digits.isEmpty && (behind.head? == some '<' || behind.head? == some '>') then
        .ok (.descriptor (ofDigits (digits.filterMap digitValue?)), { cursor with rest := behind })
      else (readWord cursor).map fun read => (.word read.1, read.2)

end BuildMonitor.Script
