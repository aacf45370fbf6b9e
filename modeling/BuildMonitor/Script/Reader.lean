import BuildMonitor.Script.Command
import BuildMonitor.Script.Token

/-!
# Reading commands

A script is read one complete command at a time: a list of commands up to the end of its line. What
stands behind it is left for later, and may not even be well formed.

Reserved words count only where a command may start and only when nothing in them is quoted.

Main definitions: `readComplete`, `Reading`.
-/

namespace BuildMonitor.Script

/-- Whether a token ends a list of commands. -/
def closesList (token : Token) : Bool :=
  match token with
  | .endOfFile => true
  | .operator text => text == ")" || text == ";;"
  | _ => ((reservedWord? token).map closingWords.contains).getD false

/-- The redirection that an operator is, with the descriptor it is for when none is given. -/
def redirection? (operator : String) : Option (Redirection × Nat) :=
  match operator with
  | "<" => some (.input, 0)
  | "<>" => some (.input, 0)
  | ">" => some (.output, 1)
  | ">|" => some (.output, 1)
  | ">>" => some (.append, 1)
  | "<&" => some (.duplicate, 0)
  | ">&" => some (.duplicate, 1)
  | "<<" => some (.document, 0)
  | "<<-" => some (.document, 0)
  | _ => none

/-- Passes over line ends. `fuel` bounds their number. -/
def skipNewlines : (fuel : Nat) → Cursor → Except Misreading Cursor
  | 0, cursor => .ok cursor
  | fuel + 1, cursor => do
    match ← cursor.next with
    | (.newline, behind) => skipNewlines fuel behind
    | _ => return cursor

/-! ## Documents -/

/-- The text of a word without its quotes. -/
def unquoted : Word → Octets
  | [] => []
  | .literal _ text :: rest => text ++ unquoted rest
  | .parameter _ name _ _ :: rest => '$' :: name ++ unquoted rest
  | _ :: rest => unquoted rest

/-- Whether any part of a word is quoted. -/
def isQuoted (word : Word) : Bool :=
  word.any fun part =>
    match part with
    | .literal quoted _ => quoted
    | .parameter quoted _ _ _ => quoted
    | .arithmetic quoted _ => quoted
    | .output quoted _ => quoted
    | .captured quoted _ => quoted

/-- Takes the text of a document from the lines of a text: the lines before the one that is its
delimiter, and the lines behind it. `tabs` says that tabs in front of a line are dropped. The last
line of a text has no line end. -/
def takeDocument (tabs : Bool) (delimiter : Octets) :
    List Octets → Octets × List Octets
  | [] => ([], [])
  | line :: rest =>
    let stripped := if tabs then line.dropWhile (· == '\t') else line
    if stripped = delimiter then ([], rest)
    else if rest.isEmpty then (stripped, [])
    else
      let taken := takeDocument tabs delimiter rest
      (stripped ++ '\n' :: taken.1, taken.2)

/-- Reads the document that a redirection asks for, and takes it out of the text. -/
def readDocument (tabs : Bool) (delimiter : Word) (cursor : Cursor) :
    Except Misreading (Word × Cursor) := do
  let thisLine := cursor.rest.takeWhile (· != '\n')
  match cursor.rest.dropWhile (· != '\n') with
  | [] => return ([.literal true []], cursor)
  | _ :: behind =>
    let lines := Text.splitOn (· == '\n') behind
    let (text, left) := takeDocument tabs (unquoted delimiter) lines
    let word ← if isQuoted delimiter then pure [.literal true text] else documentParts text
    let rest := thisLine ++ '\n' :: Text.joinWith ['\n'] left
    return (word, { cursor with
      rest := rest
      owed := cursor.owed + (lines.length - left.length) })

/-! ## Redirections and assignments -/

/-- Reads the target of a redirection. -/
def readRedirect (given : Option Nat) (operator : String) (kind : Redirection) (fallback : Nat)
    (cursor : Cursor) : Except Misreading (Redirect × Cursor) := do
  match ← cursor.next with
  | (.word target, cursor) =>
    let descriptor := given.getD fallback
    match kind with
    | .document =>
      let (body, cursor) ← readDocument (operator == "<<-") target cursor
      return (⟨descriptor, .document, body⟩, cursor)
    | kind => return (⟨descriptor, kind, target⟩, cursor)
  | (token, behind) => behind.fail (.unexpected token.display none)

/-- Reads a redirection, if there is one next. -/
def readRedirect? (cursor : Cursor) : Except Misreading (Option (Redirect × Cursor)) := do
  match ← cursor.next with
  | (.operator text, behind) =>
    match redirection? text with
    | some (kind, fallback) => (readRedirect none text kind fallback behind).map some
    | none => return none
  | (.descriptor number, behind) =>
    match ← behind.next with
    | (.operator text, behind) =>
      match redirection? text with
      | some (kind, fallback) => (readRedirect (some number) text kind fallback behind).map some
      | none => return none
    | _ => return none
  | _ => return none

/-- Reads the redirections behind a command. `fuel` bounds their number. -/
def readRedirects : (fuel : Nat) → Cursor → Except Misreading (List Redirect × Cursor)
  | 0, cursor => .ok ([], cursor)
  | fuel + 1, cursor => do
    match ← readRedirect? cursor with
    | none => return ([], cursor)
    | some (redirect, cursor) =>
      let (others, cursor) ← readRedirects fuel cursor
      return (redirect :: others, cursor)

/-- The name and the value of a word that is an assignment. -/
def assignment? : Word → Option (Octets × Word)
  | .literal false text :: rest =>
    match Text.cutAtFirst '=' text with
    | (name, some value) =>
      if isName name then some (name, if value.isEmpty then rest else .literal false value :: rest)
      else none
    | _ => none
  | _ => none

/-- What a simple command consists of so far; the lists are reversed. -/
structure SimpleParts where
  assignments : List (Octets × Word)
  words : List Word
  redirects : List Redirect

/-- The simple command that its parts make up. -/
def SimpleParts.command (parts : SimpleParts) (line : Nat) : Command :=
  .simple line parts.assignments.reverse parts.words.reverse parts.redirects.reverse

/-- Reads the rest of a simple command. `fuel` bounds its words. -/
def readSimple : (fuel : Nat) → SimpleParts → Cursor → Except Misreading (SimpleParts × Cursor)
  | 0, parts, cursor => .ok (parts, cursor)
  | fuel + 1, parts, cursor => do
    match ← readRedirect? cursor with
    | some (redirect, cursor) =>
      readSimple fuel { parts with redirects := redirect :: parts.redirects } cursor
    | none =>
      match ← cursor.next with
      | (.word word, behind) =>
        match if parts.words.isEmpty then assignment? word else none with
        | some given =>
          readSimple fuel { parts with assignments := given :: parts.assignments } behind
        | none => readSimple fuel { parts with words := word :: parts.words } behind
      | _ => return (parts, cursor)

/-! ## Commands -/

/-- Passes over a reserved word that must come next. -/
def expectWord (wanted : String) (cursor : Cursor) : Except Misreading Cursor := do
  let (token, behind) ← cursor.next
  if reservedWord? token = some wanted then return behind
  else behind.fail (.unexpected token.display (some s!"\"{wanted}\""))

/-- Passes over an operator that must come next. -/
def expectOperator (wanted : String) (cursor : Cursor) : Except Misreading Cursor := do
  match ← cursor.next with
  | (.operator text, behind) =>
    if text = wanted then return behind
    else behind.fail (.unexpected (Token.display (.operator text)) (some s!"\"{wanted}\""))
  | (token, behind) => behind.fail (.unexpected token.display (some s!"\"{wanted}\""))

/-- Reads words up to the end of a line or list. -/
def readWords : (fuel : Nat) → Cursor → Except Misreading (List Word × Cursor)
  | 0, cursor => .ok ([], cursor)
  | fuel + 1, cursor => do
    match ← cursor.next with
    | (.word word, behind) =>
      let (others, cursor) ← readWords fuel behind
      return (word :: others, cursor)
    | _ => return ([], cursor)

/-- Reads the patterns of a branch up to the parenthesis behind them. -/
def readPatterns : (fuel : Nat) → Cursor → Except Misreading (List Word × Cursor)
  | 0, cursor => cursor.fail .tooDeep
  | fuel + 1, cursor => do
    match ← cursor.next with
    | (.word pattern, behind) =>
      match ← behind.next with
      | (.operator "|", behind) =>
        let (others, cursor) ← readPatterns fuel behind
        return (pattern :: others, cursor)
      | (.operator ")", behind) => return ([pattern], behind)
      | (token, behind) => behind.fail (.unexpected token.display (some "\")\""))
    | (token, behind) => behind.fail (.unexpected token.display (some "\")\""))

mutual

/-- Reads a list of commands up to a token that ends it; line ends part commands. -/
def readList (fuel : Nat) (cursor : Cursor) : Except Misreading (Command × Cursor) :=
  match fuel with
  | 0 => cursor.fail .tooDeep
  | fuel + 1 => do
    let cursor ← skipNewlines (cursor.rest.length + 1) cursor
    let (token, _) ← cursor.next
    if closesList token then return (.nothing, cursor)
    let (first, cursor) ← readAndOr fuel cursor
    let (token, behind) ← cursor.next
    match token with
    | .newline => do
      let (rest, cursor) ← readList fuel behind
      return (.sequence first rest, cursor)
    | .operator ";" => do
      let (rest, cursor) ← readList fuel behind
      return (.sequence first rest, cursor)
    | .operator "&" => do
      let (rest, cursor) ← readList fuel behind
      return (.sequence (.background first) rest, cursor)
    | _ => return (first, cursor)

/-- Reads a list of commands that may be empty only at the end of the text, where something else is
missing. -/
def readBody (fuel : Nat) (cursor : Cursor) : Except Misreading (Command × Cursor) :=
  match fuel with
  | 0 => cursor.fail .tooDeep
  | fuel + 1 => do
    let (body, behind) ← readList fuel cursor
    match body with
    | .nothing =>
      match ← behind.next with
      | (.endOfFile, _) => return (.nothing, behind)
      | (token, after) => after.fail (.unexpected token.display none)
    | body => return (body, behind)

/-- Reads pipelines joined by `&&` and `||`. -/
def readAndOr (fuel : Nat) (cursor : Cursor) : Except Misreading (Command × Cursor) :=
  match fuel with
  | 0 => cursor.fail .tooDeep
  | fuel + 1 => do
    let (first, cursor) ← readPipeline fuel cursor
    readAndOrBehind fuel first cursor

/-- Reads what is joined to a command by `&&` and `||`, from the left. -/
def readAndOrBehind (fuel : Nat) (first : Command) (cursor : Cursor) :
    Except Misreading (Command × Cursor) :=
  match fuel with
  | 0 => cursor.fail .tooDeep
  | fuel + 1 => do
    match ← cursor.next with
    | (.operator "&&", behind) => do
      let behind ← skipNewlines (behind.rest.length + 1) behind
      let (second, cursor) ← readPipeline fuel behind
      readAndOrBehind fuel (.both first second) cursor
    | (.operator "||", behind) => do
      let behind ← skipNewlines (behind.rest.length + 1) behind
      let (second, cursor) ← readPipeline fuel behind
      readAndOrBehind fuel (.either first second) cursor
    | _ => return (first, cursor)

/-- Reads a pipeline, which may be negated. -/
def readPipeline (fuel : Nat) (cursor : Cursor) : Except Misreading (Command × Cursor) :=
  match fuel with
  | 0 => cursor.fail .tooDeep
  | fuel + 1 => do
    let (token, behind) ← cursor.next
    if reservedWord? token = some "!" then
      let (body, cursor) ← readStagesOf fuel behind
      return (.negation body, cursor)
    else readStagesOf fuel cursor

/-- Reads the stages of a pipeline. -/
def readStagesOf (fuel : Nat) (cursor : Cursor) : Except Misreading (Command × Cursor) :=
  match fuel with
  | 0 => cursor.fail .tooDeep
  | fuel + 1 => do
    let (first, cursor) ← readCommand fuel cursor
    let (others, cursor) ← readStages fuel cursor
    return (if others.isEmpty then first else .pipeline (first :: others), cursor)

/-- Reads the further stages of a pipeline. -/
def readStages (fuel : Nat) (cursor : Cursor) : Except Misreading (List Command × Cursor) :=
  match fuel with
  | 0 => cursor.fail .tooDeep
  | fuel + 1 => do
    match ← cursor.next with
    | (.operator "|", behind) => do
      let behind ← skipNewlines (behind.rest.length + 1) behind
      let (stage, cursor) ← readCommand fuel behind
      let (others, cursor) ← readStages fuel cursor
      return (stage :: others, cursor)
    | _ => return ([], cursor)

/-- Reads one command with the redirections behind it. -/
def readCommand (fuel : Nat) (cursor : Cursor) : Except Misreading (Command × Cursor) :=
  match fuel with
  | 0 => cursor.fail .tooDeep
  | fuel + 1 => do
    let (token, behind) ← cursor.next
    match token with
    | .operator "(" => do
      let (body, cursor) ← readBody fuel behind
      let cursor ← expectOperator ")" cursor
      readBehind fuel behind.line (.subshell body) cursor
    | _ =>
      match reservedWord? token with
      | some "\x7b" => do
        let (body, cursor) ← readBody fuel behind
        let cursor ← expectWord "\x7d" cursor
        readBehind fuel behind.line body cursor
      | some "if" => do
        let (body, cursor) ← readConditional fuel behind
        readBehind fuel behind.line body cursor
      | some "while" => do
        let (body, cursor) ← readLoop fuel false behind
        readBehind fuel behind.line body cursor
      | some "until" => do
        let (body, cursor) ← readLoop fuel true behind
        readBehind fuel behind.line body cursor
      | some "for" => do
        let (body, cursor) ← readEach fuel behind
        readBehind fuel behind.line body cursor
      | some "case" => do
        let (body, cursor) ← readChoice fuel behind
        readBehind fuel behind.line body cursor
      | some word =>
        if closingWords.contains word || word = "!" || word = "in" then behind.fail (.unexpected token.display none)
        else readPlain fuel cursor
      | none => readPlain fuel cursor

/-- Reads the redirections behind a compound command. -/
def readBehind (fuel : Nat) (line : Nat) (body : Command) (cursor : Cursor) :
    Except Misreading (Command × Cursor) :=
  match fuel with
  | 0 => cursor.fail .tooDeep
  | _ + 1 => do
    let (redirects, cursor) ← readRedirects (cursor.rest.length + 1) cursor
    return (if redirects.isEmpty then body else .redirected line body redirects, cursor)

/-- Reads a simple command, or the definition of a function. -/
def readPlain (fuel : Nat) (cursor : Cursor) : Except Misreading (Command × Cursor) :=
  match fuel with
  | 0 => cursor.fail .tooDeep
  | fuel + 1 => do
    let line := (skipBlanks cursor cursor.rest).line
    let (parts, behind) ← readSimple (cursor.rest.length + 1) ⟨[], [], []⟩ cursor
    if parts.words.isEmpty && parts.assignments.isEmpty && parts.redirects.isEmpty then
      let (token, after) ← cursor.next
      after.fail (.unexpected token.display none)
    else
    match parts.words, ← behind.next with
    | [word], (.operator "(", inside) =>
      let name := (bareText? word).getD []
      if !isName name then
        let cursor ← expectOperator ")" inside
        cursor.fail .badFunctionName
      else
        let cursor ← expectOperator ")" inside
        let cursor ← skipNewlines (cursor.rest.length + 1) cursor
        let (body, cursor) ← readCommand fuel cursor
        return (.definition name body, cursor)
    | _, _ => return (parts.command line, behind)

/-- Reads a conditional behind its first word, up to and with `fi`. -/
def readConditional (fuel : Nat) (cursor : Cursor) : Except Misreading (Command × Cursor) :=
  match fuel with
  | 0 => cursor.fail .tooDeep
  | fuel + 1 => do
    let (condition, cursor) ← readBody fuel cursor
    let cursor ← expectWord "then" cursor
    let (positive, cursor) ← readBody fuel cursor
    let (token, behind) ← cursor.next
    match reservedWord? token with
    | some "elif" => do
      let (negative, cursor) ← readConditional fuel behind
      return (.conditional condition positive negative, cursor)
    | some "else" => do
      let (negative, cursor) ← readBody fuel behind
      let cursor ← expectWord "fi" cursor
      return (.conditional condition positive negative, cursor)
    | _ => do
      let cursor ← expectWord "fi" cursor
      return (.conditional condition positive .nothing, cursor)

/-- Reads the body of a loop between `do` and `done`. -/
def readLoopBody (fuel : Nat) (cursor : Cursor) : Except Misreading (Command × Cursor) :=
  match fuel with
  | 0 => cursor.fail .tooDeep
  | fuel + 1 => do
    let cursor ← skipNewlines (cursor.rest.length + 1) cursor
    let cursor ← expectWord "do" cursor
    let (body, cursor) ← readBody fuel cursor
    let cursor ← expectWord "done" cursor
    return (body, cursor)

/-- Reads a loop behind its first word. -/
def readLoop (fuel : Nat) (untilSuccess : Bool) (cursor : Cursor) :
    Except Misreading (Command × Cursor) :=
  match fuel with
  | 0 => cursor.fail .tooDeep
  | fuel + 1 => do
    let (condition, cursor) ← readBody fuel cursor
    let (body, cursor) ← readLoopBody fuel cursor
    return (.loop untilSuccess condition body, cursor)

/-- Reads a loop over words behind its first word. Without words it runs over the arguments. -/
def readEach (fuel : Nat) (cursor : Cursor) : Except Misreading (Command × Cursor) :=
  match fuel with
  | 0 => cursor.fail .tooDeep
  | fuel + 1 => do
    match ← cursor.next with
    | (.word nameWord, behind) =>
      let name := (bareText? nameWord).getD []
      if !isName name then behind.fail .badLoopName
      else
      let line := behind.line
      let start ← skipNewlines (behind.rest.length + 1) behind
      let (token, inside) ← start.next
      if reservedWord? token = some "in" then
        let (words, after) ← readWords (inside.rest.length + 1) inside
        let cursor ← match ← after.next with
          | (.operator ";", behind) => pure behind
          | (.newline, behind) => pure behind
          | (token, behind) => behind.fail (.unexpected token.display none)
        let (body, cursor) ← readLoopBody fuel cursor
        return (.each line name words body, cursor)
      else
        let cursor := match token with
          | .operator ";" => inside
          | _ => start
        let (body, cursor) ← readLoopBody fuel cursor
        return (.each line name [[.parameter true ['@'] none []]] body, cursor)
    | (_, behind) => behind.fail .badLoopName

/-- Reads a choice between patterns behind its first word. -/
def readChoice (fuel : Nat) (cursor : Cursor) : Except Misreading (Command × Cursor) :=
  match fuel with
  | 0 => cursor.fail .tooDeep
  | fuel + 1 => do
    match ← cursor.next with
    | (.word subject, cursor) =>
      let line := cursor.line
      let cursor ← skipNewlines (cursor.rest.length + 1) cursor
      let cursor ← expectWord "in" cursor
      let (branches, cursor) ← readBranches fuel cursor
      return (.choice line subject branches, cursor)
    | (token, behind) => behind.fail (.unexpected token.display (some "word"))

/-- Reads the branches of a choice up to and with `esac`. -/
def readBranches (fuel : Nat) (cursor : Cursor) :
    Except Misreading (List (List Word × Command) × Cursor) :=
  match fuel with
  | 0 => cursor.fail .tooDeep
  | fuel + 1 => do
    let cursor ← skipNewlines (cursor.rest.length + 1) cursor
    let (token, behind) ← cursor.next
    if reservedWord? token = some "esac" then return ([], behind)
    let cursor := match token with
      | .operator "(" => behind
      | _ => cursor
    let (patterns, cursor) ← readPatterns (cursor.rest.length + 1) cursor
    let (body, cursor) ← readList fuel cursor
    let cursor ← skipNewlines (cursor.rest.length + 1) cursor
    let (token, behind) ← cursor.next
    match token with
    | .operator ";;" =>
      let (others, cursor) ← readBranches fuel behind
      return ((patterns, body) :: others, cursor)
    | token =>
      if reservedWord? token = some "esac" then return ([(patterns, body)], behind)
      else behind.fail (.unexpected token.display (some "\";;\""))

end

/-! ## Complete commands -/

/-- What comes next in a script. -/
inductive Reading where
  /-- A command, and what is left behind it. -/
  | command (command : Command) (behind : Cursor)
  /-- Nothing more. -/
  | finished
  /-- Something that is no command. -/
  | faulty (misreading : Misreading)

/-- Reads the commands on one line; `fuel` bounds their number. -/
def readLine (limit : Nat) : (fuel : Nat) → Cursor → Except Misreading (Command × Cursor)
  | 0, cursor => cursor.fail .tooDeep
  | fuel + 1, cursor => do
    let (first, cursor) ← readAndOr limit cursor
    let (token, behind) ← cursor.next
    let further (first : Command) : Except Misreading (Command × Cursor) := do
      match ← behind.next with
      | (.newline, behind) => return (first, behind)
      | (.endOfFile, behind) => return (first, behind)
      | _ =>
        let (rest, cursor) ← readLine limit fuel behind
        return (.sequence first rest, cursor)
    match token with
    | .newline => return (first, behind)
    | .endOfFile => return (first, behind)
    | .operator ";" => further first
    | .operator "&" => further (.background first)
    | token => behind.fail (.unexpected token.display none)

/-- Reads one complete command. -/
def readComplete (cursor : Cursor) : Reading :=
  let limit := 12 * cursor.rest.length + 24
  match skipNewlines (cursor.rest.length + 1) cursor with
  | .error misreading => .faulty misreading
  | .ok cursor =>
    match cursor.next with
    | .error misreading => .faulty misreading
    | .ok (.endOfFile, _) => .finished
    | .ok _ =>
      match readLine limit (cursor.rest.length + 1) cursor with
      | .ok (command, behind) => .command command behind
      | .error misreading => .faulty misreading

end BuildMonitor.Script
