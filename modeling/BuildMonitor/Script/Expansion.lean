import BuildMonitor.Script.Arithmetic
import BuildMonitor.Script.Command
import BuildMonitor.Script.Glob
import BuildMonitor.Script.Scope

/-!
# Expansion

When a command runs its words are expanded: parameters and expressions give way to their values,
the result is split into fields where an unquoted value holds separators, and fields that are
patterns give way to the paths they match. What was quoted is kept as it is, and a field in which
anything was quoted is kept even when it is empty.

The outputs of commands have been put in beforehand; `firstOutput?` finds the next command to run.

Main definitions: `expandFields`, `expandText`, `firstOutput?`, `putOutput`.
-/

namespace BuildMonitor.Script

/-- Why a word cannot be expanded. -/
inductive ExpansionFault where
  /-- A parameter is missing that must be there. -/
  | missing (name text : Octets)
  | arithmetic (fault : ArithmeticFault)
  /-- Something in braces is no substitution. -/
  | badSubstitution
  deriving DecidableEq, Repr

/-- The words for why a word cannot be expanded. -/
def ExpansionFault.message : ExpansionFault → String
  | .missing name text => s!"{name.toText}: {text.toText}"
  | .arithmetic fault => fault.message
  | .badSubstitution => "Bad substitution"

/-- A piece of an expanded word. -/
inductive Piece where
  /-- A character; `expanded` says that it comes from a value. -/
  | character (character : Char) (quoted expanded : Bool)
  /-- The place of something quoted. -/
  | mark
  /-- The place between two arguments. -/
  | parting
  deriving DecidableEq, Repr

/-- The pieces of a value. -/
def valuePieces (quoted : Bool) (value : Octets) : List Piece :=
  let characters := value.map fun character => Piece.character character quoted true
  if quoted then .mark :: characters else characters

/-- The pieces of a literal. -/
def literalPieces (quoted : Bool) (text : Octets) : List Piece :=
  let characters := text.map fun character => Piece.character character quoted false
  if quoted then .mark :: characters else characters

/-- The pieces of all arguments, each a field of its own. -/
def argumentPieces (quoted : Bool) (arguments : List Octets) : List Piece :=
  Text.joinWith [Piece.parting] (arguments.map (valuePieces quoted))

/-- The characters of pieces. -/
def plainText (pieces : List Piece) : Octets :=
  pieces.filterMap fun piece =>
    match piece with
    | .character character _ _ => some character
    | .mark => none
    | .parting => some ' '

/-- The characters of pieces with whether they were quoted. -/
def markedText (pieces : List Piece) : List Marked :=
  pieces.filterMap fun piece =>
    match piece with
    | .character character quoted _ => some (character, quoted)
    | .mark => none
    | .parting => some (' ', false)

/-- Pieces with the variables after them. -/
abbrev Expanding := Except ExpansionFault (List Piece × Scope)

/-- The words for a parameter that is not set. -/
def unsetText : Octets := "parameter not set".toList

/-- The pieces of a parameter without an operator. -/
def parameterPieces (quoted : Bool) (name : Octets) (scope : Scope) : Expanding :=
  match name with
  | ['@'] => .ok (argumentPieces quoted scope.arguments, scope)
  | ['*'] =>
    if quoted then
      let joined := Text.joinWith (scope.separators.take 1) scope.arguments
      .ok (valuePieces true joined, scope)
    else .ok (argumentPieces false scope.arguments, scope)
  | name =>
    match scope.get? name with
    | some value => .ok (valuePieces quoted value, scope)
    | none => if scope.strict then .error (.missing name unsetText) else
        .ok (valuePieces quoted [], scope)

/-- The value of a parameter as one text, if it is there. -/
def wholeValue? (name : Octets) (scope : Scope) : Option Octets :=
  match name with
  | ['@'] => if scope.arguments.isEmpty then none else some (Text.joinWith [' '] scope.arguments)
  | ['*'] => if scope.arguments.isEmpty then none else some (Text.joinWith [' '] scope.arguments)
  | name => scope.get? name

/-- Whether a value counts as missing. -/
def countsAsMissing (orEmpty : Bool) (value : Option Octets) : Bool :=
  match value with
  | none => true
  | some text => orEmpty && text.isEmpty

mutual

/-- The pieces of a part. -/
def partPieces : Part → Scope → Expanding
  | .literal quoted text, scope => .ok (literalPieces quoted text, scope)
  | .captured quoted text, scope => .ok (valuePieces quoted text, scope)
  | .output quoted _, scope => .ok (valuePieces quoted [], scope)
  | .arithmetic quoted body, scope => do
    let (pieces, scope) ← wordPieces body scope
    match evaluate (fun name => (scope.get? name).getD []) (plainText pieces) with
    | .error fault => throw (.arithmetic fault)
    | .ok (value, assigned) =>
      let scope := assigned.foldl (fun scope given =>
        scope.set given.1 (Octets.ofInt given.2)) scope
      return (valuePieces quoted (Octets.ofInt value), scope)
  | .parameter quoted name none _, scope => parameterPieces quoted name scope
  | .parameter quoted name (some operator) word, scope =>
    let value := wholeValue? name scope
    let demanded : Except ExpansionFault Octets :=
      match value with
      | some text => .ok text
      | none => if scope.strict then .error (.missing name unsetText) else .ok []
    match operator with
    | .unknown => .error .badSubstitution
    | .length => do
      let text ← demanded
      return (valuePieces quoted (Octets.ofNat text.length), scope)
    | .fallback orEmpty =>
      if countsAsMissing orEmpty value then wordPieces word scope
      else parameterPieces quoted name scope
    | .assign orEmpty =>
      if countsAsMissing orEmpty value then do
        let (pieces, scope) ← wordPieces word scope
        let text := plainText pieces
        return (valuePieces quoted text, scope.set name text)
      else parameterPieces quoted name scope
    | .demand orEmpty =>
      if countsAsMissing orEmpty value then do
        let (pieces, _) ← wordPieces word scope
        let text := plainText pieces
        throw (.missing name (if word.isEmpty then unsetText else text))
      else parameterPieces quoted name scope
    | .alternative orEmpty =>
      if countsAsMissing orEmpty value then .ok (valuePieces quoted [], scope)
      else wordPieces word scope
    | .trimStart longest => do
      let text ← demanded
      let (pieces, scope) ← wordPieces word scope
      return (valuePieces quoted (trimmedStart longest (Glob.ofMarked (markedText pieces)) text), scope)
    | .trimEnd longest => do
      let text ← demanded
      let (pieces, scope) ← wordPieces word scope
      return (valuePieces quoted (trimmedEnd longest (Glob.ofMarked (markedText pieces)) text), scope)

/-- The pieces of a word. -/
def wordPieces : List Part → Scope → Expanding
  | [], scope => .ok ([], scope)
  | part :: rest, scope => do
    let (first, scope) ← partPieces part scope
    let (others, scope) ← wordPieces rest scope
    return (first ++ others, scope)

end

/-! ## Fields -/

/-- Fields that are being split off: those that are complete, latest first, and the open one,
reversed. -/
structure Splitting where
  complete : List (List Marked)
  current : Option (List Marked)

/-- Ends the open field, if there is one. -/
def Splitting.close (state : Splitting) : Splitting :=
  match state.current with
  | none => state
  | some field => ⟨field.reverse :: state.complete, none⟩

/-- Takes one piece. A separator that is no blank ends a field even where nothing stands. -/
def Splitting.push (separators : Octets) (state : Splitting) (piece : Piece) : Splitting :=
  match piece with
  | .mark => { state with current := some (state.current.getD []) }
  | .parting => state.close
  | .character character quoted expanded =>
    if expanded && !quoted && separators.contains character then
      if [' ', '\t', '\n'].contains character then state.close
      else ⟨((state.current.getD []).reverse) :: state.complete, none⟩
    else { state with current := some ((character, quoted) :: state.current.getD []) }

/-- The fields of pieces. -/
def fieldsOf (separators : Octets) (pieces : List Piece) : List (List Marked) :=
  ((pieces.foldl (Splitting.push separators) ⟨[], none⟩).close).complete.reverse

/-- Expands words to fields. -/
def expandFields (listing : Listing) :
    List Word → Scope → Except ExpansionFault (List Octets × Scope)
  | [], scope => .ok ([], scope)
  | word :: rest, scope => do
    let (pieces, scope) ← wordPieces word scope
    let fields := (fieldsOf scope.separators pieces).flatMap (pathsOf listing)
    let (others, scope) ← expandFields listing rest scope
    return (fields ++ others, scope)

/-- Expands a word to one text. -/
def expandText (word : Word) (scope : Scope) : Except ExpansionFault (Octets × Scope) :=
  (wordPieces word scope).map fun expanded => (plainText expanded.1, expanded.2)

/-- Expands a word to a pattern. -/
def expandPattern (word : Word) (scope : Scope) : Except ExpansionFault (List Glob × Scope) :=
  (wordPieces word scope).map fun expanded => (Glob.ofMarked (markedText expanded.1), expanded.2)

/-! ## Outputs of commands -/

mutual

/-- The first command in a part whose output is wanted, and the part as it is with that output. -/
def outputInPart? : Part → Option (Octets × (Octets → Part))
  | .output quoted source => some (source, fun text => .captured quoted text)
  | .arithmetic quoted body =>
    (firstOutput? body).map fun found => (found.1, fun text => .arithmetic quoted (found.2 text))
  | .parameter quoted name operator word =>
    (firstOutput? word).map fun found =>
      (found.1, fun text => .parameter quoted name operator (found.2 text))
  | _ => none

/-- The first command in a word whose output is wanted, and the word as it is with that output. -/
def firstOutput? : List Part → Option (Octets × (Octets → List Part))
  | [] => none
  | part :: rest =>
    match outputInPart? part with
    | some found => some (found.1, fun text => found.2 text :: rest)
    | none => (firstOutput? rest).map fun found => (found.1, fun text => part :: found.2 text)

end

/-- The first command in some words whose output is wanted, and the words with it. -/
def outputInWords? : List Word → Option (Octets × (Octets → List Word))
  | [] => none
  | word :: rest =>
    match firstOutput? word with
    | some found => some (found.1, fun text => found.2 text :: rest)
    | none => (outputInWords? rest).map fun found => (found.1, fun text => word :: found.2 text)

/-- The same for the targets of redirections. -/
def outputInRedirects? (redirects : List Redirect) :
    Option (Octets × (Octets → List Redirect)) :=
  (outputInWords? (redirects.map Redirect.target)).map fun found =>
    (found.1, fun text =>
      (redirects.zip (found.2 text)).map fun (redirect, target) =>
        { redirect with target := target })

/-- The same for the values of assignments. -/
def outputInAssignments? (assignments : List (Octets × Word)) :
    Option (Octets × (Octets → List (Octets × Word))) :=
  (outputInWords? (assignments.map (·.2))).map fun found =>
    (found.1, fun text =>
      (assignments.zip (found.2 text)).map fun (given, value) => (given.1, value))

/-- The command whose output a command waits for before it can run, and the command as it is with
that output. -/
def awaitedOutput? : Command → Option (Octets × (Octets → Command))
  | .simple line assignments words redirects =>
    match outputInWords? words with
    | some found => some (found.1, fun text => .simple line assignments (found.2 text) redirects)
    | none =>
      match outputInRedirects? redirects with
      | some found => some (found.1, fun text => .simple line assignments words (found.2 text))
      | none =>
        (outputInAssignments? assignments).map fun found =>
          (found.1, fun text => .simple line (found.2 text) words redirects)
  | .redirected line body redirects =>
    (outputInRedirects? redirects).map fun found =>
      (found.1, fun text => .redirected line body (found.2 text))
  | .each line name words body =>
    (outputInWords? words).map fun found =>
      (found.1, fun text => .each line name (found.2 text) body)
  | .choice line subject branches =>
    (firstOutput? subject).map fun found =>
      (found.1, fun text => .choice line (found.2 text) branches)
  | _ => none

end BuildMonitor.Script
