import BuildMonitor.Script.Arithmetic

/-!
# Conditions

`test`, also written as a bracket, compares texts and integers and asks about files. Its arguments
are read by their number first: one is a text that may be empty, two are a question, three a
comparison. Only longer ones are read as an expression.

Main definitions: `judge`, `ConditionFault`.
-/

namespace BuildMonitor.Script

/-- Why a condition has no answer. -/
inductive ConditionFault where
  | missingBracket
  /-- An operator stands at the end. -/
  | argumentExpected (operator : Octets)
  /-- A parenthesis is not closed. -/
  | closingExpected
  | unexpectedOperator (text : Octets)
  | notNumber (text : Octets)
  deriving DecidableEq, Repr

/-- The words for why a condition has no answer. -/
def ConditionFault.message : ConditionFault → String
  | .missingBracket => "missing ]"
  | .argumentExpected operator => s!"{operator.toText}: argument expected"
  | .closingExpected => "closing paren expected"
  | .unexpectedOperator text => s!"{text.toText}: unexpected operator"
  | .notNumber text => s!"Illegal number: {text.toText}"

/-- The answer to a condition. -/
abbrev Judgement := Except ConditionFault Bool

/-- Whether a text is an operator that asks about one text. -/
def isQuestion (text : Octets) : Bool :=
  match text with
  | ['-', letter] => "bcdefghknprstuwxzLOGS".toList.contains letter
  | _ => false

/-- The integer that a text is. -/
def wholeNumber (text : Octets) : Except ConditionFault Int :=
  let isBlank (character : Char) := [' ', '\t', '\n'].contains character
  let trimmed := ((text.dropWhile isBlank).reverse.dropWhile isBlank).reverse
  let (negative, digits) := match trimmed with
    | '-' :: digits => (true, digits)
    | '+' :: digits => (false, digits)
    | digits => (false, digits)
  match numberIn? 10 digits with
  | some value => .ok (if negative then -(value : Int) else value)
  | none => .error (.notNumber text)

/-- Answers a question about one text. `about` answers those about files. -/
def askOne (about : Char → Octets → Bool) (question text : Octets) : Bool :=
  match question with
  | ['-', 'n'] => !text.isEmpty
  | ['-', 'z'] => text.isEmpty
  | ['-', 't'] => false
  | ['-', letter] => about letter text
  | _ => false

/-- The answer to a comparison; `none` if the middle is no operator. -/
def compareTwo? (first operator second : Octets) : Option Judgement :=
  let numbers (holds : Int → Int → Bool) : Judgement := do
    return holds (← wholeNumber first) (← wholeNumber second)
  match String.ofList operator with
  | "=" => some (.ok (first == second))
  | "!=" => some (.ok (first != second))
  | "<" => some (.ok (first < second))
  | ">" => some (.ok (second < first))
  | "-eq" => some (numbers (· == ·))
  | "-ne" => some (numbers (· != ·))
  | "-lt" => some (numbers (· < ·))
  | "-le" => some (numbers (· ≤ ·))
  | "-gt" => some (numbers (· > ·))
  | "-ge" => some (numbers (· ≥ ·))
  | _ => none

/-- An answer with the arguments behind what was asked. -/
abbrev Judged := Except ConditionFault (Bool × List Octets)

mutual

/-- Answers conditions joined by `-o`. `fuel` bounds the depth. -/
def judgeEither (fuel : Nat) (about : Char → Octets → Bool) (arguments : List Octets) : Judged :=
  match fuel with
  | 0 => .error .closingExpected
  | fuel + 1 => do
    let (first, rest) ← judgeBoth fuel about arguments
    match rest with
    | ['-', 'o'] :: rest =>
      let (second, rest) ← judgeEither fuel about rest
      return (first || second, rest)
    | rest => return (first, rest)

/-- Answers conditions joined by `-a`. -/
def judgeBoth (fuel : Nat) (about : Char → Octets → Bool) (arguments : List Octets) : Judged :=
  match fuel with
  | 0 => .error .closingExpected
  | fuel + 1 => do
    let (first, rest) ← judgeNegated fuel about arguments
    match rest with
    | ['-', 'a'] :: rest =>
      let (second, rest) ← judgeBoth fuel about rest
      return (first && second, rest)
    | rest => return (first, rest)

/-- Answers a condition that may be negated. -/
def judgeNegated (fuel : Nat) (about : Char → Octets → Bool) (arguments : List Octets) : Judged :=
  match fuel with
  | 0 => .error .closingExpected
  | fuel + 1 =>
    match arguments with
    | ['!'] :: rest => do
      let (answer, rest) ← judgeNegated fuel about rest
      return (!answer, rest)
    | arguments => judgeSingle fuel about arguments

/-- Answers a comparison, a question, a text, or what stands in parentheses. -/
def judgeSingle (fuel : Nat) (about : Char → Octets → Bool) (arguments : List Octets) : Judged :=
  match fuel with
  | 0 => .error .closingExpected
  | fuel + 1 =>
    match arguments with
    | [] => .ok (false, [])
    | first :: operator :: second :: rest =>
      match compareTwo? first operator second with
      | some judgement => judgement.map fun answer => (answer, rest)
      | none => judgePlain fuel about first (operator :: second :: rest)
    | first :: rest => judgePlain fuel about first rest

/-- Answers what is no comparison. -/
def judgePlain (fuel : Nat) (about : Char → Octets → Bool) (first : Octets)
    (rest : List Octets) : Judged :=
  match fuel with
  | 0 => .error .closingExpected
  | fuel + 1 =>
    if first = ['('] then do
      let (answer, rest) ← judgeEither fuel about rest
      match rest with
      | [')'] :: rest => return (answer, rest)
      | _ => throw .closingExpected
    else if isQuestion first then
      match rest with
      | text :: rest => .ok (askOne about first text, rest)
      | [] => .ok (true, [])
    else
      match rest with
      | [operator] =>
        if (compareTwo? first operator []).isSome then .error (.argumentExpected operator)
        else .ok (!first.isEmpty, rest)
      | _ => .ok (!first.isEmpty, rest)

end

/-- Answers a condition. -/
def judge (about : Char → Octets → Bool) (arguments : List Octets) : Judgement :=
  match arguments with
  | [] => .ok false
  | [text] => .ok (!text.isEmpty)
  | arguments => do
    let (answer, rest) ← judgeEither (8 * arguments.length + 8) about arguments
    if rest.isEmpty then return answer
    else
      let taken := arguments.take (arguments.length - rest.length)
      throw (.unexpectedOperator (taken.getLast?.getD []))

/-- Answers a condition between brackets, of which the closing one is the last argument. -/
def judgeBracketed (about : Char → Octets → Bool) (arguments : List Octets) : Judgement :=
  if arguments.getLast? = some [']'] then judge about arguments.dropLast
  else .error .missingBracket

end BuildMonitor.Script
