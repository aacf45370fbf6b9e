import BuildMonitor.Script.Word
import BuildMonitor.Text.Integer

/-!
# Arithmetic in scripts

Expressions are over integers of 64 bits, which wrap around. A name stands for the number that the
variable holds, and may be assigned to.

Main definitions: `evaluate`, `ArithmeticFault`.
-/

namespace BuildMonitor.Script

open BuildMonitor.Text

/-- Why an expression has no value. -/
inductive ArithmeticFault where
  /-- Something else is wanted where the text goes on or ends. -/
  | expecting (wanted : String) (text : Octets)
  | notNumber (text : Octets)
  | divisionByZero (text : Octets)
  deriving DecidableEq, Repr

/-- The words for why an expression has no value. -/
def ArithmeticFault.message : ArithmeticFault → String
  | .expecting wanted text => s!"arithmetic expression: expecting {wanted}: \"{text.toText}\""
  | .notNumber text => s!"Illegal number: {text.toText}"
  | .divisionByZero text => s!"arithmetic expression: division by zero: \"{text.toText}\""

/-- Brings an integer into the range of 64 bits. -/
def wrapped (value : Int) : Int := value.bmod UInt64.size

/-- The value of a digit in bases up to sixteen. -/
def digitIn? (base : Nat) (character : Char) : Option Nat :=
  let value? :=
    if '0' ≤ character ∧ character ≤ '9' then some (character.toNat - '0'.toNat)
    else if 'a' ≤ character ∧ character ≤ 'f' then some (character.toNat - 'a'.toNat + 10)
    else if 'A' ≤ character ∧ character ≤ 'F' then some (character.toNat - 'A'.toNat + 10)
    else none
  value?.filter (· < base)

/-- The number that digits in a base make up. -/
def numberIn? (base : Nat) (digits : Octets) : Option Nat :=
  if digits.isEmpty then none
  else digits.foldlM (fun value digit => (digitIn? base digit).map (value * base + ·)) 0

/-- The number that a constant is: decimal, octal behind a zero, hexadecimal behind `0x`. -/
def constant? : Octets → Option Nat
  | '0' :: 'x' :: digits => numberIn? 16 digits
  | '0' :: 'X' :: digits => numberIn? 16 digits
  | '0' :: digit :: digits => numberIn? 8 (digit :: digits)
  | digits => numberIn? 10 digits

/-- The integer that a value holds; an empty one holds zero. -/
def integerOf? (text : Octets) : Option Int :=
  let trimmed := (text.dropWhile (· == ' ')).reverse.dropWhile (· == ' ') |>.reverse
  match trimmed with
  | [] => some 0
  | '-' :: digits => (constant? digits).map fun value => -(value : Int)
  | '+' :: digits => (constant? digits).map fun value => (value : Int)
  | digits => (constant? digits).map fun value => (value : Int)

/-! ## Symbols -/

/-- A symbol of an expression. -/
inductive Symbol where
  | number (value : Int)
  | name (name : Octets)
  | operator (text : String)
  /-- Something that is none; what stands behind it is not looked at. -/
  | unknown
  deriving DecidableEq, Repr

/-- The operators, longer ones before those they start with. -/
def arithmeticOperators : List String :=
  ["<<=", ">>=", "<<", ">>", "<=", ">=", "==", "!=", "&&", "||", "+=", "-=", "*=", "/=", "%=",
   "&=", "|=", "^=", "+", "-", "*", "/", "%", "<", ">", "=", "!", "~", "&", "|", "^", "(", ")",
   "?", ":"]

/-- The operator that an assignment applies first, if a symbol is such an assignment. -/
def appliedFirst? : String → Option String
  | "<<=" => some "<<"
  | ">>=" => some ">>"
  | "+=" => some "+"
  | "-=" => some "-"
  | "*=" => some "*"
  | "/=" => some "/"
  | "%=" => some "%"
  | "&=" => some "&"
  | "|=" => some "|"
  | "^=" => some "^"
  | _ => none

/-- The longest constant at the start of a text, and the text behind it. -/
def splitConstant (text : Octets) : Octets × Octets :=
  let digitsOf (base : Nat) (text : Octets) := text.takeWhile fun c => (digitIn? base c).isSome
  let constant := match text with
    | '0' :: 'x' :: rest =>
      if (digitsOf 16 rest).isEmpty then ['0'] else '0' :: 'x' :: digitsOf 16 rest
    | '0' :: 'X' :: rest =>
      if (digitsOf 16 rest).isEmpty then ['0'] else '0' :: 'X' :: digitsOf 16 rest
    | '0' :: rest => '0' :: digitsOf 8 rest
    | text => digitsOf 10 text
  (constant, text.drop constant.length)

/-- The symbols of an expression. `fuel` bounds its characters. -/
def symbolsOf : (fuel : Nat) → Octets → List Symbol
  | 0, _ => []
  | _, [] => []
  | fuel + 1, character :: rest =>
    if [' ', '\t', '\n'].contains character then symbolsOf fuel rest
    else if startsName character then
      .name (character :: rest.takeWhile isNameCharacter) ::
        symbolsOf fuel (rest.dropWhile isNameCharacter)
    else if character.isDigit then
      let (constant, behind) := splitConstant (character :: rest)
      .number ((constant? constant).getD 0) :: symbolsOf fuel behind
    else
      let text := character :: rest
      match arithmeticOperators.find? fun operator => operator.toList.isPrefixOf text with
      | some operator => .operator operator :: symbolsOf fuel (text.drop operator.length)
      | none => [.unknown]

/-! ## Values -/

/-- The variables as an expression sees and leaves them: those it has assigned to come first. While
it is idle, an expression is only read. -/
structure Sheet where
  assigned : List (Octets × Int)
  held : Octets → Octets
  idle : Bool

/-- The value of a variable. -/
def Sheet.value (sheet : Sheet) (name : Octets) : Except ArithmeticFault Int :=
  match sheet.assigned.lookup name with
  | some value => .ok value
  | none =>
    let text := sheet.held name
    match integerOf? text with
    | some value => .ok value
    | none => if sheet.idle then .ok 0 else .error (.notNumber text)

/-- Sets a variable. -/
def Sheet.assign (sheet : Sheet) (name : Octets) (value : Int) : Sheet :=
  if sheet.idle then sheet else { sheet with assigned := (name, value) :: sheet.assigned }

/-- How tightly an operator between two operands binds. -/
def precedence? : String → Option Nat
  | "||" => some 1
  | "&&" => some 2
  | "|" => some 3
  | "^" => some 4
  | "&" => some 5
  | "==" => some 6
  | "!=" => some 6
  | "<" => some 7
  | "<=" => some 7
  | ">" => some 7
  | ">=" => some 7
  | "<<" => some 8
  | ">>" => some 8
  | "+" => some 9
  | "-" => some 9
  | "*" => some 10
  | "/" => some 10
  | "%" => some 10
  | _ => none

/-- A truth value as a number. -/
def truth (holds : Bool) : Int := if holds then 1 else 0

/-- Applies a bitwise operation to the 64 bits of two integers. -/
def bitwise (apply : Nat → Nat → Nat) (first second : Int) : Int :=
  wrapped (apply (first % UInt64.size).toNat (second % UInt64.size).toNat : Nat)

/-- The value of two operands with an operator between them. -/
def combine (text : Octets) (operator : String) (first second : Int) :
    Except ArithmeticFault Int :=
  match operator with
  | "||" => .ok (truth (first != 0 || second != 0))
  | "&&" => .ok (truth (first != 0 && second != 0))
  | "|" => .ok (bitwise Nat.lor first second)
  | "^" => .ok (bitwise Nat.xor first second)
  | "&" => .ok (bitwise Nat.land first second)
  | "==" => .ok (truth (first = second))
  | "!=" => .ok (truth (first != second))
  | "<" => .ok (truth (first < second))
  | "<=" => .ok (truth (first ≤ second))
  | ">" => .ok (truth (second < first))
  | ">=" => .ok (truth (second ≤ first))
  | "<<" => .ok (wrapped (first * (1 <<< (second % 64).toNat : Nat)))
  | ">>" => .ok (Int.fdiv first (1 <<< (second % 64).toNat : Nat))
  | "+" => .ok (wrapped (first + second))
  | "-" => .ok (wrapped (first - second))
  | "*" => .ok (wrapped (first * second))
  | "/" => if second = 0 then .error (.divisionByZero text) else .ok (wrapped (first.tdiv second))
  | "%" => if second = 0 then .error (.divisionByZero text) else .ok (first.tmod second)
  | _ => .error (.expecting "EOF" text)

/-- A value with the variables after it and the symbols behind it. -/
structure Valued where
  value : Int
  sheet : Sheet
  rest : List Symbol

/-- The value of two operands in an expression that may be idle. -/
def Sheet.combine (sheet : Sheet) (text : Octets) (operator : String) (first second : Int) :
    Except ArithmeticFault Int :=
  if sheet.idle then .ok 0 else Script.combine text operator first second

/-- Whether the first operand alone decides. -/
def isDecided (operator : String) (first : Int) : Bool :=
  match operator with
  | "&&" => first = 0
  | "||" => first != 0
  | _ => false

mutual

/-- Evaluates an expression. `text` is the whole of it, for messages; `fuel` bounds the depth. -/
def evaluateAll (fuel : Nat) (text : Octets) (sheet : Sheet) (symbols : List Symbol) :
    Except ArithmeticFault Valued :=
  match fuel with
  | 0 => .error (.expecting "primary" text)
  | fuel + 1 =>
    match symbols with
    | .name name :: .operator "=" :: rest => do
      let right ← evaluateAll fuel text sheet rest
      return { right with sheet := right.sheet.assign name right.value }
    | .name name :: .operator operator :: rest =>
      match appliedFirst? operator with
      | some applied => do
        let right ← evaluateAll fuel text sheet rest
        let held ← right.sheet.value name
        let value ← right.sheet.combine text applied held right.value
        return { right with value := value, sheet := right.sheet.assign name value }
      | none => evaluateChoice fuel text sheet symbols
    | symbols => evaluateChoice fuel text sheet symbols

/-- Evaluates a choice by a question mark, or what stands before one. -/
def evaluateChoice (fuel : Nat) (text : Octets) (sheet : Sheet) (symbols : List Symbol) :
    Except ArithmeticFault Valued :=
  match fuel with
  | 0 => .error (.expecting "primary" text)
  | fuel + 1 => do
    let condition ← evaluateAbove fuel text sheet 1 symbols
    match condition.rest with
    | .operator "?" :: rest =>
      let idle := condition.sheet.idle
      let chosen := condition.value != 0
      let positive ← evaluateAll fuel text
        { condition.sheet with idle := idle || !chosen } rest
      match positive.rest with
      | .operator ":" :: rest =>
        let negative ← evaluateChoice fuel text { positive.sheet with idle := idle || chosen } rest
        return ⟨if chosen then positive.value else negative.value,
          { negative.sheet with idle := idle }, negative.rest⟩
      | _ => throw (.expecting "':'" text)
    | _ => return condition

/-- Evaluates operands joined by operators that bind at least as tightly as `level`. -/
def evaluateAbove (fuel : Nat) (text : Octets) (sheet : Sheet) (level : Nat)
    (symbols : List Symbol) : Except ArithmeticFault Valued :=
  match fuel with
  | 0 => .error (.expecting "primary" text)
  | fuel + 1 => do
    let first ← evaluateOperand fuel text sheet symbols
    evaluateBehind fuel text level first

/-- Evaluates what is joined to an operand, from the left. -/
def evaluateBehind (fuel : Nat) (text : Octets) (level : Nat) (first : Valued) :
    Except ArithmeticFault Valued :=
  match fuel with
  | 0 => .error (.expecting "primary" text)
  | fuel + 1 =>
    match first.rest with
    | .operator operator :: rest =>
      match precedence? operator with
      | none => .ok first
      | some binding =>
        if binding < level then .ok first
        else do
          let idle := first.sheet.idle
          let decided := isDecided operator first.value
          let second ← evaluateAbove fuel text { first.sheet with idle := idle || decided }
            (binding + 1) rest
          let sheet := { second.sheet with idle := idle }
          let value ← if decided then pure (truth (operator = "||"))
            else sheet.combine text operator first.value second.value
          evaluateBehind fuel text level ⟨value, sheet, second.rest⟩
    | _ => .ok first

/-- Evaluates one operand. -/
def evaluateOperand (fuel : Nat) (text : Octets) (sheet : Sheet) (symbols : List Symbol) :
    Except ArithmeticFault Valued :=
  match fuel with
  | 0 => .error (.expecting "primary" text)
  | fuel + 1 =>
    match symbols with
    | .number value :: rest => .ok ⟨wrapped value, sheet, rest⟩
    | .name name :: rest => (sheet.value name).map fun value => ⟨value, sheet, rest⟩
    | .operator "(" :: rest => do
      let inner ← evaluateAll fuel text sheet rest
      match inner.rest with
      | .operator ")" :: rest => return { inner with rest := rest }
      | _ => throw (.expecting "')'" text)
    | .operator "-" :: rest => do
      let operand ← evaluateOperand fuel text sheet rest
      return { operand with value := wrapped (-operand.value) }
    | .operator "+" :: rest => evaluateOperand fuel text sheet rest
    | .operator "!" :: rest => do
      let operand ← evaluateOperand fuel text sheet rest
      return { operand with value := truth (operand.value = 0) }
    | .operator "~" :: rest => do
      let operand ← evaluateOperand fuel text sheet rest
      return { operand with value := -operand.value - 1 }
    | _ => .error (.expecting "primary" text)

end

/-- Evaluates an expression over the values that variables hold; gives the value and the variables
that were assigned to, oldest first. -/
def evaluate (held : Octets → Octets) (text : Octets) :
    Except ArithmeticFault (Int × List (Octets × Int)) :=
  match symbolsOf (text.length + 1) text with
  | [] => .ok (0, [])
  | symbols => do
    let result ← evaluateAll (12 * symbols.length + 24) text ⟨[], held, false⟩ symbols
    if result.rest.isEmpty then return (result.value, result.sheet.assigned.reverse)
    else throw (.expecting "EOF" text)

end BuildMonitor.Script
