import BuildMonitor.Script.Arithmetic
import BuildMonitor.Text.Integer
import BuildMonitor.Text.Split

/-!
# What scripts print

`echo` writes its arguments with spaces between them, and `printf` writes a format with its
arguments put in, over and over until they are used up. Both understand escapes by a backslash.

Main definitions: `echoText`, `printfText`.
-/

namespace BuildMonitor.Script

open BuildMonitor.Text

/-- Up to some octal digits at the start of a text. -/
def octalDigits (count : Nat) (text : Octets) : List Nat :=
  ((text.take count).takeWhile fun character => '0' ≤ character && character ≤ '7').filterMap
    digitValue?

/-- The byte that octal digits make up. -/
def byteOf (digits : List Nat) : Char :=
  Char.ofNat (digits.foldl (fun value digit => value * 8 + digit) 0 % 256)

/-- The character of a letter behind a backslash. -/
def escapeOf? : Char → Option Char
  | 'a' => some '\x07'
  | 'b' => some '\x08'
  | 'e' => some '\x1b'
  | 'f' => some '\x0c'
  | 'n' => some '\n'
  | 'r' => some '\r'
  | 't' => some '\t'
  | 'v' => some '\x0b'
  | '\\' => some '\\'
  | _ => none

/-- Takes an escape behind its backslash: the character, and the text behind it. What is no escape
leaves the backslash. -/
def takeEscape (text : Octets) : Char × Octets :=
  match text with
  | [] => ('\\', [])
  | letter :: rest =>
    match octalDigits 3 text with
    | [] =>
      match escapeOf? letter with
      | some character => (character, rest)
      | none => ('\\', text)
    | digits => (byteOf digits, text.drop digits.length)

/-- A text with its escapes replaced, and whether one of them asks for an end. In this form a zero
may stand in front of octal digits. `fuel` bounds the characters. -/
def unescaped : (fuel : Nat) → Octets → Octets × Bool
  | 0, _ => ([], false)
  | _, [] => ([], false)
  | _ + 1, '\\' :: 'c' :: _ => ([], true)
  | fuel + 1, '\\' :: rest =>
    let digits := match rest with
      | '0' :: digit :: more => if digit.isDigit then digit :: more else rest
      | _ => rest
    let taken := takeEscape digits
    let others := unescaped fuel taken.2
    (taken.1 :: others.1, others.2)
  | fuel + 1, character :: rest =>
    let others := unescaped fuel rest
    (character :: others.1, others.2)

/-- What `echo` writes. -/
def echoText (arguments : List Octets) : Octets :=
  let silent := arguments.head? == some ['-', 'n']
  let shown := if silent then arguments.drop 1 else arguments
  let joined := joinWith [' '] shown
  let (text, ended) := unescaped (joined.length + 1) joined
  if ended || silent then text else text ++ ['\n']

/-! ## Formats -/

/-- How a value is laid out. -/
structure Layout where
  leftAligned : Bool
  zeros : Bool
  plus : Bool
  /-- A blank stands in the place of a sign. -/
  blank : Bool
  alternate : Bool
  width : Nat
  precision : Option Nat
  deriving DecidableEq, Repr

/-- Fills a text up to the width of a layout. -/
def Layout.fill (layout : Layout) (text : Octets) : Octets :=
  let missing := layout.width - text.length
  if layout.leftAligned then text ++ List.replicate missing ' '
  else List.replicate missing ' ' ++ text

/-- Lays out a text. -/
def Layout.text (layout : Layout) (text : Octets) : Octets :=
  layout.fill (match layout.precision with
    | some count => text.take count
    | none => text)

/-- Lays out digits behind a sign. -/
def Layout.digits (layout : Layout) (sign digits : Octets) : Octets :=
  match layout.precision with
  | some count => layout.fill (sign ++ List.replicate (count - digits.length) '0' ++ digits)
  | none =>
    if layout.zeros && !layout.leftAligned then
      let missing := layout.width - sign.length - digits.length
      sign ++ List.replicate missing '0' ++ digits
    else layout.fill (sign ++ digits)

/-- Lays out a signed integer. -/
def Layout.signed (layout : Layout) (value : Int) : Octets :=
  let sign := if value < 0 then ['-'] else if layout.plus then ['+']
    else if layout.blank then [' '] else []
  layout.digits sign (Octets.ofNat value.natAbs)

/-- Lays out the 64 bits of an integer as digits in a base. -/
def Layout.unsigned (layout : Layout) (base : Nat) (upper : Bool) (value : Int) : Octets :=
  let digits := Nat.toDigits base (value % UInt64.size).toNat
  let shown := if upper then digits.map Char.toUpper else digits
  let mark := if !layout.alternate || value = 0 then []
    else if base = 16 then (if upper then ['0', 'X'] else ['0', 'x'])
    else if base = 8 then ['0'] else []
  layout.digits mark shown

/-- Reads the flags of a conversion. -/
def takeFlags (layout : Layout) : Octets → Layout × Octets
  | '-' :: rest => takeFlags { layout with leftAligned := true } rest
  | '0' :: rest => takeFlags { layout with zeros := true } rest
  | '+' :: rest => takeFlags { layout with plus := true } rest
  | '#' :: rest => takeFlags { layout with alternate := true } rest
  | ' ' :: rest => takeFlags { layout with blank := true } rest
  | rest => (layout, rest)

/-- Reads a number, which may be missing. -/
def takeNumber (text : Octets) : Nat × Octets :=
  let (digits, rest) := spanDigits text
  (ofDigits digits, rest)

/-- What has been written, what arguments are left, and how it went. -/
structure PrintState where
  written : Octets
  arguments : List Octets
  complaints : List String
  status : Nat
  ended : Bool

/-- Takes the next argument; an empty one when there are none. -/
def PrintState.next (state : PrintState) : Octets × PrintState :=
  match state.arguments with
  | [] => ([], state)
  | argument :: rest => (argument, { state with arguments := rest })

/-- Writes a text. -/
def PrintState.write (state : PrintState) (text : Octets) : PrintState :=
  { state with written := state.written ++ text }

/-- The integer that the longest possible start of a text is. -/
def numericStart? (text : Octets) : Option Int :=
  ((List.range text.length).reverse.filterMap fun length =>
    if length = 0 then none else integerOf? (text.take length)).head?

/-- Takes the next argument as an integer. A quote in front of a character means its number. -/
def PrintState.nextInteger (state : PrintState) : Int × PrintState :=
  let (argument, state) := state.next
  match argument with
  | '\'' :: character :: _ => (character.toNat, state)
  | '"' :: character :: _ => (character.toNat, state)
  | argument =>
    match integerOf? argument with
    | some value => (value, state)
    | none =>
      let complain (text : String) : PrintState := { state with
        complaints := state.complaints ++ [s!"{argument.toText}: {text}"]
        status := 1 }
      match numericStart? argument with
      | some value => (value, complain "not completely converted")
      | none => (0, complain "expected numeric value")

/-- Writes one conversion. -/
def convert (layout : Layout) (conversion : Char) (state : PrintState) : PrintState :=
  match conversion with
  | 's' => let (argument, state) := state.next; state.write (layout.text argument)
  | 'c' => let (argument, state) := state.next; state.write (layout.fill (argument.take 1))
  | 'b' =>
    let (argument, state) := state.next
    let (text, ended) := unescaped (argument.length + 1) argument
    { state.write (layout.text text) with ended := ended }
  | 'd' => let (value, state) := state.nextInteger; state.write (layout.signed value)
  | 'i' => let (value, state) := state.nextInteger; state.write (layout.signed value)
  | 'u' => let (value, state) := state.nextInteger; state.write (layout.unsigned 10 false value)
  | 'o' => let (value, state) := state.nextInteger; state.write (layout.unsigned 8 false value)
  | 'x' => let (value, state) := state.nextInteger; state.write (layout.unsigned 16 false value)
  | 'X' => let (value, state) := state.nextInteger; state.write (layout.unsigned 16 true value)
  | other =>
    { state with
      ended := true
      status := 2
      complaints := state.complaints ++ [s!"%{other}: invalid directive"] }

/-- Writes a format once. `fuel` bounds its characters. -/
def formatOnce : (fuel : Nat) → Octets → PrintState → PrintState
  | 0, _, state => state
  | _, [], state => state
  | fuel + 1, '\\' :: rest, state =>
    let (character, behind) := takeEscape rest
    formatOnce fuel behind (state.write [character])
  | fuel + 1, '%' :: '%' :: rest, state => formatOnce fuel rest (state.write ['%'])
  | fuel + 1, '%' :: rest, state =>
    let (layout, rest) := takeFlags ⟨false, false, false, false, false, 0, none⟩ rest
    let (layout, rest, state) := match rest with
      | '*' :: rest =>
        let (width, state) := state.nextInteger
        ({ layout with
          leftAligned := layout.leftAligned || width < 0
          width := width.natAbs }, rest, state)
      | rest =>
        let (width, rest) := takeNumber rest
        ({ layout with width := width }, rest, state)
    let (layout, rest, state) := match rest with
      | '.' :: '*' :: rest =>
        let (count, state) := state.nextInteger
        ({ layout with precision := some count.toNat }, rest, state)
      | '.' :: rest =>
        let (count, rest) := takeNumber rest
        ({ layout with precision := some count }, rest, state)
      | rest => (layout, rest, state)
    match rest with
    | [] =>
      { state with
        ended := true
        status := 2
        complaints := state.complaints ++ ["missing format character"] }
    | conversion :: rest =>
      let converted := convert layout conversion state
      if converted.ended then converted else formatOnce fuel rest converted
  | fuel + 1, character :: rest, state => formatOnce fuel rest (state.write [character])

/-- Writes a format until the arguments are used up. `fuel` bounds the arguments. -/
def formatAll (format : Octets) : (fuel : Nat) → PrintState → PrintState
  | 0, state => state
  | fuel + 1, state =>
    let written := formatOnce (format.length + 1) format state
    if written.ended || written.arguments.isEmpty ||
        written.arguments.length = state.arguments.length then written
    else formatAll format fuel written

/-- What `printf` writes, what it complains about, and its status. -/
def printfText (format : Octets) (arguments : List Octets) : Octets × List String × Nat :=
  let result := formatAll format (arguments.length + 1) ⟨[], arguments, [], 0, false⟩
  (result.written, result.complaints, result.status)

end BuildMonitor.Script
