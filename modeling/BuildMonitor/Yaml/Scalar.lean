import BuildMonitor.Config.Tree
import BuildMonitor.Decimal.Reading
import BuildMonitor.Json.Token

/-!
# The kinds of YAML scalars

What a plain scalar means follows from its text: nothing, a truth value, an integer in one of four
notations, a number with a fraction, and else a text. Quoted scalars are texts. Digits behind a
needless zero make a text, and so do the words that older versions took for truth values.

Main definitions: `scalarOfPlain`, `scalarOfTag?`.
-/

namespace BuildMonitor.Yaml

open BuildMonitor.Config BuildMonitor.Decimal BuildMonitor.Text

/-- Whether a text stands for nothing. -/
def isNullWord (text : String) : Bool :=
  text == "" || text == "~" || text == "null" || text == "Null" || text == "NULL"

/-- The truth value of a word. -/
def truthOfWord? (text : String) : Option Bool :=
  if text = "true" ∨ text = "True" ∨ text = "TRUE" then some true
  else if text = "false" ∨ text = "False" ∨ text = "FALSE" then some false
  else none

/-- Removes one sign in front. -/
def dropSign : List Char → List Char
  | '+' :: rest => rest
  | '-' :: rest => rest
  | rest => rest

/-- Whether a text is made of digits behind a needless zero, a sign aside. -/
def hasNeedlessZero (characters : List Char) : Bool :=
  match dropSign characters with
  | '0' :: next :: rest => (next :: rest).all Char.isDigit
  | _ => false

/-- The value of digits in a base; there is one digit at least. -/
def digitsInBase? (base : Nat) (digits : List Char) : Option Nat :=
  if digits.isEmpty then none
  else digits.foldlM (fun value character => do
    let digit ← Json.hexValue? character
    if digit < base then return value * base + digit else none) 0

/-- The magnitude of an unsigned integer, in decimal or with the mark of another base. -/
def magnitude? (characters : List Char) : Option Nat :=
  match characters with
  | '0' :: 'x' :: digits => digitsInBase? 16 digits
  | '0' :: 'o' :: digits => digitsInBase? 8 digits
  | '0' :: 'b' :: digits => digitsInBase? 2 digits
  | digits => digitsInBase? 10 digits

/-- The integer of a text. -/
def integer? (characters : List Char) : Option Scalar :=
  if hasNeedlessZero characters then none
  else
    match characters with
    | '-' :: digits => do
      let magnitude ← magnitude? digits
      if magnitude ≤ 1 <<< 63 then return .signed (-(magnitude : Int))
      else if magnitude ≤ 1 <<< 127 then return .wide (-(magnitude : Int))
      else none
    | _ => do
      let digits := match characters with
        | '+' :: rest => rest
        | rest => rest
      let magnitude ← magnitude? digits
      if magnitude ≤ maxUnsigned 64 then return .natural magnitude
      else if magnitude ≤ maxUnsigned 128 then return .wide magnitude
      else none

/-- The words for infinity. -/
def isInfinityWord (text : String) : Bool := text == ".inf" || text == ".Inf" || text == ".INF"

/-- The number with a fraction that a text is. A finite value is wanted where no word for infinity
stands. -/
def fraction? (characters : List Char) : Option Binary64 :=
  let unsigned := match characters with
    | '+' :: rest => rest
    | rest => rest
  let doubleSign := characters.head? == some '+' &&
    (unsigned.head? == some '+' || unsigned.head? == some '-')
  let text := String.ofList characters
  if doubleSign then none
  else if isInfinityWord (String.ofList unsigned) then some (.infinity false)
  else if characters.head? == some '-' && isInfinityWord (String.ofList (dropSign characters)) then
    some (.infinity true)
  else if text = ".nan" ∨ text = ".NaN" ∨ text = ".NAN" then some .nan
  else
    match readBinary64? unsigned with
    | some value => if value.isFinite then some value else none
    | none => none

/-- What a plain scalar means. -/
def scalarOfPlain (text : String) : Scalar :=
  let characters := text.toList
  if isNullWord text then .unit
  else
    match truthOfWord? text with
    | some value => .boolean value
    | none =>
      match integer? characters with
      | some value => value
      | none =>
        if hasNeedlessZero characters then .text text
        else
          match fraction? characters with
          | some value => .floating value
          | none => .text text

/-- Whether a tag is one of a document's own; such a kind has no value here. -/
def isLocalTag (tag : Option String) : Bool := tag.any (·.startsWith "!")

/-- What a scalar with a tag means; `none` if its text does not fit the tag. The tag that is a mark
alone says nothing. -/
def scalarOfTag? (tag : String) (plain : Bool) (text : String) : Option Scalar :=
  let characters := text.toList
  if tag = "tag:yaml.org,2002:null" then
    (if isNullWord text && text != "" then some .unit else none)
  else if tag = "tag:yaml.org,2002:bool" then (truthOfWord? text).map .boolean
  else if tag = "tag:yaml.org,2002:int" then integer? characters
  else if tag = "tag:yaml.org,2002:float" then (fraction? characters).map .floating
  else if tag = "!" then some (if plain then scalarOfPlain text else .text text)
  else if isLocalTag (some tag) then none
  else some (.text text)

end BuildMonitor.Yaml
