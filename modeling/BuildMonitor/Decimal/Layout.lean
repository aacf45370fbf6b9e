import BuildMonitor.Decimal.Shortest
import BuildMonitor.Text.Split

/-!
# Decimal notation of binary values

The shortest digits of a value are laid out in one of two ways. Documents use positional notation
for numbers of moderate size and an exponent for the rest, and always show that the number is no
integer. Messages about configuration values use positional notation for every size.

Sizes for people are shown with two decimals, whatever the shortest digits are.

Main definitions: `positional`, `documentText`, `messageText`, `hundredthsText`.
-/

namespace BuildMonitor.Decimal

/-- A run of zeros. -/
def zeros (count : Nat) : List Char := List.replicate count '0'

/-- Digits in positional notation; a whole number has no point. -/
def positional (digits : List Char) (point : Int) : List Char :=
  if point ≤ 0 then '0' :: '.' :: zeros (-point).toNat ++ digits
  else if digits.length ≤ point.toNat then digits ++ zeros (point.toNat - digits.length)
  else digits.take point.toNat ++ '.' :: digits.drop point.toNat

/-- Digits with an exponent: one digit before the point, and the sign of the exponent shown. -/
def scientific (digits : List Char) (point : Int) : List Char :=
  let power := point - 1
  let sign := if power < 0 then '-' else '+'
  let exponent := 'e' :: sign :: Nat.toDigits 10 power.natAbs
  match digits with
  | [] => exponent
  | [digit] => digit :: exponent
  | digit :: rest => digit :: '.' :: rest ++ exponent

/-- The point positions that a document writes without an exponent. -/
def isModerate (point : Int) : Bool := -5 < point && point ≤ 16

/-- The sign of a value in front of its text. -/
def signed (negative : Bool) (text : List Char) : List Char :=
  if negative then '-' :: text else text

/-- Adds `.0` to a text without a point. -/
def withPoint (text : List Char) : List Char :=
  if text.contains '.' then text else text ++ ['.', '0']

/-- The text of a value in a document. Only finite values occur there. -/
def documentText : Binary64 → String
  | .nan => "NaN"
  | .infinity negative => String.ofList (signed negative ['i', 'n', 'f'])
  | .finite negative mantissa exponent =>
    if mantissa = 0 then String.ofList (signed negative ['0', '.', '0'])
    else
      let shortest := shortestDigits mantissa exponent
      let digits := Nat.toDigits 10 shortest.digits
      String.ofList <| signed negative <|
        if isModerate shortest.point then withPoint (positional digits shortest.point)
        else scientific digits shortest.point

/-- The text of a value in a message: positional, without a point if it is whole. -/
def messageText : Binary64 → String
  | .nan => "NaN"
  | .infinity negative => String.ofList (signed negative ['i', 'n', 'f'])
  | .finite negative mantissa exponent =>
    if mantissa = 0 then String.ofList (signed negative ['0'])
    else
      let shortest := shortestDigits mantissa exponent
      let digits := Nat.toDigits 10 shortest.digits
      String.ofList (signed negative (positional digits shortest.point))

/-- The text of a value with two decimals. The value itself is rounded, a half going to the even
neighbour. -/
def hundredthsText : Binary64 → String
  | .nan => "NaN"
  | .infinity negative => String.ofList (signed negative ['i', 'n', 'f'])
  | .finite negative mantissa exponent =>
    let scaled := Binary64.scaleByTwo mantissa exponent
    let hundredths := roundHalfEven (scaled.1 * 100) scaled.2
    String.ofList <| signed negative <|
      Nat.toDigits 10 (hundredths / 100) ++ '.' :: (Text.padded 2 (hundredths % 100)).toList

end BuildMonitor.Decimal
