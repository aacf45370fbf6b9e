/-!
# Blank characters

Surrounding white space is ignored where a person or a script writes a number: in the marker, in
the `lines` parameter of a log request, in an environment variable. White space means the Unicode
property `White_Space`, which is wider than the ASCII blanks.

Main definitions: `isBlank`, `trimBlanks`, `trim`.
-/

namespace BuildMonitor.Text

/-- The code points of the Unicode property `White_Space`, as closed ranges in rising order. -/
def blankRanges : List (Nat × Nat) :=
  [(0x09, 0x0D), (0x20, 0x20), (0x85, 0x85), (0xA0, 0xA0), (0x1680, 0x1680), (0x2000, 0x200A),
   (0x2028, 0x2029), (0x202F, 0x202F), (0x205F, 0x205F), (0x3000, 0x3000)]

/-- Whether a character is white space. -/
def isBlank (character : Char) : Bool :=
  blankRanges.any fun range => range.1 ≤ character.toNat && character.toNat ≤ range.2

/-- Removes the leading blanks. -/
def trimBlanksLeft (characters : List Char) : List Char :=
  characters.dropWhile isBlank

/-- Removes the trailing blanks. -/
def trimBlanksRight (characters : List Char) : List Char :=
  (characters.reverse.dropWhile isBlank).reverse

/-- Removes leading and trailing blanks and nothing inside. -/
def trimBlanks (characters : List Char) : List Char :=
  trimBlanksRight (trimBlanksLeft characters)

/-- Removes leading and trailing white space of a text. -/
def trim (text : String) : String :=
  String.ofList (trimBlanks text.toList)

end BuildMonitor.Text
