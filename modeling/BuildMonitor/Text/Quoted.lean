import BuildMonitor.Text.Printable
import BuildMonitor.Text.Combining

/-!
# Quoted text in messages

A message that repeats what a file or a variable held puts it between double quotes and shows every
character so that it can be seen: the quote and the backslash behind a backslash, the common control
characters by a letter, and any other character without a visible form of its own by its code point
in hexadecimal.

Main definition: `quoted`.
-/

namespace BuildMonitor.Text

/-- The digits of a number in lower-case hexadecimal, without leading zeros. -/
def hexDigits (value : Nat) : List Char :=
  Nat.toDigits 16 value

/-- The form of one character between quotes. -/
def quotedCharacter (character : Char) : List Char :=
  if character = '"' then ['\\', '"']
  else if character = '\\' then ['\\', '\\']
  else if character = '\n' then ['\\', 'n']
  else if character = '\r' then ['\\', 'r']
  else if character = '\t' then ['\\', 't']
  else if character = '\x00' then ['\\', '0']
  else if isCombining character || !isPrintable character then
    ['\\', 'u', '\x7b'] ++ hexDigits character.toNat ++ ['\x7d']
  else [character]

/-- A text between double quotes, each character in visible form. -/
def quoted (text : String) : String :=
  String.ofList ('"' :: text.toList.flatMap quotedCharacter ++ ['"'])

end BuildMonitor.Text
