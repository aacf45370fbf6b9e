/-!
# UTF-8 text

Text travels as bytes: markers, logs and metadata are files, and script output is a pipe. This
module reads bytes as characters with a scanner that takes one byte at a time.

The scanner yields *units*. A unit is either a well-formed character or a *maximal broken part*:
the longest run of bytes that starts like a character and then goes wrong. Two readings are built
on the units. The strict one refuses a text with a broken part; the lossy one puts the replacement
character in the place of each.

Main definitions: `units`, `decode?`, `decodeLossy`, `encode`.
-/

namespace BuildMonitor.Text.Utf8

/-- The character that stands for a broken part. -/
def replacement : Char := '\uFFFD'

/-- A character whose first bytes have been read and whose last has not. The byte that comes next
must lie between `low` and `high`; after it, `owed` more continuation bytes are due. -/
structure Pending where
  owed : Nat
  low : Nat
  high : Nat
  code : Nat
  deriving DecidableEq, Repr

/-- What a byte that opens a character says. -/
inductive Opening where
  /-- The byte is a character by itself. -/
  | whole (character : Char)
  /-- More bytes are due. -/
  | more (pending : Pending)
  /-- No character starts with this byte. -/
  | stray
  deriving DecidableEq, Repr

/-- Reads the first byte of a character. The bounds on the second byte rule out overlong forms,
surrogates and code points above `0x10FFFF`. -/
def opening (byte : UInt8) : Opening :=
  let b := byte.toNat
  if b < 0x80 then .whole (Char.ofNat b)
  else if b < 0xC2 then .stray
  else if b < 0xE0 then .more ⟨0, 0x80, 0xBF, b - 0xC0⟩
  else if b = 0xE0 then .more ⟨1, 0xA0, 0xBF, 0⟩
  else if b = 0xED then .more ⟨1, 0x80, 0x9F, 0xD⟩
  else if b < 0xF0 then .more ⟨1, 0x80, 0xBF, b - 0xE0⟩
  else if b = 0xF0 then .more ⟨2, 0x90, 0xBF, 0⟩
  else if b < 0xF4 then .more ⟨2, 0x80, 0xBF, b - 0xF0⟩
  else if b = 0xF4 then .more ⟨2, 0x80, 0x8F, 4⟩
  else .stray

/-- The state of the scanner: the units read so far, latest first, and the open character. -/
structure Scan where
  done : List (Option Char)
  pending : Option Pending
  deriving DecidableEq, Repr

namespace Scan

/-- Nothing has been read. -/
def start : Scan := ⟨[], none⟩

/-- Takes a byte that stands where a character may start. -/
def openWith (done : List (Option Char)) (byte : UInt8) : Scan :=
  match opening byte with
  | .whole character => ⟨some character :: done, none⟩
  | .more pending => ⟨done, some pending⟩
  | .stray => ⟨none :: done, none⟩

/-- Takes one byte. A byte that cannot continue the open character ends it as a broken part and is
then read as the start of the next character. -/
def push (scan : Scan) (byte : UInt8) : Scan :=
  match scan.pending with
  | none => openWith scan.done byte
  | some pending =>
    let b := byte.toNat
    if pending.low ≤ b ∧ b ≤ pending.high then
      let code := pending.code * 64 + (b - 0x80)
      match pending.owed with
      | 0 => ⟨some (Char.ofNat code) :: scan.done, none⟩
      | owed + 1 => ⟨scan.done, some ⟨owed, 0x80, 0xBF, code⟩⟩
    else
      openWith (none :: scan.done) byte

/-- Ends the text: a character that is still open is a broken part. -/
def finish (scan : Scan) : List (Option Char) :=
  match scan.pending with
  | none => scan.done.reverse
  | some _ => (none :: scan.done).reverse

end Scan

/-- The units of a text, in order: its characters, with `none` for each maximal broken part. -/
def units (bytes : List UInt8) : List (Option Char) :=
  (bytes.foldl Scan.push Scan.start).finish

/-- Keeps the characters when there is no broken part. -/
def allPresent? (read : List (Option Char)) : Option (List Char) :=
  if read.all Option.isSome then some (read.filterMap id) else none

/-- Reads bytes strictly: `none` when any part is broken. -/
def decode? (bytes : List UInt8) : Option String :=
  (allPresent? (units bytes)).map String.ofList

/-- Reads bytes leniently: each maximal broken part becomes the replacement character. -/
def decodeLossy (bytes : List UInt8) : String :=
  String.ofList ((units bytes).map (·.getD replacement))

/-- The bytes of a list of characters. -/
def encodeChars (characters : List Char) : List UInt8 :=
  characters.flatMap String.utf8EncodeChar

/-- The bytes of a text. -/
def encode (text : String) : List UInt8 :=
  encodeChars text.toList

end BuildMonitor.Text.Utf8
