import BuildMonitor.Text.LowerCase
import BuildMonitor.Text.Split

/-!
# Request targets

A request names what it wants by a target in one of three forms: a path with an optional query, the
same behind a scheme and an authority, or an authority alone. A fragment is cut off and forgotten.
Characters outside ASCII pass unescaped, as do the quote and the braces in a path.

Only the path and the query of a target matter here; of scheme and authority it is only checked that
they are well formed.

Main definitions: `Target`, `Target.ofText?`.
-/

namespace BuildMonitor.Http

open BuildMonitor.Text

/-- What a request wants. -/
structure Target where
  path : String
  query : Option String
  deriving DecidableEq, Repr

namespace Target

/-- The greatest length of a target in bytes. -/
def lengthLimit : Nat := 65534

/-- The greatest length of a scheme. -/
def schemeLimit : Nat := 64

/-- Whether a code lies in one of some closed ranges. -/
def within (ranges : List (Nat × Nat)) (character : Char) : Bool :=
  ranges.any fun range => range.1 ≤ character.toNat && character.toNat ≤ range.2

/-- Whether a character may stand in a path. -/
def isPathCharacter : Char → Bool :=
  within [(0x21, 0x22), (0x24, 0x3B), (0x3D, 0x3D), (0x40, 0x5F), (0x61, 0x7E), (0x7F, 0x10FFFF)]

/-- Whether a character may stand in a query. -/
def isQueryCharacter : Char → Bool :=
  within [(0x21, 0x21), (0x24, 0x3B), (0x3D, 0x3D), (0x3F, 0x10FFFF)]

/-- Whether a character may stand in a scheme. -/
def isSchemeCharacter (character : Char) : Bool :=
  character.isAlphanum || ['+', '-', '.'].contains character

/-- Whether a character may stand in an authority, and is neither a delimiter nor a percent sign. -/
def isAuthorityCharacter (character : Char) : Bool :=
  character.isAlphanum ||
    ['!', '$', '&', '\x27', '(', ')', '*', '+', ',', '-', '.', ';', '=', '_', '~'].contains character

/-- Whether a character ends an authority. -/
def endsAuthority (character : Char) : Bool := ['/', '?', '#'].contains character

/-- Cuts off a fragment. -/
def withoutFragment (characters : List Char) : List Char := characters.takeWhile (· != '#')

/-- Reads a path with an optional query. An empty path means the root. -/
def ofPath? (characters : List Char) : Option Target :=
  let (path, query) := cutAtFirst '?' (withoutFragment characters)
  if path.all isPathCharacter && (query.getD []).all isQueryCharacter then
    some ⟨if path.isEmpty then "/" else String.ofList path, query.map String.ofList⟩
  else none

/-! ## Authorities -/

/-- The number of colons that may stand in a row of parts before they are forgotten. -/
def colonLimit : Nat := 8

/-- What has been seen of an authority. Colons and percent signs in front of an `@` or between
brackets are forgotten where those end. -/
structure AuthorityScan where
  colons : Nat
  opened : Bool
  closed : Bool
  percent : Bool
  deriving DecidableEq, Repr

/-- Takes one character of an authority. -/
def AuthorityScan.push (scan : AuthorityScan) (character : Char) : Option AuthorityScan :=
  if character = ':' then
    if scan.colons < colonLimit then some { scan with colons := scan.colons + 1 } else none
  else if character = '[' then
    if scan.percent || scan.opened then none else some { scan with opened := true }
  else if character = ']' then
    if scan.opened && !scan.closed then
      some { scan with closed := true, colons := 0, percent := false }
    else none
  else if character = '@' then some { scan with colons := 0, percent := false }
  else if character = '%' then some { scan with percent := true }
  else if isAuthorityCharacter character then some scan
  else none

/-- Whether characters are a well-formed authority: brackets are paired, at most one colon stands in
front of a port, percent signs stand in the user part or between brackets only, and something stands
behind an `@`. -/
def isAuthority (characters : List Char) : Bool :=
  match characters.foldlM AuthorityScan.push ⟨0, false, false, false⟩ with
  | none => false
  | some scan =>
    scan.opened == scan.closed && scan.colons ≤ 1 && !scan.percent &&
      characters.getLast? != some '@'

/-! ## Schemes -/

/-- What a target may start with. -/
inductive Scheme where
  /-- No scheme: everything is still to be read. -/
  | absent
  /-- A scheme with its marks, behind which the rest is still to be read. -/
  | present (rest : List Char)
  /-- A scheme that is too long. -/
  | tooLong
  deriving DecidableEq, Repr

/-- Reads a scheme with the colon and the two slashes behind it. -/
def schemeOf (characters : List Char) : Scheme :=
  let name := characters.takeWhile isSchemeCharacter
  match characters.dropWhile isSchemeCharacter with
  | ':' :: '/' :: '/' :: rest =>
    if characters.length ≤ 3 then .absent
    else if schemeLimit < name.length then .tooLong
    else .present rest
  | _ => .absent

/-! ## Targets -/

/-- Reads a target that does not start with a slash. -/
def ofAbsolute? (characters : List Char) : Option Target :=
  match schemeOf characters with
  | .tooLong => none
  | .absent => if isAuthority characters then some ⟨"", none⟩ else none
  | .present rest =>
    let authority := rest.takeWhile (!endsAuthority ·)
    if authority.isEmpty || !isAuthority authority then none
    else ofPath? (rest.dropWhile (!endsAuthority ·))

/-- Reads a target. -/
def ofText? (text : String) : Option Target :=
  if lengthLimit < text.utf8ByteSize then none
  else
    match text.toList with
    | [] => none
    | ['*'] => some ⟨"*", none⟩
    | '/' :: rest => ofPath? ('/' :: rest)
    | characters => ofAbsolute? characters

end Target

end BuildMonitor.Http
