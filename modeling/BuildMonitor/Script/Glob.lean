import BuildMonitor.Script.Word
import BuildMonitor.Text.Split

/-!
# Patterns

A pattern matches texts by stars, question marks and sets in brackets. A character that was quoted
matches itself only. Patterns choose the branch of a choice, trim the values of parameters and stand
for the names of files.

Main definitions: `Glob`, `Glob.ofMarked`, `matchesText`.
-/

namespace BuildMonitor.Script

/-- A character and whether it was quoted. -/
abbrev Marked := Char × Bool

/-- One element of a pattern. -/
inductive Glob where
  | exactly (expected : Char)
  /-- Any one character. -/
  | one
  /-- Any characters, or none. -/
  | many
  /-- One character from some ranges, or from outside of them. -/
  | set (negated : Bool) (ranges : List (Char × Char))
  deriving DecidableEq, Repr

/-- Whether an element that stands for one character may stand for this one. -/
def Glob.accepts : Glob → Char → Bool
  | .exactly expected, character => expected = character
  | .one, _ => true
  | .many, _ => true
  | .set negated ranges, character =>
    (ranges.any fun range => range.1 ≤ character && character ≤ range.2) != negated

/-- The ranges of a set, from the characters between its brackets. -/
def rangesOf : List Marked → List (Char × Char)
  | (low, _) :: ('-', false) :: (high, _) :: rest => (low, high) :: rangesOf rest
  | (character, _) :: rest => (character, character) :: rangesOf rest
  | [] => []

/-- Splits at the bracket that closes a set. A bracket in the first place belongs to it. -/
def splitSet : List Marked → Option (List Marked × List Marked)
  | [] => none
  | first :: rest =>
    let inside := rest.takeWhile (· != (']', false))
    match rest.dropWhile (· != (']', false)) with
    | [] => none
    | _ :: behind => some (first :: inside, behind)

/-- The elements of a pattern. `fuel` bounds its characters. -/
def globsOf : (fuel : Nat) → List Marked → List Glob
  | 0, _ => []
  | _, [] => []
  | fuel + 1, ('*', false) :: rest => .many :: globsOf fuel rest
  | fuel + 1, ('?', false) :: rest => .one :: globsOf fuel rest
  | fuel + 1, ('[', false) :: rest =>
    let negated := match rest with
      | ('!', false) :: _ => true
      | _ => false
    match splitSet (if negated then rest.drop 1 else rest) with
    | some (inside, behind) => .set negated (rangesOf inside) :: globsOf fuel behind
    | none => .exactly '[' :: globsOf fuel rest
  | fuel + 1, (character, _) :: rest => .exactly character :: globsOf fuel rest

/-- The pattern that marked characters make up. -/
def Glob.ofMarked (characters : List Marked) : List Glob := globsOf characters.length characters

/-- Whether marked characters are more than a literal text. -/
def isPattern (characters : List Marked) : Bool :=
  (Glob.ofMarked characters).any fun glob =>
    match glob with
    | .exactly _ => false
    | _ => true

/-- Whether a pattern matches a whole text. -/
def matchesText : List Glob → Octets → Bool
  | [], [] => true
  | [], _ :: _ => false
  | .many :: rest, text =>
    matchesText rest text ||
      match text with
      | [] => false
      | _ :: shorter => matchesText (.many :: rest) shorter
  | glob :: rest, character :: text => glob.accepts character && matchesText rest text
  | _ :: _, [] => false
  termination_by globs text => globs.length + text.length

/-- The lengths up to the length of a text, rising. -/
def lengthsOf (text : Octets) : List Nat := List.range (text.length + 1)

/-- A text without the shortest or longest match at its start. -/
def trimmedStart (longest : Bool) (pattern : List Glob) (text : Octets) : Octets :=
  let lengths := if longest then (lengthsOf text).reverse else lengthsOf text
  match lengths.find? fun length => matchesText pattern (text.take length) with
  | some length => text.drop length
  | none => text

/-- A text without the shortest or longest match at its end. -/
def trimmedEnd (longest : Bool) (pattern : List Glob) (text : Octets) : Octets :=
  let lengths := if longest then lengthsOf text else (lengthsOf text).reverse
  match lengths.find? fun length => matchesText pattern (text.drop length) with
  | some length => text.take length
  | none => text

/-! ## Names of files -/

/-- Whether a name of a file matches; a dot in front must be written out. -/
def matchesName (characters : List Marked) (name : Octets) : Bool :=
  let hidden := name.head? == some '.'
  let dotted := (characters.head?.map (·.1)) == some '.'
  (!hidden || dotted) && matchesText (Glob.ofMarked characters) name

/-- The names in the directory that a path leads to, in order; `none` if it leads to none. -/
abbrev Listing := Octets → Option (List Octets)

/-- Whether there is something of a name behind a path; an empty name asks for a directory. -/
def isThere (listing : Listing) (walked name : Octets) : Bool :=
  match listing (if walked.isEmpty then ['.'] else walked) with
  | none => false
  | some names => name.isEmpty || name = ['.'] || name = ['.', '.'] || names.contains name

/-- The paths that the segments of a pattern stand for, behind a path that has been walked. -/
def pathsMatching (listing : Listing) (walked : Octets) : List (List Marked) → List Octets
  | [] => [walked]
  | segment :: rest =>
    let separator := if rest.isEmpty then [] else ['/']
    if isPattern segment then
      let directory := if walked.isEmpty then ['.'] else walked
      let names := (listing directory).getD []
      ((names.filter (matchesName segment)).map (walked ++ · ++ separator)).flatMap
        fun path => pathsMatching listing path rest
    else
      let name := segment.map (·.1)
      if walked.isEmpty || isThere listing walked name then
        pathsMatching listing (walked ++ name ++ separator) rest
      else []

/-- The field or fields that marked characters stand for: the paths that match, or the text itself
if none does. -/
def pathsOf (listing : Listing) (characters : List Marked) : List Octets :=
  if isPattern characters then
    let segments := Text.splitOn (· == ('/', false)) characters
    match pathsMatching listing [] segments with
    | [] => [characters.map (·.1)]
    | paths => paths
  else [characters.map (·.1)]

end BuildMonitor.Script
