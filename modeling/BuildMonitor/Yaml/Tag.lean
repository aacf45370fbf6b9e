import BuildMonitor.Yaml.Cursor

/-!
# YAML tags

A tag names the kind of a node. It is written in full between angle brackets, or shortened to a
handle and a rest; the handle stands for the start of the full name. The lines with a percent sign
in front of a document say which version it is written for and what further handles stand for.

Main definitions: `Directives`, `readDirective?`, `readTag?`.
-/

namespace BuildMonitor.Yaml

/-- Whether a character may stand in the name of an anchor or of a handle. -/
def isNameCharacter (character : Char) : Bool :=
  character.isAlphanum || character = '_' || character = '-'

/-- Whether a character may stand in a tag; commas and square brackets only where the name is
written in full. -/
def isTagCharacter (full : Bool) (character : Char) : Bool :=
  isNameCharacter character ||
    [';', '/', '?', ':', '@', '&', '=', '+', '$', '.', '!', '~', '*', '\'', '(', ')', '%'].contains
      character ||
    (full && [',', '[', ']'].contains character)

/-- What the lines in front of a document say. -/
structure Directives where
  /-- Whether one of them names the version. -/
  versioned : Bool
  /-- What the handles stand for that they define, latest first. -/
  handles : List (String × String)
  deriving Repr

/-- Nothing is said. -/
def Directives.none : Directives := ⟨false, []⟩

/-- The start of the full name that a handle stands for: one that is defined, or one of the two that
every document has. -/
def Directives.expansion? (directives : Directives) (handle : String) : Option String :=
  match directives.handles.lookup handle with
  | some start => some start
  | Option.none =>
    if handle = "!" then some "!"
    else if handle = "!!" then some "tag:yaml.org,2002:"
    else Option.none

/-- Reads a handle: a mark, a name, and a second mark. The first mark alone is a handle too. -/
def readHandle? (cursor : Cursor) : Option (String × Cursor) :=
  if !cursor.sees 0 '!' then none
  else
    let (name, after) := cursor.skip.takeWhile isNameCharacter
    if after.sees 0 '!' then some (String.ofList ('!' :: (name ++ ['!'])), after.skip)
    else if name.isEmpty then some ("!", after)
    else none

/-- Reads a tag where it starts: its full name, and what follows. A blank must follow, or a comma
within brackets. -/
def readTag? (directives : Directives) (inFlow : Bool) (cursor : Cursor) :
    Option (String × Cursor) := do
  let (name, after) ←
    if cursor.sees 1 '<' then
      let (name, after) := (cursor.skipMany 2).takeWhile (isTagCharacter true)
      if name.isEmpty || !after.sees 0 '>' then none
      else some (String.ofList name, after.skip)
    else
      match readHandle? cursor with
      | some (handle, after) =>
        let (rest, afterRest) := after.takeWhile (isTagCharacter false)
        if handle = "!" && rest.isEmpty then some ("!", afterRest)
        else if rest.isEmpty then none
        else (directives.expansion? handle).map fun start =>
          (start ++ String.ofList rest, afterRest)
      | none =>
        let (rest, after) := cursor.skip.takeWhile (isTagCharacter false)
        (directives.expansion? "!").map fun start => (start ++ String.ofList rest, after)
  if after.seesBlankOrEnd 0 || (inFlow && after.sees 0 ',') then return (name, after) else none

/-- Reads the digits of a version. -/
def readVersionPart? (cursor : Cursor) : Option (Nat × Cursor) :=
  let (digits, after) := cursor.takeWhile Char.isDigit
  if digits.isEmpty || 9 < digits.length then none
  else some (digits.foldl (fun value digit => value * 10 + (digit.toNat - 48)) 0, after)

/-- Passes spaces and tabs. -/
def Cursor.passSpaces (cursor : Cursor) : Cursor := (cursor.takeWhile isSpaceOrTab).2

/-- Reads what a line says behind its percent sign and its word. A version may be named once, and
must be 1.1 or 1.2; a handle may be defined once. -/
def readDirectiveBody? (directives : Directives) (word : String) (cursor : Cursor) :
    Option (Directives × Cursor) :=
  if word = "YAML" then do
    let (major, afterMajor) ← readVersionPart? cursor
    if !afterMajor.sees 0 '.' then none
    else
      let (minor, after) ← readVersionPart? afterMajor.skip
      if directives.versioned || major != 1 || (minor != 1 && minor != 2) then none
      else return ({ directives with versioned := true }, after)
  else if word = "TAG" then do
    let (handle, afterHandle) ← readHandle? cursor
    if !afterHandle.seesWhere 0 isSpaceOrTab then none
    else
      let (start, after) := afterHandle.passSpaces.takeWhile (isTagCharacter true)
      if start.isEmpty || !after.seesBlankOrEnd 0 || (directives.handles.lookup handle).isSome then
        none
      else
        return ({ directives with
          handles := (handle, String.ofList start) :: directives.handles }, after)
  else none

/-- Reads a line that starts with a percent sign, up to its end. -/
def readDirective? (directives : Directives) (cursor : Cursor) :
    Option (Directives × Cursor) := do
  let (word, afterWord) := cursor.skip.takeWhile isNameCharacter
  if !afterWord.seesBlankOrEnd 0 then none
  else
    let (found, after) ←
      readDirectiveBody? directives (String.ofList word) afterWord.passSpaces
    let spaced := after.passSpaces
    let ended :=
      if spaced.sees 0 '#' then (spaced.takeWhile fun next => !isBreak next).2 else spaced
    if ended.seesBreakOrEnd 0 then return (found, ended) else none

end BuildMonitor.Yaml
