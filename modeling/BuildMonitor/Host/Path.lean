import BuildMonitor.Host.IoError
import BuildMonitor.Text.Split

/-!
# Paths

A path is a text whose pieces are separated by slashes. Two readings of it matter. Its *components*
leave out repeated slashes and inner dots, and decide whether two paths are the same. Its *text* is
what messages show and what is passed on, and keeps more of the spelling.

Nothing here looks at files: a path is made absolute by the rules of spelling alone, so `..` stays.

Main definitions: `components`, `parent?`, `join`, `absolute`.
-/

namespace BuildMonitor.Host.Path

open BuildMonitor.Text

/-- A component of a path. -/
inductive Component where
  /-- The slash an absolute path starts with. -/
  | root
  /-- A dot in front of a relative path. -/
  | current
  /-- Two dots. -/
  | up
  /-- A name. -/
  | name (text : String)
  deriving DecidableEq, Repr

/-- The pieces between the slashes. -/
def pieces (path : String) : List String := splitText '/' path

/-- Whether a path starts at the root. -/
def isAbsolute (path : String) : Bool :=
  match path.toList with
  | '/' :: _ => true
  | _ => false

/-- Whether a path ends with a slash. -/
def endsWithSlash (path : String) : Bool := path.toList.getLast? == some '/'

/-- A path without the slashes at its end; slashes alone stay. -/
def withoutSlashes (path : String) : String :=
  match path.toList.reverse.dropWhile (· == '/') with
  | [] => path
  | kept => String.ofList kept.reverse

/-- Whether a piece is a component by itself: not what stands between two slashes, and no dot. -/
def isSignificant (piece : String) : Bool := piece != "" && piece != "."

/-- The component of a significant piece. -/
def componentOf (piece : String) : Component :=
  if piece = ".." then .up else .name piece

/-- The components of a path. -/
def components (path : String) : List Component :=
  let all := pieces path
  let body := (all.filter isSignificant).map componentOf
  if isAbsolute path then .root :: body
  else if all.head? = some "." then .current :: body
  else body

/-- Whether two paths have the same components. -/
def same (first second : String) : Bool := components first == components second

/-- Removes the pieces at the end that are no components. -/
def dropInsignificant (reversedPieces : List String) : List String :=
  reversedPieces.dropWhile fun piece => !isSignificant piece

/-- The path without its last component, spelled as it was written; `none` for the root and for the
empty path. The root, and a dot in front of a relative path, stay when nothing else is left. -/
def parent? (path : String) : Option String :=
  match pieces path with
  | [] => none
  | first :: rest =>
    let keepsFirst := isAbsolute path || first == "."
    match dropInsignificant rest.reverse with
    | [] =>
      if isAbsolute path then none
      else if first = "" then none
      else some ""
    | _ :: before =>
      match dropInsignificant before with
      | [] =>
        if isAbsolute path then some "/"
        else if keepsFirst || isSignificant first then some first
        else some ""
      | kept => some (joinTexts "/" (first :: kept.reverse))

/-- Puts a relative path behind a directory; an absolute one replaces it. -/
def join (directory path : String) : String :=
  if isAbsolute path then path
  else if directory = "" then path
  else if endsWithSlash directory then directory ++ path
  else directory ++ "/" ++ path

/-- Whether a path starts with two slashes and no third. -/
def hasTwoLeadingSlashes (path : String) : Bool :=
  match path.toList with
  | '/' :: '/' :: '/' :: _ => false
  | '/' :: '/' :: _ => true
  | _ => false

/-- The text of a component behind others. -/
def Component.text : Component → String
  | .root => "/"
  | .current => "."
  | .up => ".."
  | .name text => text

/-- The path from the root that a path means in a working directory, without looking at files: inner
dots and repeated slashes go, two dots stay, and so does a slash at the end. Exactly two slashes in
front stay, as systems may give them a meaning of their own. -/
def absolute (workingDirectory path : String) : Except IoError String :=
  if path = "" then .error .emptyPath
  else
    let body := (components path).filter fun component => component != .root && component != .current
    let start :=
      if isAbsolute path then (if hasTwoLeadingSlashes path then "//" else "/") else workingDirectory
    let whole := body.foldl (fun text component => join text component.text) start
    .ok (if endsWithSlash path && !endsWithSlash whole then whole ++ "/" else whole)

end BuildMonitor.Host.Path
