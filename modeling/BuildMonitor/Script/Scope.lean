import BuildMonitor.Script.Word

/-!
# Parameters

A script sees parameters: variables with names, its arguments by their numbers, and some special
ones such as the status of the last command.

Main definitions: `Scope`, `Scope.get?`, `Scope.set`.
-/

namespace BuildMonitor.Script

/-- A variable. -/
structure Binding where
  name : Octets
  value : Octets
  exported : Bool
  deriving DecidableEq, Repr

/-- The parameters of a script. -/
structure Scope where
  /-- The name under which the script was called. -/
  callName : Octets
  arguments : List Octets
  bindings : List Binding
  /-- The status of the last command. -/
  status : Nat
  /-- The process that the script started as. -/
  mainPid : Nat
  /-- The process that was last left running. -/
  backgroundPid : Option Nat
  /-- Whether a missing parameter is a failure. -/
  strict : Bool
  /-- Whether a failing command ends the script. -/
  exitsOnFailure : Bool
  /-- Whether commands are shown before they run. -/
  traced : Bool
  /-- Whether patterns are kept as they are. -/
  literalPaths : Bool
  deriving Repr

namespace Scope

/-- The value of a variable. -/
def valueOf? (scope : Scope) (name : Octets) : Option Octets :=
  (scope.bindings.find? (·.name == name)).map (·.value)

/-- The number that digits are, if there are digits only. -/
def number? (name : Octets) : Option Nat :=
  if !name.isEmpty && name.all Char.isDigit then
    some (name.foldl (fun value digit => value * 10 + (digit.toNat - '0'.toNat)) 0)
  else none

/-- The letters of the options that are set. -/
def optionLetters (scope : Scope) : Octets :=
  (if scope.exitsOnFailure then ['e'] else []) ++ (if scope.literalPaths then ['f'] else []) ++
    (if scope.traced then ['x'] else []) ++ (if scope.strict then ['u'] else [])

/-- The value of a parameter that has one value. -/
def get? (scope : Scope) (name : Octets) : Option Octets :=
  match name with
  | ['#'] => some (Octets.ofNat scope.arguments.length)
  | ['?'] => some (Octets.ofNat scope.status)
  | ['$'] => some (Octets.ofNat scope.mainPid)
  | ['!'] => scope.backgroundPid.map Octets.ofNat
  | ['-'] => some scope.optionLetters
  | ['0'] => some scope.callName
  | name =>
    match number? name with
    | some position => if position = 0 then none else scope.arguments[position - 1]?
    | none => scope.valueOf? name

/-- Sets a variable. -/
def set (scope : Scope) (name value : Octets) : Scope :=
  if scope.bindings.any (·.name == name) then
    { scope with
      bindings := scope.bindings.map fun binding =>
        if binding.name == name then { binding with value := value } else binding }
  else { scope with bindings := scope.bindings ++ [⟨name, value, false⟩] }

/-- Takes a variable away. -/
def unset (scope : Scope) (name : Octets) : Scope :=
  { scope with bindings := scope.bindings.filter (·.name != name) }

/-- Passes a variable on to programs; it is set to nothing first if it is missing. -/
def passOn (scope : Scope) (name : Octets) : Scope :=
  let present := if (scope.valueOf? name).isSome then scope else scope.set name []
  { present with
    bindings := present.bindings.map fun binding =>
      if binding.name == name then { binding with exported := true } else binding }

/-- The characters that part fields. -/
def separators (scope : Scope) : Octets :=
  (scope.valueOf? "IFS".toList).getD [' ', '\t', '\n']

end Scope

end BuildMonitor.Script
