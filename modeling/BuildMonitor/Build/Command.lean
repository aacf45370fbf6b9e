import BuildMonitor.Host.Path

/-!
# How the script is called

The script is called by its absolute path, in its working directory, with the absolute paths of the
output and the cache directory in its environment, so that it is found wherever it runs. Without a
working directory of its own it runs beside itself.

Main definitions: `Command`, `effectiveWorkingDirectory`, `Command.resolve`.
-/

namespace BuildMonitor.Build

open BuildMonitor.Host

/-- A call of the script. -/
structure Command where
  script : String
  workingDirectory : String
  environment : List (String × String)
  deriving DecidableEq, Repr

/-- The directory the script runs in: the one that is given, else the one the script lies in, else
the working directory of the monitor. -/
def effectiveWorkingDirectory (script : String) (given : Option String) : String :=
  match given with
  | some directory => directory
  | none =>
    match Path.parent? script with
    | some parent => if parent = "" then "." else parent
    | none => "."

/-- The call for a script, its directory and the directories it works on, all paths made absolute
from the monitor's working directory. -/
def Command.resolve (currentDirectory script : String) (workingDirectory : Option String)
    (output cache : String) : Except IoError Command := do
  let absoluteScript ← Path.absolute currentDirectory script
  let runsIn ← Path.absolute currentDirectory (effectiveWorkingDirectory script workingDirectory)
  let outputDirectory ← Path.absolute currentDirectory output
  let cacheDirectory ← Path.absolute currentDirectory cache
  return ⟨absoluteScript, runsIn, [("OUTPUT_DIR", outputDirectory), ("CACHE_DIR", cacheDirectory)]⟩

end BuildMonitor.Build
