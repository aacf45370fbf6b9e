/-!
# Failures of the operating system

Every operation on files and processes fails with one of a few causes. Most are error codes of the
operating system, shown by their text and number; the others are found before the system is asked.

Main definitions: `OsError`, `IoError`, `IoError.message`.
-/

namespace BuildMonitor.Host

/-- The error codes that files and processes give. Those with a meaning of their own here are named;
any other comes with its number and text. -/
inductive OsError where
  | noEntry
  | execFormat
  | accessDenied
  | exists
  | notDirectory
  | isDirectory
  | nameTooLong
  | notEmpty
  | linkLoop
  | other (number : Nat) (description : String)
  deriving DecidableEq, Repr

namespace OsError

/-- The number of a code. -/
def number : OsError → Nat
  | .noEntry => 2
  | .execFormat => 8
  | .accessDenied => 13
  | .exists => 17
  | .notDirectory => 20
  | .isDirectory => 21
  | .nameTooLong => 36
  | .notEmpty => 39
  | .linkLoop => 40
  | .other number _ => number

/-- The text of a code. -/
def description : OsError → String
  | .noEntry => "No such file or directory"
  | .execFormat => "Exec format error"
  | .accessDenied => "Permission denied"
  | .exists => "File exists"
  | .notDirectory => "Not a directory"
  | .isDirectory => "Is a directory"
  | .nameTooLong => "File name too long"
  | .notEmpty => "Directory not empty"
  | .linkLoop => "Too many levels of symbolic links"
  | .other _ description => description

end OsError

/-- Why an operation on files failed. -/
inductive IoError where
  /-- The operating system refused it. -/
  | os (code : OsError)
  /-- A path holds a NUL character, which no file name can. -/
  | nulInPath
  /-- A file that must hold text is not UTF-8. -/
  | notText
  /-- An empty path cannot be made absolute. -/
  | emptyPath
  deriving DecidableEq, Repr

namespace IoError

/-- The words for a failure. -/
def message : IoError → String
  | .os code => s!"{code.description} (os error {code.number})"
  | .nulInPath => "file name contained an unexpected NUL byte"
  | .notText => "stream did not contain valid UTF-8"
  | .emptyPath => "cannot make an empty path absolute"

/-- Whether the failure says that there is nothing of that name. -/
def isNotFound (error : IoError) : Bool := error == .os .noEntry

end IoError

end BuildMonitor.Host
