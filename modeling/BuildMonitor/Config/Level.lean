import BuildMonitor.Text.LowerCase

/-!
# Log levels

A level is one of five words, in any mixture of cases. The word is lowered by the Unicode mapping
before it is looked up.

Main definitions: `Level`, `Level.ofText?`.
-/

namespace BuildMonitor.Config

open BuildMonitor.Text

/-- How much the service logs, from the most to the least. -/
inductive Level where
  | trace
  | debug
  | info
  | warn
  | error
  deriving DecidableEq, Repr

namespace Level

/-- The word for a level. -/
def word : Level → String
  | .trace => "trace"
  | .debug => "debug"
  | .info => "info"
  | .warn => "warn"
  | .error => "error"

/-- The level as it is shown. -/
def display (level : Level) : String := upperAscii level.word

/-- All levels. -/
def all : List Level := [.trace, .debug, .info, .warn, .error]

/-- The words a configuration may use for its level. -/
def words : List String := ["trace", "debug", "info", "warn", "error"]

/-- The level that a text names. -/
def ofText? (text : String) : Option Level :=
  match lower text with
  | "trace" => some .trace
  | "debug" => some .debug
  | "info" => some .info
  | "warn" => some .warn
  | "error" => some .error
  | _ => none

/-- The words for a text that names no level. -/
def unknownMessage (text : String) : String := s!"Invalid log level: {text}"

end Level

end BuildMonitor.Config
