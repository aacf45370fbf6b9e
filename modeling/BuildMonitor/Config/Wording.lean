import BuildMonitor.Config.Decode
import BuildMonitor.Decimal.Layout
import BuildMonitor.Text.LowerCase
import BuildMonitor.Text.Quoted
import BuildMonitor.Text.Split

/-!
# The words for values of the wrong kind

A value that cannot be taken is described in one of two styles. For a document given by itself the
message names the value and what was wanted. For a layered configuration it also names the key and
the source, as the same key may have been set in several places.

Main definitions: `Failure.documentMessage`, `Failure.layeredMessage`.
-/

namespace BuildMonitor.Config

open BuildMonitor.Decimal BuildMonitor.Text

/-- The alternatives that a name may be one of. -/
def knownNames (names : List String) : String :=
  let marked := names.map fun name => s!"`{name}`"
  match marked with
  | [first, second] => s!"{first} or {second}"
  | others => "one of " ++ joinTexts ", " others

/-- What was found, in the style of documents. -/
def Finding.documentText : Finding → String
  | .scalar .unit => "null"
  | .scalar (.boolean value) => s!"boolean `{value}`"
  | .scalar (.natural value) => s!"integer `{value}`"
  | .scalar (.signed value) => s!"integer `{value}`"
  | .scalar (.wide value) => s!"integer `{value}`"
  | .scalar (.floating value) => s!"floating point `{Decimal.documentText value}`"
  | .scalar (.text value) => s!"string {quoted value}"
  | .sequence => "sequence"
  | .mapping => "map"

/-- The words for a failure in a document. -/
def Failure.documentMessage (failure : Failure) : String :=
  match failure.cause with
  | .wrongKind found wanted => s!"invalid type: {found.documentText}, expected {wanted}"
  | .wrongValue found wanted => s!"invalid value: {found.documentText}, expected {wanted}"
  | .unknownName name known => s!"unknown variant `{name}`, expected {knownNames known}"
  | .tooLong count => s!"invalid length {count}, expected fewer elements in array"

/-- What was found, in the style of layered configurations. -/
def Finding.layeredText : Finding → String
  | .scalar .unit => "unit"
  | .scalar (.boolean value) => s!"bool {value}"
  | .scalar (.natural value) => s!"unsigned int `{value}`"
  | .scalar (.signed value) => s!"signed int `{value}`"
  | .scalar (.wide value) =>
    if value < 0 then s!"integer `{value}` as i128" else s!"integer `{value}` as u128"
  | .scalar (.floating value) => s!"float `{Decimal.messageText value}`"
  | .scalar (.text value) => s!"string {quoted value}"
  | .sequence => "sequence"
  | .mapping => "map"

/-- The words for a cause in a layered configuration. -/
def Cause.layeredText : Cause → String
  | .wrongKind found wanted => s!"invalid type: found {found.layeredText}, expected {wanted}"
  | .wrongValue found wanted => s!"invalid value {found.layeredText}, expected {wanted}"
  | .unknownName name known =>
    s!"unknown variant: found `{name}`, expected `{knownNames known}`"
  | .tooLong count => s!"invalid length {count}, expected fewer elements in array"

/-- A key in the style of its source: variables are named in upper case, and in a file a key belongs
to the default profile. -/
def keyText (source : Source) (path : List String) : String :=
  match source with
  | .environment => joinTexts "." (path.map upperAscii)
  | .prefixed => joinTexts "." (path.map upperAscii)
  | _ => joinTexts "." ("default" :: path)

/-- The name of a source behind a key. -/
def sourceText : Source → String
  | .file name => s!" in {name} YAML file"
  | .environment => " in environment variable(s)"
  | .prefixed => " in `TRIVY_MONITOR_` environment variable(s)"
  | .defaults => ""
  | .document => ""

/-- The words for a failure in a layered configuration. -/
def Failure.layeredMessage (failure : Failure) : String :=
  let place :=
    if failure.path.isEmpty then ""
    else s!" for key {quoted (keyText failure.source failure.path)}"
  failure.cause.layeredText ++ place ++ sourceText failure.source

end BuildMonitor.Config
