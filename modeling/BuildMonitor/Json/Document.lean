import BuildMonitor.Json.Token
import BuildMonitor.Text.Utf8

/-!
# JSON documents

The second step of reading takes tokens one at a time and keeps the containers that are still open
on a stack, innermost first. A document is one value. A reader may limit how deep containers are
nested; this program reads documents to a depth of 127. Of two members of one name the later one
counts.

Main definitions: `Reader`, `Value.ofTokens?`, `Value.parseWithin?`, `Value.parse?`,
`Value.ofBytes?`.
-/

namespace BuildMonitor.Json

/-- A container that is still open, with what has been read of it. -/
inductive Frame where
  /-- The items, latest first. -/
  | array (items : List Value)
  /-- The members, and the name whose value comes next. -/
  | object (members : List (String × Value)) (name : String)

/-- What may come next. -/
inductive Expectation where
  /-- A value. -/
  | value
  /-- The first item of an array, or its end. -/
  | firstItem
  /-- The first name of an object with no member, or its end. -/
  | firstName
  /-- A further name of an object with the given members. -/
  | name (members : List (String × Value))
  /-- The colon behind a name. -/
  | colon
  /-- A comma, or the end of the innermost container. -/
  | separator
  /-- Nothing: the document is complete. -/
  | finished (result : Value)

/-- How far reading has come. -/
structure Reader where
  stack : List Frame
  expects : Expectation

/-- The number of containers that this program has open at once. -/
def depthLimit : Nat := 127

/-- Whether a reader that may have a limit opens one more container. -/
def hasRoom (limit : Option Nat) (opened : Nat) : Bool :=
  match limit with
  | none => true
  | some most => opened < most

namespace Reader

/-- Nothing has been read. -/
def start : Reader := ⟨[], .value⟩

/-- Puts a complete value into the innermost open container. -/
def deliver (stack : List Frame) (value : Value) : Reader :=
  match stack with
  | [] => ⟨[], .finished value⟩
  | .array items :: outer => ⟨.array (value :: items) :: outer, .separator⟩
  | .object members name :: outer =>
    ⟨.object (insertMember name value members) name :: outer, .separator⟩

/-- Takes a token where a value must stand. -/
def beginValue? (limit : Option Nat) (stack : List Frame) : Token → Option Reader
  | .null => some (deliver stack .null)
  | .boolean value => some (deliver stack (.boolean value))
  | .number value => some (deliver stack (.number value))
  | .text value => some (deliver stack (.text value))
  | .openArray =>
    if hasRoom limit stack.length then some ⟨.array [] :: stack, .firstItem⟩ else none
  | .openObject =>
    if hasRoom limit stack.length then some ⟨stack, .firstName⟩ else none
  | _ => none

/-- Takes one token; `none` when it cannot stand there. -/
def push? (limit : Option Nat) (reader : Reader) (token : Token) : Option Reader :=
  match reader.expects, token, reader.stack with
  | .value, token, stack => beginValue? limit stack token
  | .firstItem, .closeArray, .array _ :: outer => some (deliver outer (.array []))
  | .firstItem, token, stack => beginValue? limit stack token
  | .firstName, .closeObject, stack => some (deliver stack (.object []))
  | .firstName, .text name, stack => some ⟨.object [] name :: stack, .colon⟩
  | .name members, .text name, stack => some ⟨.object members name :: stack, .colon⟩
  | .colon, .colon, stack => some ⟨stack, .value⟩
  | .separator, .comma, .array items :: outer => some ⟨.array items :: outer, .value⟩
  | .separator, .comma, .object members _ :: outer => some ⟨outer, .name members⟩
  | .separator, .closeArray, .array items :: outer =>
    some (deliver outer (.array items.reverse))
  | .separator, .closeObject, .object members _ :: outer =>
    some (deliver outer (.object members))
  | _, _, _ => none

/-- The value read, if the document is complete. -/
def result? (reader : Reader) : Option Value :=
  match reader.expects with
  | .finished value => some value
  | _ => none

end Reader

/-- The value that tokens spell. -/
def Value.ofTokens? (limit : Option Nat) (tokens : List Token) : Option Value :=
  (tokens.foldlM (Reader.push? limit) Reader.start).bind Reader.result?

/-- The value of a document for a reader that may have a limit. -/
def Value.parseWithin? (limit : Option Nat) (text : String) : Option Value :=
  (tokens? text.toList).bind (Value.ofTokens? limit)

/-- The value of a document. -/
def Value.parse? (text : String) : Option Value := Value.parseWithin? (some depthLimit) text

/-- The value of a document in bytes, which must be UTF-8 without a byte order mark. -/
def Value.ofBytesWithin? (limit : Option Nat) (bytes : List UInt8) : Option Value :=
  (Text.Utf8.decode? bytes).bind (Value.parseWithin? limit)

/-- The value of a document in bytes, for this program. -/
def Value.ofBytes? (bytes : List UInt8) : Option Value :=
  Value.ofBytesWithin? (some depthLimit) bytes

end BuildMonitor.Json
