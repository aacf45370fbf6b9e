import BuildMonitor.Text.Integer

/-!
# Addresses to listen on

The service listens on an address written in numbers: four octets or, between brackets, eight groups
of sixteen bits, and behind a colon a port. Names of hosts are not looked up.

Octets have no leading zeros. In the long form one run of zero groups may be written as two colons,
the last two groups may be written as four octets, and a zone may stand behind a percent sign.

Main definitions: `Address`, `Address.ofText?`, `Address.isOwn`.
-/

namespace BuildMonitor.Http

open BuildMonitor.Text

/-- An address with a port. -/
inductive Address where
  | short (octets : List Nat) (port : Nat)
  | long (groups : List Nat) (zone : Nat) (port : Nat)
  deriving DecidableEq, Repr

namespace Address

/-- Why nothing is listened on. -/
inductive Fault where
  /-- The text is no address. -/
  | malformed
  /-- The address belongs to some other host. -/
  | foreign
  deriving DecidableEq, Repr

/-- The words for a fault. -/
def Fault.message : Fault → String
  | .malformed => "invalid socket address syntax"
  | .foreign => "Cannot assign requested address (os error 99)"

/-- The value of a hexadecimal digit of either case. -/
def hexDigit? (character : Char) : Option Nat :=
  match digitValue? character with
  | some value => some value
  | none =>
    if 'a' ≤ character ∧ character ≤ 'f' then some (character.toNat - 'a'.toNat + 10)
    else if 'A' ≤ character ∧ character ≤ 'F' then some (character.toNat - 'A'.toNat + 10)
    else none

/-- The value of digits in some base. -/
def valueOf (base : Nat) (digits : List Nat) : Nat :=
  digits.foldl (fun value digit => value * base + digit) 0

/-- Reads a decimal number of at most `limit`. -/
def readDecimal (limit : Nat) (characters : List Char) : Option (Nat × List Char) :=
  let (digits, rest) := spanDigits characters
  if digits.isEmpty || limit < valueOf 10 digits then none else some (valueOf 10 digits, rest)

/-- Reads an octet: up to three digits, without a zero in front of others. -/
def readOctet (characters : List Char) : Option (Nat × List Char) :=
  let (digits, rest) := spanDigits characters
  if digits.length ≤ 3 && !(digits.head? == some 0 && 1 < digits.length) then
    readDecimal 255 characters |>.map fun read => (read.1, rest)
  else none

/-- Reads a group: up to four hexadecimal digits. -/
def readGroup (characters : List Char) : Option (Nat × List Char) :=
  let digits := characters.takeWhile fun character => (hexDigit? character).isSome
  if digits.isEmpty || 4 < digits.length then none
  else some (valueOf 16 (digits.filterMap hexDigit?), characters.drop digits.length)

/-- Passes over one character. -/
def skip (expected : Char) : List Char → Option (List Char)
  | [] => none
  | character :: rest => if character = expected then some rest else none

/-- Reads some octets with dots between them. -/
def readOctets : (count : Nat) → List Char → Option (List Nat × List Char)
  | 0, characters => some ([], characters)
  | 1, characters => (readOctet characters).map fun read => ([read.1], read.2)
  | count + 1, characters => do
    let (octet, rest) ← readOctet characters
    let rest ← skip '.' rest
    let (octets, rest) ← readOctets count rest
    return (octet :: octets, rest)

/-- The two groups that four octets make up. -/
def groupsOfOctets : List Nat → List Nat
  | [first, second, third, fourth] => [first * 256 + second, third * 256 + fourth]
  | _ => []

/-- Groups that were read, whether the last were written as octets, and what follows. -/
structure Groups where
  values : List Nat
  endsInOctets : Bool
  rest : List Char
  deriving DecidableEq, Repr

/-- Reads up to `limit` groups; `behind` says that a colon must stand in front of the next. -/
def readGroups : (limit : Nat) → (behind : Bool) → List Char → Groups
  | 0, _, characters => ⟨[], false, characters⟩
  | limit + 1, behind, characters =>
    match if behind then skip ':' characters else some characters with
    | none => ⟨[], false, characters⟩
    | some body =>
      match if 0 < limit then readOctets 4 body else none with
      | some (octets, rest) => ⟨groupsOfOctets octets, true, rest⟩
      | none =>
        match readGroup body with
        | none => ⟨[], false, characters⟩
        | some (value, rest) =>
          let others := readGroups limit true rest
          ⟨value :: others.values, others.endsInOctets, others.rest⟩

/-- Reads eight groups, of which a run of zeros may be written as two colons. -/
def readLong (characters : List Char) : Option (List Nat × List Char) :=
  let front := readGroups 8 false characters
  if front.values.length = 8 then some (front.values, front.rest)
  else if front.endsInOctets then none
  else do
    let rest ← skip ':' front.rest
    let rest ← skip ':' rest
    let back := readGroups (8 - (front.values.length + 1)) false rest
    let zeros := 8 - front.values.length - back.values.length
    return (front.values ++ List.replicate zeros 0 ++ back.values, back.rest)

/-- Reads a colon and a port. -/
def readPort (characters : List Char) : Option (Nat × List Char) := do
  readDecimal (maxUnsigned 16) (← skip ':' characters)

/-- Reads a zone, which may be missing. -/
def readZone (characters : List Char) : Option (Nat × List Char) :=
  match skip '%' characters with
  | none => some (0, characters)
  | some rest => readDecimal (maxUnsigned 32) rest

/-- Reads an address of four octets. -/
def readShort? (characters : List Char) : Option Address := do
  let (octets, rest) ← readOctets 4 characters
  let (port, rest) ← readPort rest
  if rest.isEmpty then some (.short octets port) else none

/-- Reads an address of eight groups between brackets. -/
def readBracketed? (characters : List Char) : Option Address := do
  let rest ← skip '[' characters
  let (groups, rest) ← readLong rest
  let (zone, rest) ← readZone rest
  let rest ← skip ']' rest
  let (port, rest) ← readPort rest
  if rest.isEmpty then some (.long groups zone port) else none

/-- Reads an address. -/
def ofText? (text : String) : Option Address :=
  (readShort? text.toList).orElse fun _ => readBracketed? text.toList

/-- The numbers of an address, without its port. -/
def numbers : Address → List Nat
  | .short octets _ => octets
  | .long groups _ _ => groups

/-- Whether an address can be listened on by every host: it leads back to the host, stands for all of
its addresses, or is shared by many hosts. -/
def isCommon : Address → Bool
  | .short octets _ =>
    match octets with
    | [0, 0, 0, 0] => true
    | [255, 255, 255, 255] => true
    | first :: _ => first = 127 || (224 ≤ first && first < 240)
    | [] => false
  | .long groups _ _ => groups.take 7 == List.replicate 7 0 && groups.getD 7 2 ≤ 1

/-- Whether an address can be listened on by a host with the given addresses of its own. -/
def isOwn (own : List (List Nat)) (address : Address) : Bool :=
  address.isCommon || own.contains address.numbers

/-- The address that the name of a host and a port make up, if a host with the given addresses of its
own can listen on it. -/
def resolve (own : List (List Nat)) (host : String) (port : Nat) : Except Fault Address :=
  match ofText? s!"{host}:{port}" with
  | none => .error .malformed
  | some address => if address.isOwn own then .ok address else .error .foreign

end Address

end BuildMonitor.Http
