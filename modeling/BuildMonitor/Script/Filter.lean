import BuildMonitor.Script.Printing

/-!
# Filters

Some programs read bytes, change them and write them on as they come: `cat` passes them on, `head`
stops after a number of bytes or lines, and `tr` replaces or drops single bytes. A filter takes one
chunk at a time, so that it works on pipes and on devices without end.

Main definitions: `Filter`, `Filter.push`, `byteMap?`.
-/

namespace BuildMonitor.Script

/-- What `tr` does with bytes. -/
structure ByteMap where
  /-- What a byte becomes; `none` if it is dropped. -/
  image : UInt8 → Option UInt8
  /-- The bytes that are written once where several follow each other. -/
  squeezed : UInt8 → Bool

/-- A filter. -/
inductive Filter where
  | copy
  /-- The bytes that are still to be passed on. -/
  | headBytes (left : Nat)
  /-- The lines that are still to be passed on. -/
  | headLines (left : Nat)
  | replacing (byteMap : ByteMap) (previous : Option UInt8)

/-- What a filter makes of a chunk. -/
structure Filtered where
  output : List UInt8
  next : Filter
  /-- Nothing more is wanted. -/
  finished : Bool

namespace Filter

/-- The bytes up to and with the given number of line ends, and how many were missing. -/
def takeLines : (count : Nat) → List UInt8 → List UInt8 × Nat
  | 0, _ => ([], 0)
  | count, [] => ([], count)
  | count + 1, byte :: rest =>
    let taken := takeLines (if byte = 10 then count else count + 1) rest
    (byte :: taken.1, taken.2)

/-- Maps bytes one after the other. -/
def mapBytes (byteMap : ByteMap) (previous : Option UInt8) :
    List UInt8 → List UInt8 × Option UInt8
  | [] => ([], previous)
  | byte :: rest =>
    match byteMap.image byte with
    | none => mapBytes byteMap previous rest
    | some image =>
      if byteMap.squeezed image && previous = some image then
        mapBytes byteMap previous rest
      else
        let others := mapBytes byteMap (some image) rest
        (image :: others.1, others.2)

/-- Takes a chunk. -/
def push (filter : Filter) (chunk : List UInt8) : Filtered :=
  match filter with
  | .copy => ⟨chunk, .copy, false⟩
  | .headBytes left =>
    let taken := chunk.take left
    ⟨taken, .headBytes (left - taken.length), left ≤ chunk.length⟩
  | .headLines left =>
    let (taken, missing) := takeLines left chunk
    ⟨taken, .headLines missing, missing = 0⟩
  | .replacing byteMap previous =>
    let (output, last) := mapBytes byteMap previous chunk
    ⟨output, .replacing byteMap last, false⟩

/-- Whether a filter wants nothing from the start. -/
def wantsNothing : Filter → Bool
  | .headBytes left => left = 0
  | .headLines left => left = 0
  | _ => false

end Filter

/-! ## Maps of bytes -/

/-- The bytes that a class in brackets stands for. -/
def classMembers? (name : Octets) : Option (List UInt8) :=
  let all := (List.range 256).map UInt8.ofNat
  let select (holds : Char → Bool) := some (all.filter fun byte => holds (Char.ofNat byte.toNat))
  match String.ofList name with
  | "alpha" => select fun c => c.isAlpha
  | "digit" => select Char.isDigit
  | "alnum" => select fun c => c.isAlphanum
  | "upper" => select Char.isUpper
  | "lower" => select Char.isLower
  | "space" => select fun c => [' ', '\t', '\n', '\r', '\x0b', '\x0c'].contains c
  | "blank" => select fun c => [' ', '\t'].contains c
  | "cntrl" => select fun c => c.toNat < 32 || c.toNat = 127
  | "print" => select fun c => 32 ≤ c.toNat && c.toNat < 127
  | "graph" => select fun c => 32 < c.toNat && c.toNat < 127
  | "punct" => select fun c => 32 < c.toNat && c.toNat < 127 && !c.isAlphanum
  | _ => none

/-- The bytes of a set as `tr` takes it, in their order: escapes, ranges and classes. `fuel` bounds
the characters. -/
def setMembers : (fuel : Nat) → Octets → List UInt8
  | 0, _ => []
  | _, [] => []
  | fuel + 1, '[' :: ':' :: rest =>
    let name := rest.takeWhile (· != ':')
    match rest.drop name.length, classMembers? name with
    | ':' :: ']' :: behind, some members => members ++ setMembers fuel behind
    | _, _ => 91 :: setMembers fuel (':' :: rest)
  | fuel + 1, '\\' :: rest =>
    let (character, behind) := match rest with
      | letter :: behind =>
        match octalDigits 3 rest, escapeOf? letter with
        | [], some escaped => (escaped, behind)
        | [], none => (letter, behind)
        | digits, _ => (byteOf digits, rest.drop digits.length)
      | [] => ('\\', [])
    UInt8.ofNat character.toNat :: setMembers fuel behind
  | fuel + 1, low :: '-' :: high :: rest =>
    let bytes := (List.range (high.toNat + 1 - low.toNat)).map fun offset =>
      UInt8.ofNat (low.toNat + offset)
    bytes ++ setMembers fuel rest
  | fuel + 1, character :: rest => UInt8.ofNat character.toNat :: setMembers fuel rest

/-- The bytes of a set. -/
def membersOf (text : Octets) : List UInt8 := setMembers (text.length + 1) text

/-- The map that the options and sets of `tr` ask for. A second set that is shorter goes on
with its last byte. -/
def byteMap? (complement delete squeeze : Bool) (sets : List Octets) : Option ByteMap :=
  match sets with
  | [] => none
  | first :: others =>
    let listed := membersOf first
    let selected :=
      if complement then
        ((List.range 256).map UInt8.ofNat).filter fun byte => !listed.contains byte
      else listed
    match delete, others with
    | true, [] => some ⟨fun byte => if selected.contains byte then none else some byte, fun _ => false⟩
    | true, second :: _ =>
      let squeezed := membersOf second
      some ⟨fun byte => if selected.contains byte then none else some byte,
        fun byte => squeeze && squeezed.contains byte⟩
    | false, [] => if squeeze then some ⟨some, selected.contains⟩ else none
    | false, second :: _ =>
      let images := membersOf second
      let last := images.getLast?.getD 0
      let pairs := (selected.zip (images ++ List.replicate selected.length last)).reverse
      some ⟨fun byte => some ((pairs.lookup byte).getD byte), fun byte => squeeze && images.contains byte⟩

end BuildMonitor.Script
