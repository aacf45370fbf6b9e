/-!
# File contents

The content of a file is a sequence of bytes. A file may be created with a size and no data; the
bytes it then reads as are zeros, and they are kept as a number, so that a file of many gigabytes is
a small value.

Main definitions: `Blob`, `Blob.toList`, `Blob.size`.
-/

namespace BuildMonitor.Host

/-- The content of a file: stored bytes followed by a run of zero bytes. -/
structure Blob where
  stored : List UInt8
  zeros : Nat
  deriving DecidableEq, Repr, Inhabited

namespace Blob

/-- No bytes. -/
def empty : Blob := ⟨[], 0⟩

/-- The given bytes. -/
def ofList (bytes : List UInt8) : Blob := ⟨bytes, 0⟩

/-- A run of zero bytes. -/
def ofZeros (count : Nat) : Blob := ⟨[], count⟩

/-- All bytes in order. -/
def toList (blob : Blob) : List UInt8 := blob.stored ++ List.replicate blob.zeros 0

/-- The number of bytes. -/
def size (blob : Blob) : Nat := blob.stored.length + blob.zeros

/-- The content with bytes added at the end. -/
def append (blob : Blob) (bytes : List UInt8) : Blob :=
  if blob.zeros = 0 then ⟨blob.stored ++ bytes, 0⟩ else ⟨blob.toList ++ bytes, 0⟩

/-- A blob made of bytes holds just those bytes. -/
@[simp] theorem toList_ofList (bytes : List UInt8) : (ofList bytes).toList = bytes := by
  simp [toList, ofList]

/-- Bytes that are added stand behind those that are there. -/
@[simp] theorem toList_append (blob : Blob) (bytes : List UInt8) :
    (blob.append bytes).toList = blob.toList ++ bytes := by
  unfold append
  split
  · next none => simp [toList, none]
  · simp [toList]

end Blob

end BuildMonitor.Host
