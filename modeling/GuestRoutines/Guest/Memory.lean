/-!
# Linear memory

The memory of a guest is a row of bytes that are zero at first. Its size is a whole number of pages
and never shrinks. A range can be read or written only if all of it lies within the size; an empty
range may stand at the very end.

## Main definitions

* `Memory` — pages and contents
* `Memory.read?`, `Memory.write?` — a range of bytes
* `Memory.load?`, `Memory.store?` — a 32-bit word, the lowest byte first
* `Memory.grow?` — more pages, within the limits
-/

namespace GuestRoutines

/-- The memory of a guest. -/
structure Memory where
  /-- The size in pages. -/
  pages : Nat
  /-- The most pages that the guest has declared. -/
  maximum : Option Nat := none
  /-- The host can find the memory under its agreed name. -/
  exported : Bool := false
  /-- The byte at each address. -/
  contents : Nat → UInt8 := fun _ => 0

namespace Memory

/-- The size of a page in bytes. -/
def pageSize : Nat := 65536

/-- The most pages that 32-bit addresses reach. -/
def pageBound : Nat := 65536

/-- The size in bytes. -/
def size (m : Memory) : Nat := m.pages * pageSize

/-- A guest without memory. -/
def none : Memory := { pages := 0 }

/-- The bytes of a range, whether or not it lies within the size. -/
def bytesAt (m : Memory) (start length : Nat) : ByteArray :=
  ⟨Array.ofFn fun i : Fin length => m.contents (start + i)⟩

/-- The bytes of a range within the size. -/
def read? (m : Memory) (start length : Nat) : Option ByteArray :=
  if start + length ≤ m.size then some (m.bytesAt start length) else Option.none

/-- The contents with a range replaced. -/
def patch (contents : Nat → UInt8) (start : Nat) (b : ByteArray) : Nat → UInt8 :=
  fun a => if start ≤ a then (b.data[a - start]?).getD (contents a) else contents a

/-- The memory with a range within the size replaced. -/
def write? (m : Memory) (start : Nat) (b : ByteArray) : Option Memory :=
  if start + b.size ≤ m.size then some { m with contents := patch m.contents start b }
  else Option.none

/-- The four bytes of a word, the lowest first. -/
def wordBytes (w : UInt32) : ByteArray :=
  ⟨#[w.toUInt8, (w >>> 8).toUInt8, (w >>> 16).toUInt8, (w >>> 24).toUInt8]⟩

/-- The word at an address, all four bytes of which must lie within the size. -/
def load? (m : Memory) (address : UInt32) : Option Int32 :=
  let a := address.toNat
  if a + 4 ≤ m.size then
    let byte (i : Nat) : UInt32 := (m.contents (a + i)).toUInt32
    some (byte 0 ||| byte 1 <<< 8 ||| byte 2 <<< 16 ||| byte 3 <<< 24).toInt32
  else Option.none

/-- The memory with a word written at an address. -/
def store? (m : Memory) (address : UInt32) (n : Int32) : Option Memory :=
  m.write? address.toNat (wordBytes n.toUInt32)

/-- The memory with more pages, if neither the declared maximum nor the address space nor the limit
of the call is exceeded. -/
def grow? (m : Memory) (limit more : Nat) : Option Memory :=
  let pages := m.pages + more
  if pages ≤ m.maximum.getD pageBound ∧ pages ≤ pageBound ∧ pages ≤ limit then
    some { m with pages }
  else Option.none

end Memory

end GuestRoutines
