import GuestRoutines.Module.Compiled
import GuestRoutines.Settings.Runtime

/-!
# The engine

An engine may take the memory of instances from a pool. The pool has a fixed number of places, all
of one size, and the address space for it is reserved when the engine is created. A program that has
no place in the pool is not compiled.

## Main definitions

* `EngineSettings.create` — whether an engine can be created
* `EngineSettings.refusal?` — why a program has no place
* `Compiler.within` — a compiler as an engine uses it
-/

namespace GuestRoutines

namespace EngineSettings

/-- The address space that 32-bit addresses reach, which is reserved for every place. -/
def reservation : Nat := 1 <<< 32

/-- The address space that is left free beside every place. -/
def margin : Nat := 1 <<< 25

/-- The address space of a process. -/
def addressSpace : Nat := 1 <<< 47

/-- The number of places, where instances are taken from a pool. -/
def places? (e : EngineSettings) : Option Nat :=
  if e.poolingAllocator then some e.maxInstances.toNat else none

/-- The size of a place in bytes. -/
def placeSize (e : EngineSettings) : Nat := e.instanceMemoryMb.toNat * 1024 * 1024

/-- The address space that a number of places takes, with a margin before the first one. -/
def poolSize (places : Nat) : Nat :=
  if places = 0 then 0 else margin + places * (reservation + margin)

/-- A number in hexadecimal digits, with their mark. -/
def marked (n : Nat) : String := "0x" ++ String.ofList (Nat.toDigits 16 n)

/-- Why the pool cannot be reserved. -/
def poolFault? (e : EngineSettings) : Option String := do
  let size := poolSize (← e.places?)
  if reservation < e.placeSize then
    some (s!"maximum memory size of {marked e.placeSize} bytes exceeds the configured " ++
      s!"memory reservation of {marked reservation} bytes")
  else if UInt64.size ≤ size then
    some "total size of memory reservation exceeds addressable memory"
  else if addressSpace ≤ size then some s!"mmap failed to reserve {marked size} bytes"
  else none

/-- An engine with the settings is created, unless its pool cannot be reserved. -/
def create (e : EngineSettings) : Except ModuleError Unit :=
  match e.poolFault? with
  | some reason => .error (.configuration s!"Failed to create Wasmtime engine: {reason}")
  | none => .ok ()

/-- Why a program has no place in the pool. A program without memory needs none. -/
def refusal? (e : EngineSettings) (p : Program) : Option String := do
  let places ← e.places?
  let t ← p.memory
  if places = 0 then some "there is no place for a memory"
  else if e.instancePages < t.minimum then
    some "memory index 0 is unsupported in this pooling allocator configuration"
  else none

end EngineSettings

/-- A program, if the engine has a place for it. -/
def Program.within (e : EngineSettings) (p : Program) : Except String Program :=
  match e.refusal? p with
  | some complaint => .error complaint
  | none => .ok p

/-- The compiler as an engine uses it. -/
def Compiler.within (c : Compiler) (e : EngineSettings) : Compiler where
  text s := (c.text s).bind (·.within e)
  binary b := (c.binary b).bind (·.within e)

end GuestRoutines
