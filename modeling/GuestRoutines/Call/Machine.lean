import GuestRoutines.Call.Convention
import GuestRoutines.Guest.Program
import GuestRoutines.Trust.Tier

/-!
# Running guest code

A run works on a machine: the guest's memory, the fuel that is left, and the context of the call. It
goes on from instruction to instruction until the code ends or something stops it. Every instruction
that fails leaves the machine as it was.

## Main definitions

* `Conditions` — what a run cannot change
* `Machine` — what a run changes
* `Failure`, `Flow` — why a run stops, and whether it does
* `Instruction.run`, `Body.run` — one instruction, and the code of a routine
-/

namespace GuestRoutines

/-- What a run cannot change. -/
structure Conditions where
  /-- The most pages that the call may have. -/
  pageLimit : Nat
  /-- The most instances at a time, where there is a bound. -/
  instanceLimit : Option Nat := none
  /-- Fuel is metered. -/
  metered : Bool
  /-- The time limit in milliseconds, if calls are interrupted at it. -/
  timeLimit : Option Nat
  /-- What the guest may reach. -/
  capabilities : Capabilities

namespace Conditions

/-- The fuel that an endless loop burns in a millisecond. -/
def fuelPerMillisecond : Nat := 1000000

/-- An amount of fuel is burnt before the time limit has passed. -/
def inTime (c : Conditions) (fuel : Nat) : Bool :=
  match c.timeLimit with
  | none => true
  | some ms => decide (fuel ≤ ms * fuelPerMillisecond)

end Conditions

/-- A fault of the engine: anything but a raised error, a violation or a trap. -/
inductive EngineFault where
  /-- The guest ended its process with a status. -/
  | exit (status : Int32)
  /-- A function of the system was called, but the host cannot find the guest's memory. -/
  | unreachableMemory
  /-- A function of the system was to write a word at an address that is no multiple of four. -/
  | misaligned (address : UInt32)
  /-- A function of the system was to write outside of memory. -/
  | outside (address : UInt32) (length : Nat)
  | unknownImport (module name : String)
  | instanceLimit (n : Nat)
  | memoryLimit (pages : Nat)
  deriving DecidableEq, Repr

namespace EngineFault

/-- The statuses that a process may end with. -/
def exitBound : Nat := 126

/-- A range of addresses in words. -/
def region (address : UInt32) (length : Nat) : String :=
  s!"Region \x7b start: {address.toNat}, len: {length} \x7d"

/-- The fault in words. Where in the guest it happened is left out. -/
def message : EngineFault → String
  | exit s =>
    if 0 ≤ s.toInt ∧ s.toInt < exitBound then s!"...: Exited with i32 exit status {s.toInt}"
    else "...: exit with invalid exit status outside of [0..126)"
  | unreachableMemory => "...: missing required memory export"
  | misaligned a => s!"...: Pointer not aligned to 4: {region a 4}"
  | outside a n => s!"...: Pointer out of bounds: {region a n}"
  | unknownImport m n => s!"unknown import: `{m}::{n}` has not been defined"
  | instanceLimit n => s!"maximum concurrent limit of {n} for core instances reached"
  | memoryLimit p => s!"memory minimum size of {p} pages exceeds memory limits"

end EngineFault

/-- Why the engine stops a run. -/
inductive Failure where
  /-- The guest raised an error. -/
  | raised (message : String)
  | violation (v : Violation)
  | trapped (t : Trap)
  | fault (f : EngineFault)
  deriving DecidableEq, Repr

/-- Whether and how a run goes on after a piece of code. -/
inductive Flow where
  /-- It goes on with the code that follows. -/
  | onward
  /-- The routine has been left. -/
  | left
  | failed (f : Failure)
  /-- The host refused a message, and the whole call unwinds. -/
  | unwound (u : Unwinding)
  deriving DecidableEq, Repr

/-- What a run changes. -/
structure Machine where
  memory : Memory
  fuel : Nat
  context : CallContext

namespace Machine

/-- The value of an operand; an address outside of memory is a trap. -/
def value (m : Machine) : Operand → Except Failure Int32
  | .constant n => .ok n
  | .word a =>
    match m.memory.load? a with
    | some n => .ok n
    | none => .error (.trapped .memory)

/-- The machine with a word stored at a target. -/
def store (m : Machine) (target : Target) (n : Int32) : Except Failure Machine :=
  match target with
  | none => .ok m
  | some a =>
    match m.memory.store? a n with
    | some memory => .ok { m with memory }
    | none => .error (.trapped .memory)

/-- An endless loop: it ends when the fuel is used up or when the time limit has passed, whichever
comes first. -/
def spin (c : Conditions) (m : Machine) : Failure × Machine :=
  if c.metered ∧ c.inTime m.fuel then (.trapped .outOfFuel, { m with fuel := 0 })
  else (.trapped .interrupted, m)

/-- The machine with a message logged. -/
def log (m : Machine) (level : ManagedLevel) (message : String) : Flow × Machine :=
  match m.context.record level message with
  | (.ok _, context) => (.onward, { m with context })
  | (.error u, context) => (.unwound u, { m with context })

/-- A byte with an ASCII small letter made capital. -/
def capital (x : UInt8) : UInt8 := if 97 ≤ x ∧ x ≤ 122 then x - 32 else x

/-- The machine with the ASCII small letters of a range made capital. -/
def makeCapitals (m : Machine) (start length : Nat) : Except Failure Machine :=
  match m.memory.read? start length with
  | none => .error (.trapped .memory)
  | some b =>
    match m.memory.write? start ⟨b.data.map capital⟩ with
    | some memory => .ok { m with memory }
    | none => .error (.trapped .memory)

/-- A truth value as a word. -/
def truth (b : Bool) : Int32 := if b then 1 else 0

end Machine

/-- A violation stops the run. -/
def orViolation {α : Type} (r : Except Violation α) : Except Failure α := r.mapError .violation

/-- The machine after a step that changes it, or the machine as it was and the failure. -/
def Machine.after (m : Machine) : Except Failure Machine → Flow × Machine
  | .ok m => (.onward, m)
  | .error f => (.failed f, m)

/-- The functions of the system interface work only with a memory that the host can find. -/
def Machine.requireMemory (m : Machine) : Except Failure Unit :=
  if m.memory.exported then .ok () else .error (.fault .unreachableMemory)

/-- A function of the system can write a byte at an address. -/
def Machine.requireByte (m : Machine) (a : UInt32) : Except Failure Unit :=
  if a.toNat < m.memory.size then .ok () else .error (.fault (.outside a 1))

/-- A function of the system can write a word at an address. -/
def Machine.requireWord (m : Machine) (a : UInt32) : Except Failure Unit :=
  if m.memory.size < a.toNat then .error (.fault (.outside a 4))
  else if a.toNat % 4 ≠ 0 then .error (.fault (.misaligned a))
  else if m.memory.size < a.toNat + 4 then .error (.fault (.outside a 4))
  else .ok ()

/-- The environment is asked for: the number of its variables and their size in bytes are written,
one after the other. -/
def Machine.askEnvironment (m : Machine) (a : UInt32) : Except Failure Unit := do
  m.requireMemory
  m.requireWord a
  m.requireWord (a + 4)

/-- A directory is asked for: if there is one, its kind and the length of its name are written, one
after the other. -/
def Machine.askDirectory (c : Conditions) (m : Machine) (a : UInt32) : Except Failure Unit := do
  m.requireMemory
  if c.capabilities.filesystem then
    m.requireByte a
    m.requireWord (a + 4)

/-- One instruction. Operands are read from left to right before anything else happens. -/
def Instruction.run (c : Conditions) (m : Machine) : Instruction → Flow × Machine
  | argCount target => m.after do
    m.store target (← orViolation (Convention.argumentCount m.context))
  | argLength i target => m.after do
    let i ← m.value i
    m.store target (← orViolation (Convention.argumentLength m.context i))
  | argRead i p => m.after do
    let i ← m.value i
    let p ← m.value p
    return { m with memory := ← orViolation (Convention.readArgument m.context m.memory i p) }
  | setResult p n => m.after do
    let p ← m.value p
    let n ← m.value n
    return { m with context := ← orViolation (Convention.setResult m.context m.memory p n) }
  | raise p n => m.after do
    let p ← m.value p
    let n ← m.value n
    .error (.raised (← orViolation (Convention.raised m.memory p n)))
  | log l p n =>
    let logged : Except Failure (ManagedLevel × String) := do
      let l ← m.value l
      let p ← m.value p
      let n ← m.value n
      return (.ofCode l.toInt, ← orViolation (Convention.logged m.memory p n))
    match logged with
    | .ok (level, message) => m.log level message
    | .error f => (.failed f, m)
  | logEnabled l target => m.after do
    let l ← m.value l
    m.store target (Convention.logEnabled m.context l)
  | exit s => m.after do
    let s ← m.value s
    m.requireMemory
    .error (.fault (.exit s))
  | seesEnvironment a => m.after do
    m.askEnvironment a
    m.store (some a) (Machine.truth c.capabilities.environment)
  | seesDirectory a => m.after do
    m.askDirectory c a
    m.store (some a) (Machine.truth c.capabilities.filesystem)
  | store target x => m.after do
    m.store target (← m.value x)
  | add target x y => m.after do
    let x ← m.value x
    let y ← m.value y
    m.store target (x + y)
  | grow n target => m.after do
    let n ← m.value n
    match m.memory.grow? c.pageLimit n.toUInt32.toNat with
    | some memory => ({ m with memory } : Machine).store target (.ofNat m.memory.pages)
    | none => m.store target (-1)
  | capitals p n => m.after do
    let p ← m.value p
    let n ← m.value n
    m.makeCapitals p.toUInt32.toNat n.toUInt32.toNat
  | size target => m.after (m.store target (.ofNat m.memory.pages))
  | leave => (.left, m)
  | spin =>
    let (f, m) := m.spin c
    (.failed f, m)
  | trap t => (.failed (.trapped t), m)

/-- The code of a routine. -/
def Body.run (c : Conditions) : Body → Machine → Flow × Machine
  | done, m => (.onward, m)
  | step i rest, m =>
    match i.run c m with
    | (.onward, m) => rest.run c m
    | stopped => stopped
  | branch x negative other rest, m =>
    match m.value x with
    | .error f => (.failed f, m)
    | .ok n =>
      match (if n.toInt < 0 then negative.run c m else other.run c m) with
      | (.onward, m) => rest.run c m
      | stopped => stopped

/-- A routine entered: entering takes one unit of fuel, and some must be left. -/
def Body.enter (c : Conditions) (b : Body) (m : Machine) : Flow × Machine :=
  let m := { m with fuel := m.fuel - 1 }
  if c.metered ∧ m.fuel = 0 then (.failed (.trapped .outOfFuel), m) else b.run c m

end GuestRoutines
