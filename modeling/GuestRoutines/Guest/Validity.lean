import GuestRoutines.Guest.Memory
import GuestRoutines.Guest.Program

/-!
# Valid programs

The notation describes more than a compiler accepts. A valid program declares a memory that 32-bit
addresses reach, uses memory only if it declares one, and exports each name once.

## Main definitions

* `MemoryType.isValid` — a memory may be declared so
* `Instruction.usesMemory`, `Body.usesMemory` — code that needs a memory of its own
* `Program.isValid` — a compiler accepts the program
-/

namespace GuestRoutines

/-- The bounds are in order and within the reach of 32-bit addresses. -/
def MemoryType.isValid (t : MemoryType) : Bool :=
  decide (t.minimum ≤ t.maximum.getD Memory.pageBound ∧
    t.maximum.getD Memory.pageBound ≤ Memory.pageBound)

/-- The operand is read from memory. -/
def Operand.isWord : Operand → Bool
  | constant _ => false
  | word _ => true

namespace Instruction

/-- The operands of the instruction. -/
def operands : Instruction → List Operand
  | argLength x _ | exit x | store _ x | grow x _ | logEnabled x _ => [x]
  | argRead x y | setResult x y | raise x y | add _ x y | capitals x y => [x, y]
  | log x y z => [x, y, z]
  | argCount _ | seesEnvironment _ | seesDirectory _ | size _ | leave | spin | trap _ => []

/-- Where the instruction stores a result, if it does. -/
def target? : Instruction → Option UInt32
  | argCount t | argLength _ t | logEnabled _ t | store t _ | add t _ _ | grow _ t | size t => t
  | seesEnvironment a | seesDirectory a => some a
  | _ => none

/-- The instruction works on the memory itself. -/
def isMemoryInstruction : Instruction → Bool
  | grow .. | size _ | capitals .. => true
  | _ => false

/-- The instruction needs a memory. What the host reads and writes for it does not count. -/
def usesMemory (i : Instruction) : Bool :=
  i.isMemoryInstruction || i.target?.isSome || i.operands.any (·.isWord)

end Instruction

/-- The code needs a memory. -/
def Body.usesMemory : Body → Bool
  | done => false
  | step i rest => i.usesMemory || rest.usesMemory
  | branch x negative other rest =>
    x.isWord || negative.usesMemory || other.usesMemory || rest.usesMemory

namespace Program

/-- All code of the program. -/
def bodies (p : Program) : List Body := p.start.toList ++ p.routines.map (·.body)

/-- The program needs a memory. -/
def usesMemory (p : Program) : Bool := !p.data.isEmpty || p.bodies.any (·.usesMemory)

/-- The names of everything that is exported. -/
def exportedNames (p : Program) : List String :=
  p.exportNames ++ (p.memory.bind (·.exportName)).toList

/-- A compiler accepts the program. -/
def isValid (p : Program) : Bool :=
  (match p.memory with
    | some t => t.isValid
    | none => !p.usesMemory) &&
  decide p.exportedNames.Nodup

end Program

end GuestRoutines
