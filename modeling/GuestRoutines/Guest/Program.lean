import GuestRoutines.Text.Bytes

/-!
# Guest programs

A guest program is what remains of a module once it is compiled: its memory, the data put there at
the beginning, a start routine, and the routines it exports. Routines are straight-line code with
branches; the only loop is the one that never ends.

## Main definitions

* `Trap` — the ways in which the engine stops a routine
* `Operand`, `Instruction`, `Body` — code
* `Program` — a compiled module
-/

namespace GuestRoutines

/-- The ways in which the engine stops a routine. -/
inductive Trap where
  | unreachable
  | divisionByZero
  | overflow
  | conversion
  | memory
  | nullCall
  | table
  | badSignature
  | stack
  /-- The fuel of the call is used up. -/
  | outOfFuel
  /-- The time limit of the call has passed. -/
  | interrupted
  deriving DecidableEq, Repr

namespace Trap

/-- The trap in words. -/
def reason : Trap → String
  | unreachable => "wasm `unreachable` instruction executed"
  | divisionByZero => "integer divide by zero"
  | overflow => "integer overflow"
  | conversion => "invalid conversion to integer"
  | memory => "out of bounds memory access"
  | nullCall => "uninitialized element"
  | table => "undefined element: out of bounds table access"
  | badSignature => "indirect call type mismatch"
  | stack => "call stack exhausted"
  | outOfFuel => "all fuel consumed by WebAssembly"
  | interrupted => "interrupt"

/-- The engine's name of the trap. -/
def code : Trap → String
  | unreachable => "UnreachableCodeReached"
  | divisionByZero => "IntegerDivisionByZero"
  | overflow => "IntegerOverflow"
  | conversion => "BadConversionToInteger"
  | memory => "MemoryOutOfBounds"
  | nullCall => "IndirectCallToNull"
  | table => "TableOutOfBounds"
  | badSignature => "BadSignature"
  | stack => "StackOverflow"
  | outOfFuel => "OutOfFuel"
  | interrupted => "Interrupt"

end Trap

/-- A 32-bit operand: a constant, or the word at an address. -/
inductive Operand where
  | constant (n : Int32)
  | word (address : UInt32)
  deriving DecidableEq, Repr

/-- Where a 32-bit result goes; without an address it is dropped. -/
abbrev Target := Option UInt32

/-- One instruction. The first group calls the host. -/
inductive Instruction where
  | argCount (target : Target)
  | argLength (index : Operand) (target : Target)
  | argRead (index pointer : Operand)
  | setResult (pointer length : Operand)
  | raise (pointer length : Operand)
  | log (level pointer length : Operand)
  | logEnabled (level : Operand) (target : Target)
  /-- Ends the whole process of the guest with a status. -/
  | exit (status : Operand)
  /-- Whether any environment variable is visible. -/
  | seesEnvironment (target : UInt32)
  /-- Whether any directory is open to the guest. -/
  | seesDirectory (target : UInt32)
  | store (target : Target) (x : Operand)
  | add (target : Target) (x y : Operand)
  | grow (pages : Operand) (target : Target)
  /-- Makes the ASCII small letters of a range capital. -/
  | capitals (pointer length : Operand)
  | size (target : Target)
  /-- Leaves the routine. -/
  | leave
  /-- Loops for ever. -/
  | spin
  | trap (t : Trap)
  deriving DecidableEq, Repr

/-- The code of a routine. -/
inductive Body where
  /-- The end of the code. -/
  | done
  /-- An instruction, and the code after it. -/
  | step (i : Instruction) (rest : Body)
  /-- Code for a negative and for any other operand, and the code after both. -/
  | branch (x : Operand) (negative other rest : Body)
  deriving DecidableEq, Repr

/-- The type of an exported routine. -/
inductive Signature where
  /-- No parameters and no results, as a callable routine must have. -/
  | plain
  | takesWord
  | givesWord
  deriving DecidableEq, Repr

/-- A routine that a program exports. -/
structure Routine where
  name : String
  body : Body := .done
  signature : Signature := .plain
  deriving DecidableEq, Repr

/-- The memory that a program declares. -/
structure MemoryType where
  minimum : Nat
  maximum : Option Nat := none
  /-- The name under which the memory is exported. -/
  exportName : Option String := none
  deriving DecidableEq, Repr

/-- Bytes that are put into memory before any code runs. -/
structure DataSegment where
  offset : Nat
  bytes : ByteArray
  deriving DecidableEq

/-- A compiled module. -/
structure Program where
  /-- The imports that no host function satisfies, as module and name. -/
  unresolved : List (String × String) := []
  memory : Option MemoryType := none
  data : List DataSegment := []
  start : Option Body := none
  routines : List Routine := []
  deriving DecidableEq

namespace Program

/-- The names of the exported routines, in order. -/
def exportNames (p : Program) : List String := p.routines.map (·.name)

/-- A routine of this name is exported, whatever its type. -/
def exportsRoutine (p : Program) (name : String) : Bool := p.routines.any (·.name == name)

/-- The exported routine of a name. -/
def routine? (p : Program) (name : String) : Option Routine := p.routines.find? (·.name == name)

end Program

end GuestRoutines
