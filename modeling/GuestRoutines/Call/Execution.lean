import GuestRoutines.Call.Machine
import GuestRoutines.Call.Outcome

/-!
# Executing a routine

A call instantiates the module afresh, looks up the routine and runs it. Failures on the way are
classified: what the guest did wrong can be gone on after, and only a fault of the engine in the
routine itself is fatal.

## Main definitions

* `Program.instantiate` — memory, data and start routine
* `Failure.outcome` — how a failure ends the call
* `Program.execute` — a whole call
-/

namespace GuestRoutines

/-- The part of a call in which a failure happens. -/
inductive Phase where
  | instantiation
  | routine
  deriving DecidableEq, Repr

namespace Failure

/-- How a failure ends the call. -/
def outcome (phase : Phase) : Failure → RoutineOutcome
  | raised message => .recoverable { kind := .raised, message }
  | violation v => .recoverable { kind := .abiViolation, message := v.reason }
  | trapped .outOfFuel =>
    .recoverable
      { kind := .fuelExhausted
        message := "routine exhausted its fuel budget"
        code := Trap.outOfFuel.code }
  | trapped .interrupted =>
    .recoverable
      { kind := .timeout
        message := "routine exceeded its time limit"
        code := Trap.interrupted.code }
  | trapped t =>
    .recoverable { kind := .trap, message := s!"wasm trap: {t.reason}", code := t.code }
  | fault f =>
    match phase with
    | .instantiation =>
      .recoverable { kind := .abiViolation, message := s!"instantiation failed: {f.message}" }
    | .routine => .fatal ⟨f.message⟩

end Failure

/-- The agreed name of the memory that the host reads and writes. -/
def memoryName : String := "memory"

namespace MemoryType

/-- The memory that a guest begins with. -/
def fresh (t : MemoryType) : Memory :=
  { pages := t.minimum, maximum := t.maximum, exported := t.exportName == some memoryName }

end MemoryType

namespace Program

/-- The memory of a new instance. -/
def freshMemory (p : Program) : Memory := (p.memory.map (·.fresh)).getD .none

/-- Data segments copied one after the other; one outside of memory is a trap. -/
def copyData (m : Machine) : List DataSegment → Flow × Machine
  | [] => (.onward, m)
  | d :: ds =>
    match m.memory.write? d.offset d.bytes with
    | some memory => copyData { m with memory } ds
    | none => (.failed (.trapped .memory), m)

/-- The start routine, if the program has one. -/
def runStart (p : Program) (c : Conditions) (m : Machine) : Flow × Machine :=
  match p.start with
  | none => (.onward, m)
  | some b => b.enter c m

/-- A new instance: its imports are looked up, its memory is reserved, its data copied and its start
routine run. Calls follow one another, so that only a bound of zero instances is ever met. -/
def instantiate (p : Program) (c : Conditions) (fuel : Nat) (context : CallContext) :
    Flow × Machine :=
  let m : Machine := { memory := p.freshMemory, fuel, context }
  match p.unresolved with
  | (module, name) :: _ => (.failed (.fault (.unknownImport module name)), m)
  | [] =>
    if c.instanceLimit = some 0 then (.failed (.fault (.instanceLimit 0)), m)
    else if c.pageLimit < p.freshMemory.pages then
      (.failed (.fault (.memoryLimit p.freshMemory.pages)), m)
    else
      match copyData m p.data with
      | (.onward, m) => p.runStart c m
      | stopped => stopped

/-- Why a program has no callable routine of a name. -/
def missing (p : Program) (name : String) : String :=
  if p.exportsRoutine name then s!"export '{name}' must have the signature () -> ()"
  else s!"module has no routine named '{name}'"

/-- The code of the callable routine of a name. -/
def callable? (p : Program) (name : String) : Option Body :=
  match p.routine? name with
  | some r => if r.signature = .plain then some r.body else none
  | none => none

end Program

/-- The context at the end of a run, with what the run consumed taken down. -/
def Machine.finish (m : Machine) (budget : Nat) : CallContext :=
  let context := { m.context with
    metrics := { m.context.metrics with fuelConsumed := budget - m.fuel } }
  context.finalize

namespace Program

/-- A whole call: how it ends, and the context afterwards. The result slot is read only when the
routine has come to its end. -/
def execute (p : Program) (c : Conditions) (budget : Nat) (name : String)
    (context : CallContext) : Except Unwinding RoutineOutcome × CallContext :=
  let fuel := if c.metered then budget else 0
  match p.instantiate c fuel context with
  | (.unwound u, m) => (.error u, m.context)
  | (.failed f, m) => (.ok (f.outcome .instantiation), m.finish fuel)
  | (_, m) =>
    match p.callable? name with
    | none => (.ok (.recoverable { kind := .missingExport, message := p.missing name }), m.context)
    | some b =>
      match b.enter c m with
      | (.unwound u, m) => (.error u, m.context)
      | (.failed f, m) => (.ok (f.outcome .routine), m.finish fuel)
      | (_, m) =>
        let (result, context) := (m.finish fuel).takeResult
        (.ok (.success (.ofResult result)), context)

end Program

end GuestRoutines
