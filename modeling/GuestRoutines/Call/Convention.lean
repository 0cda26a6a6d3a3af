import GuestRoutines.Call.Context
import GuestRoutines.Guest.Memory
import GuestRoutines.Text.Utf8

/-!
# The calling convention between guest and host

A guest names its arguments by index and its bytes by pointer and length, all of them 32-bit words.
Words are checked before anything is read or written: first their signs, then that the host can find
the memory, then that the range lies within it.

## Main definitions

* `Convention.readRange`, `Convention.writeRange` — bytes of the guest's memory
* `Convention.argumentCount`, `Convention.argumentLength`, `Convention.readArgument` — arguments
* `Convention.setResult`, `Convention.raised`, `Convention.log`, `Convention.logEnabled` — what a
  guest hands to the host
* `Convention.Group` — the host functions, in the groups in which they are offered
-/

namespace GuestRoutines.Convention

/-- The greatest number that a signed word can say. -/
def wordMax : Nat := 2147483647

/-- The bytes of the range that a guest names by pointer and length. -/
def readRange (m : Memory) (pointer length : Int32) : Except Violation ByteArray :=
  let (p, n) := (pointer.toInt, length.toInt)
  if p < 0 ∨ n < 0 then .error (.negativeRange p n)
  else if !m.exported then .error .noMemory
  else
    match m.read? p.toNat n.toNat with
    | some b => .ok b
    | none => .error (.readOutside n.toNat p.toNat)

/-- The memory with bytes written where a guest points. -/
def writeRange (m : Memory) (pointer : Int32) (b : ByteArray) : Except Violation Memory :=
  let p := pointer.toInt
  if p < 0 then .error (.negativePointer p)
  else if !m.exported then .error .noMemory
  else
    match m.write? p.toNat b with
    | some m => .ok m
    | none => .error (.writeOutside b.size p.toNat)

/-- The index that a word says. -/
def index (i : Int32) : Except Violation Nat :=
  if i.toInt < 0 then .error (.negativeIndex i.toInt) else .ok i.toInt.toNat

/-- The number of arguments. -/
def argumentCount (c : CallContext) : Except Violation Int32 :=
  let n := c.arguments.length
  if n ≤ wordMax then .ok (.ofNat n) else .error .tooManyArguments

/-- The length of an argument in bytes, and minus one for the null value. -/
def argumentLength (c : CallContext) (i : Int32) : Except Violation Int32 := do
  let i ← index i
  match ← c.argument i with
  | none => return -1
  | some b => if b.size ≤ wordMax then return .ofNat b.size else .error (.longArgument i)

/-- The memory with an argument written where the guest points. -/
def readArgument (c : CallContext) (m : Memory) (i pointer : Int32) : Except Violation Memory := do
  let i ← index i
  match ← c.argument i with
  | none => .error (.nullArgument i)
  | some b => writeRange m pointer b

/-- The context with the result that the guest points at. -/
def setResult (c : CallContext) (m : Memory) (pointer length : Int32) :
    Except Violation CallContext := do
  return c.setResult (← readRange m pointer length)

/-- The message of an error that the guest raises. -/
def raised (m : Memory) (pointer length : Int32) : Except Violation String := do
  return Text.ofBytesLossy (← readRange m pointer length)

/-- The message that the guest logs. -/
def logged (m : Memory) (pointer length : Int32) : Except Violation String := do
  match Text.ofBytes? (← readRange m pointer length) with
  | some s => return s
  | none => .error .invalidText

/-- One if a message of the level would be written, and zero otherwise. -/
def logEnabled (c : CallContext) (level : Int32) : Int32 :=
  if c.log.isEnabled (.ofCode level.toInt) then 1 else 0

/-! ### Offering the host functions -/

/-- The groups in which host functions are offered to guests. -/
inductive Group where
  | logging | arguments | result | system
  deriving DecidableEq, Repr

/-- The host functions of a group. The system interface stands for all its functions. -/
def Group.functions : Group → List String
  | logging => ["log", "log_enabled"]
  | arguments => ["arg_count", "arg_len", "arg_read"]
  | result => ["set_result", "raise"]
  | system => ["wasi_snapshot_preview1"]

/-- All groups, in the order in which they are offered together. -/
def Group.all : List Group := [logging, arguments, result, system]

/-- Functions offered one after the other; the first one that is already on offer ends it. The
functions then on offer, and the one that was offered twice. -/
def offer (offered : List String) : List String → List String × Option String
  | [] => (offered, none)
  | f :: fs => if f ∈ offered then (offered, some f) else offer (offered ++ [f]) fs

/-- What is said of a function that is offered twice. -/
def offeredTwice (f : String) : String :=
  s!"Failed to register host function '{f}': import of `env::{f}` defined twice"

end GuestRoutines.Convention
