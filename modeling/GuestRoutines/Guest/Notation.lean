import GuestRoutines.Guest.Validity
import GuestRoutines.Json.Reader
import GuestRoutines.Text.Hex

/-!
# The notation of guest programs

A guest program is written as a JSON object with the fields `memory`, `data`, `start`,
`extra_imports` and `exports`, all but the last optional. An instruction is an array that begins
with its name. An operand is a number or an object `mem` with an address, and a target is an address
or null.

## Main definitions

* `Program.ofJson?` — the program that a JSON value describes
* `Program.parse` — the valid program that a text describes
-/

namespace GuestRoutines

namespace Json

/-- The value of a member of an object. -/
def member? (v : Json) (name : String) : Option Json :=
  match v with
  | object members => members.lookup (some name)
  | _ => none

/-- A whole number. -/
def asInt? : Json → Option Int
  | number n =>
    match n.scalar? with
    | some (.int k) => some k
    | _ => none
  | _ => none

/-- A whole number that is not negative. -/
def asNat? (v : Json) : Option Nat :=
  v.asInt?.bind fun k => if 0 ≤ k then some k.toNat else none

/-- A text. -/
def asText? : Json → Option String
  | text s => s
  | _ => none

/-- The items of an array. -/
def asItems? : Json → Option (List Json)
  | array items => some items
  | _ => none

/-- A value that may be missing or null. -/
def optional {α : Type} (read : Json → Option α) : Option Json → Option (Option α)
  | none | some null => some none
  | some v => (read v).map some

end Json

/-- Bytes in hexadecimal, two digits for each. -/
def Text.ofHex? : List Char → Option (List UInt8)
  | [] => some []
  | a :: b :: rest =>
    match Text.hexNumber? [a, b], ofHex? rest with
    | some n, some bytes => some (UInt8.ofNat n :: bytes)
    | _, _ => none
  | _ => none

namespace Trap

/-- The trap of a name. -/
def ofName? : String → Option Trap
  | "unreachable" => some unreachable
  | "div_zero" => some divisionByZero
  | "div_overflow" => some overflow
  | "conversion" => some conversion
  | "memory" => some memory
  | "null_call" => some nullCall
  | "table" => some table
  | "bad_signature" => some badSignature
  | "stack" => some stack
  | _ => none

end Trap

/-- A 32-bit operand. -/
def Operand.ofJson? (v : Json) : Option Operand :=
  match v with
  | .object _ => (v.member? "mem").bind fun a => a.asInt?.map fun k => word (.ofInt k)
  | v => v.asInt?.map fun k => constant (.ofInt k)

/-- An address. -/
def addressOfJson? (v : Json) : Option UInt32 := v.asInt?.map UInt32.ofInt

/-- Where a result goes. -/
def targetOfJson? : Json → Option Target
  | .null => some none
  | v => (addressOfJson? v).map some

/-- An instruction. -/
def Instruction.ofItems? : List Json → Option Instruction
  | [.text (some "arg_count"), target] => return argCount (← targetOfJson? target)
  | [.text (some "arg_len"), i, target] =>
    return argLength (← Operand.ofJson? i) (← targetOfJson? target)
  | [.text (some "arg_read"), i, p] => return argRead (← Operand.ofJson? i) (← Operand.ofJson? p)
  | [.text (some "set_result"), p, n] =>
    return setResult (← Operand.ofJson? p) (← Operand.ofJson? n)
  | [.text (some "raise"), p, n] => return raise (← Operand.ofJson? p) (← Operand.ofJson? n)
  | [.text (some "log"), l, p, n] =>
    return log (← Operand.ofJson? l) (← Operand.ofJson? p) (← Operand.ofJson? n)
  | [.text (some "log_enabled"), l, target] =>
    return logEnabled (← Operand.ofJson? l) (← targetOfJson? target)
  | [.text (some "store"), target, x] => return store (← targetOfJson? target) (← Operand.ofJson? x)
  | [.text (some "add"), target, x, y] =>
    return add (← targetOfJson? target) (← Operand.ofJson? x) (← Operand.ofJson? y)
  | [.text (some "grow"), n, target] => return grow (← Operand.ofJson? n) (← targetOfJson? target)
  | [.text (some "capitals"), p, n] =>
    return capitals (← Operand.ofJson? p) (← Operand.ofJson? n)
  | [.text (some "size"), target] => return size (← targetOfJson? target)
  | [.text (some "return")] => some leave
  | [.text (some "spin")] => some spin
  | [.text (some "proc_exit"), s] => return exit (← Operand.ofJson? s)
  | [.text (some "has_env"), a] => return seesEnvironment (← addressOfJson? a)
  | [.text (some "has_preopen"), a] => return seesDirectory (← addressOfJson? a)
  | [.text (some "trap"), .text (some name)] => return trap (← Trap.ofName? name)
  | _ => none

/-- Code whose branches are nested at most `depth` deep. -/
def Body.ofItems? (depth : Nat) : List Json → Option Body
  | [] => some done
  | v :: rest =>
    match v, depth with
    | .array [.text (some "if_neg"), x, .array negative, .array other], depth + 1 => do
      return branch (← Operand.ofJson? x) (← ofItems? depth negative) (← ofItems? depth other)
        (← ofItems? (depth + 1) rest)
    | .array items, depth => do
      return step (← Instruction.ofItems? items) (← ofItems? depth rest)
    | _, _ => none
termination_by items => (depth, items.length)

/-- The code of a routine. -/
def Body.ofJson? (v : Json) : Option Body := v.asItems?.bind (ofItems? v.depth)

/-- The type of a routine. -/
def Signature.ofJson? : Json → Option Signature
  | .text (some "param") => some takesWord
  | .text (some "result") => some givesWord
  | _ => none

/-- An exported routine. -/
def Routine.ofJson? (v : Json) : Option Routine := do
  let signature ← Json.optional Signature.ofJson? (v.member? "sig")
  return {
    name := ← (← v.member? "name").asText?
    body := (← Json.optional Body.ofJson? (v.member? "body")).getD .done
    signature := signature.getD .plain }

/-- A declared memory. -/
def MemoryType.ofJson? (v : Json) : Option MemoryType := do
  return {
    minimum := ← (← v.member? "pages").asNat?
    maximum := ← Json.optional Json.asNat? (v.member? "max")
    exportName := ← Json.optional Json.asText? (v.member? "export") }

/-- A data segment: its offset and its bytes. -/
def DataSegment.ofJson? : Json → Option DataSegment
  | .array [offset, .text (some hex)] => do
    return { offset := ← offset.asNat?, bytes := ⟨(← Text.ofHex? hex.toList).toArray⟩ }
  | _ => none

/-- An import: the module and the name. -/
def importOfJson? : Json → Option (String × String)
  | .array [.text (some module), .text (some name)] => some (module, name)
  | _ => none

/-- The items of a list that may be missing. -/
def listOfJson? {α : Type} (read : Json → Option α) (v : Option Json) : Option (List α) := do
  let items ← Json.optional Json.asItems? v
  (items.getD []).mapM read

namespace Program

/-- The program that a JSON value describes. -/
def ofJson? (v : Json) : Option Program := do
  return {
    unresolved := ← listOfJson? importOfJson? (v.member? "extra_imports")
    memory := ← Json.optional MemoryType.ofJson? (v.member? "memory")
    data := ← listOfJson? DataSegment.ofJson? (v.member? "data")
    start := ← Json.optional Body.ofJson? (v.member? "start")
    routines := ← (← (← v.member? "exports").asItems?).mapM Routine.ofJson? }

/-- What is said of a text that describes no program. -/
def unreadable : String := "not the notation of a guest program"

/-- What is said of a program that is not valid. -/
def invalid : String := "the program is not valid"

/-- The valid program that a text describes. -/
def parse (s : String) : Except String Program :=
  match (Json.parseSound? s).bind ofJson? with
  | some p => if p.isValid then .ok p else .error invalid
  | none => .error unreadable

/-- A program that exports routines of the given names, which do nothing. -/
def ofExportNames (names : List String) : Program :=
  { routines := names.map fun name => { name } }

end Program

end GuestRoutines
