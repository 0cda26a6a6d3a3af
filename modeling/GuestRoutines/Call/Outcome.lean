import GuestRoutines.Value.Basic

/-!
# How a call ends

A call of a routine succeeds with a value, ends in an error that the host can go on after, or in a
fault after which the host process must not go on.

## Main definitions

* `ManagedError` — an error that the host can go on after, with its kind
* `NativeFault` — a fault that ends the process
* `RoutineOutcome` — the three endings
-/

namespace GuestRoutines

/-- The kinds of errors that the host can go on after. -/
inductive ManagedError.Kind where
  /-- The routine raised the error itself. -/
  | raised
  | trap
  | fuelExhausted
  | timeout
  /-- The module has no such routine. -/
  | missingExport
  /-- The module could not be loaded. -/
  | loadFailed
  /-- The routine broke the calling convention. -/
  | abiViolation
  deriving DecidableEq, Repr

/-- The kind in words. -/
def ManagedError.Kind.text : ManagedError.Kind → String
  | raised => "raised"
  | trap => "trap"
  | fuelExhausted => "fuel exhausted"
  | timeout => "timeout"
  | missingExport => "missing export"
  | loadFailed => "load failed"
  | abiViolation => "abi violation"

/-- An error that the host can go on after. -/
structure ManagedError where
  kind : ManagedError.Kind
  message : String
  /-- The engine's name of the trap, if a trap ended the call. -/
  code : Option String := none
  deriving DecidableEq, Repr

/-- A limit of the call stopped the routine. -/
def ManagedError.isResourceLimit (e : ManagedError) : Bool :=
  e.kind == .fuelExhausted || e.kind == .timeout

/-- A fault after which the host process must not go on. -/
structure NativeFault where
  message : String
  deriving DecidableEq, Repr

/-- The fault in words. -/
def NativeFault.display (f : NativeFault) : String := s!"Native fault: {f.message}"

/-- How a call of a routine ends. -/
inductive RoutineOutcome where
  | success (v : HostValue)
  | recoverable (e : ManagedError)
  | fatal (f : NativeFault)
  deriving DecidableEq

namespace RoutineOutcome

def isSuccess : RoutineOutcome → Bool
  | success _ => true
  | _ => false

def isFatal : RoutineOutcome → Bool
  | fatal _ => true
  | _ => false

end RoutineOutcome

end GuestRoutines
