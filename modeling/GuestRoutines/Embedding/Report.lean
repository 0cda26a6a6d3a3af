import GuestRoutines.Embedding.Dispatch

/-!
# Errors as the host reports them

The host reports an error with a level, a message and a five-character code. The code says in which
step a call failed, and only a native fault has the level after which the process must exit.

## Main definitions

* `SqlState` — the codes
* `HostError` — a report
* `HostError.ofCallError`, `HostError.ofMisuse`, `HostError.ofFault` — the report of an error
-/

namespace GuestRoutines

/-- The codes of reports. -/
inductive SqlState where
  /-- The runtime could not be started. -/
  | externalInvocation
  /-- No such routine exists. -/
  | undefinedFunction
  | invalidName
  /-- The routine could not be loaded. -/
  | invalidDefinition
  /-- The routine failed. -/
  | externalException
  /-- The operation is not allowed in this state. -/
  | wrongState
  | internalError
  deriving DecidableEq, Repr

/-- The five characters of a code. -/
def SqlState.text : SqlState → String
  | externalInvocation => "39000"
  | undefinedFunction => "42883"
  | invalidName => "42602"
  | invalidDefinition => "42P13"
  | externalException => "38000"
  | wrongState => "55000"
  | internalError => "XX000"

/-- An error as the host reports it. -/
structure HostError where
  level : HostLevel
  code : SqlState
  message : String
  detail : Option String := none
  deriving DecidableEq, Repr

namespace HostError

/-- The process must exit after the report. -/
def isFatal (e : HostError) : Bool :=
  decide (Scale.position HostLevel.fatal ≤ Scale.position e.level)

/-- Level and message in one line. -/
def display (e : HostError) : String := s!"{e.level.title}: {e.message}"

/-- The kind of an error of a routine, and the name of its trap if it has one. -/
def detailOf (e : ManagedError) : String :=
  match e.code with
  | some code => s!"{e.kind.text} ({code})"
  | none => e.kind.text

/-- The code that says in which step a call failed. -/
def codeOf : CallError → SqlState
  | .initialization _ => .externalInvocation
  | .invalidRoutine _ => .invalidName
  | .notFound _ => .undefinedFunction
  | .loadFailed _ _ => .invalidDefinition
  | .managed _ => .externalException

/-- The report of a failed call. -/
def ofCallError (e : CallError) : HostError where
  level := .error
  code := codeOf e
  message := e.message
  detail := match e with
    | .managed e => some (detailOf e)
    | _ => none

/-- The report of a refused operation. -/
def ofMisuse (m : Misuse) : HostError where
  level := .error
  code := .wrongState
  message := m.reason

/-- The report of a native fault. -/
def ofFault (f : NativeFault) : HostError where
  level := .fatal
  code := .internalError
  message := f.display

/-- What the host gets back of a call: a value or a report. -/
def ofOutcome : CallOutcome → Except HostError HostValue
  | .success v => .ok v
  | .recoverable e => .error (ofCallError e)
  | .fatal f => .error (ofFault f)

end HostError

end GuestRoutines
