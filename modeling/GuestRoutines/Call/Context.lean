import GuestRoutines.Guest.Violation
import GuestRoutines.Log.Basic
import GuestRoutines.Text.Quoted

/-!
# The context of a call

Each call has a context of its own: the arguments, a slot for the result, the messages that the
routine logged, and what the call consumed.

## Main definitions

* `LogRecord`, `Metrics` — one logged message, and what a call consumed
* `CallContext` — the context
* `CallContext.argument`, `CallContext.setResult`, `CallContext.takeResult`,
  `CallContext.record` — what host functions do with it
-/

namespace GuestRoutines

/-- A message that a routine logged, and whether it was written to the host's log. -/
structure LogRecord where
  level : ManagedLevel
  message : String
  forwarded : Bool
  deriving DecidableEq, Repr

/-- What a call consumed. -/
structure Metrics where
  /-- The time that the call took has been taken down. -/
  timed : Bool := false
  fuelConsumed : Nat := 0
  deriving DecidableEq, Repr

/-- The context of a call. -/
structure CallContext where
  callId : String
  /-- The bytes of each argument; the null value has none. -/
  arguments : List (Option ByteArray)
  /-- The result that was set last. -/
  result : Option ByteArray := none
  /-- The messages logged so far, the oldest first. -/
  records : List LogRecord := []
  log : Log
  metrics : Metrics := {}

namespace CallContext

/-- The argument at an index. -/
def argument (c : CallContext) (index : Nat) : Except Violation (Option ByteArray) :=
  match c.arguments[index]? with
  | some a => .ok a
  | none => .error (.noArgument index c.arguments.length)

/-- The context with a result in the place of any earlier one. -/
def setResult (c : CallContext) (b : ByteArray) : CallContext := { c with result := some b }

/-- The result, and the context without it. -/
def takeResult (c : CallContext) : Option ByteArray × CallContext :=
  (c.result, { c with result := none })

/-- A message logged: it is offered to the host's log and recorded. -/
def record (c : CallContext) (l : ManagedLevel) (message : String) :
    Except Unwinding Bool × CallContext :=
  match c.log.emit l message with
  | (.ok forwarded, log) =>
    (.ok forwarded, { c with log, records := c.records ++ [⟨l, message, forwarded⟩] })
  | (.error u, log) => (.error u, { c with log })

/-- The context with its time taken down. -/
def finalize (c : CallContext) : CallContext :=
  { c with metrics := { c.metrics with timed := true } }

/-- The context with the threshold of its log replaced, and the threshold that it had. -/
def setThreshold (c : CallContext) (s : Severity) : Severity × CallContext :=
  let (before, log) := c.log.setThreshold s
  (before, { c with log })

/-- A short description for diagnostics. -/
def debug (c : CallContext) : String :=
  s!"RoutineContext \x7b call_id: {Text.quoted c.callId}, args: {c.arguments.length}, " ++
    s!"logs: {c.records.length}, .. \x7d"

end CallContext

end GuestRoutines
