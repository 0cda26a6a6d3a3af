import GuestRoutines.Embedding.Lifecycle

/-!
# Dispatching calls

A call first makes sure that the runtime is ready, then reads the identifier of the routine, looks
the routine up and calls it. Each step has its own way to fail, and the first failure is the
outcome of the call.

## Main definitions

* `CallError`, `CallOutcome` — how a dispatched call ends
* `Embedder.dispatch` — a call
* `CallCounts` — how many calls ended in which way
-/

namespace GuestRoutines

/-- Why a call fails in a way that the host can go on after. -/
inductive CallError where
  | initialization (e : StartupError)
  /-- The text is no identifier of a routine. -/
  | invalidRoutine (routine : String)
  | notFound (routine : String)
  | loadFailed (routine reason : String)
  | managed (e : ManagedError)
  deriving DecidableEq, Repr

namespace CallError

/-- The error in words. -/
def message : CallError → String
  | initialization e => e.message
  | invalidRoutine routine => RoutineId.invalidMessage routine
  | notFound routine => s!"routine '{routine}' does not exist"
  | loadFailed routine reason => s!"routine '{routine}' could not be loaded: {reason}"
  | managed e => e.message

def isInitialization : CallError → Bool
  | initialization _ => true
  | _ => false

def isNotFound : CallError → Bool
  | notFound _ => true
  | _ => false

/-- Why a routine that was looked up cannot be called. -/
def ofModuleError (id : RoutineId) (e : ModuleError) : CallError :=
  if e.isNotFound then notFound id.display else loadFailed id.display e.message

end CallError

/-- How a dispatched call ends. -/
inductive CallOutcome where
  | success (v : HostValue)
  | recoverable (e : CallError)
  | fatal (f : NativeFault)
  deriving DecidableEq

namespace CallOutcome

def isSuccess : CallOutcome → Bool
  | success _ => true
  | _ => false

def isFatal : CallOutcome → Bool
  | fatal _ => true
  | _ => false

/-- The outcome of a routine as the outcome of the call. -/
def ofRoutine : RoutineOutcome → CallOutcome
  | .success v => success v
  | .recoverable e => recoverable (.managed e)
  | .fatal f => fatal f

end CallOutcome

namespace Embedder

variable {ρ : Type}

/-- A routine looked up in a runtime that is ready. -/
def resolveIn (L : Launcher ρ) (params : StartupParams) (runtime : ρ) (id : RoutineId)
    (e : Embedder ρ) : Except Unwinding (Except ModuleError RoutineHandle) × ρ × Embedder ρ :=
  let (answer, runtime, host) := L.resolve id runtime e.host
  let found := match answer with
    | .ok (.ok handle) => some handle
    | _ => none
  let e := { e with host, lifecycle := .ready params runtime }
  (answer, runtime, e.noting (.resolve id found))

/-- A routine called in a runtime that is ready. -/
def callIn (L : Launcher ρ) (params : StartupParams) (runtime : ρ) (handle : RoutineHandle)
    (arguments : List HostValue) (e : Embedder ρ) :
    Except Unwinding RoutineOutcome × Embedder ρ :=
  let (outcome, runtime, host) := L.call handle arguments runtime e.host
  let e := { e with host, lifecycle := .ready params runtime }
  (outcome, e.noting (.call handle))

/-- A routine looked up, if the runtime is ready. -/
def resolve (L : Launcher ρ) (id : RoutineId) (e : Embedder ρ) :
    Option (Except Unwinding (Except ModuleError RoutineHandle)) × Embedder ρ :=
  match e.lifecycle with
  | .ready params runtime =>
    let (answer, _, e) := e.resolveIn L params runtime id
    (some answer, e)
  | _ => (none, e)

/-- A routine looked up and called in a runtime that is ready. -/
def resolveAndCall (L : Launcher ρ) (params : StartupParams) (runtime : ρ) (id : RoutineId)
    (arguments : List HostValue) (e : Embedder ρ) : Except Unwinding CallOutcome × Embedder ρ :=
  match e.resolveIn L params runtime id with
  | (.error u, _, e) => (.error u, e)
  | (.ok (.error error), _, e) => (.ok (.recoverable (.ofModuleError id error)), e)
  | (.ok (.ok handle), runtime, e) =>
    let (outcome, e) := e.callIn L params runtime handle arguments
    (outcome.map CallOutcome.ofRoutine, e)

/-- A call of a routine by the text of its identifier. -/
def dispatch (L : Launcher ρ) (routine : String) (arguments : List HostValue) (e : Embedder ρ) :
    Except Unwinding CallOutcome × Embedder ρ :=
  match e.ensureReady L with
  | (.error u, e) => (.error u, e)
  | (.ok (.error error), e) => (.ok (.recoverable (.initialization error)), e)
  | (.ok (.ok ()), e) =>
    match RoutineId.parse routine with
    | none => (.ok (.recoverable (.invalidRoutine routine)), e)
    | some id =>
      match e.lifecycle with
      | .ready params runtime => e.resolveAndCall L params runtime id arguments
      | _ => (.ok (.recoverable (.initialization .shutDown)), e)

end Embedder

/-- How many calls ended in which way. Counters of 64 bits show the same numbers below `2 ^ 64`
calls. -/
structure CallCounts where
  calls : Nat := 0
  successes : Nat := 0
  recoverable : Nat := 0
  fatal : Nat := 0
  deriving DecidableEq, Repr

namespace CallCounts

/-- One more call. -/
def record (c : CallCounts) (outcome : CallOutcome) : CallCounts :=
  let c := { c with calls := c.calls + 1 }
  match outcome with
  | .success _ => { c with successes := c.successes + 1 }
  | .recoverable _ => { c with recoverable := c.recoverable + 1 }
  | .fatal _ => { c with fatal := c.fatal + 1 }

/-- A short description for diagnostics. -/
def debug (c : CallCounts) : String :=
  s!"DispatchStats \x7b calls: {c.calls}, successes: {c.successes}, " ++
    s!"recoverable_errors: {c.recoverable}, fatal_faults: {c.fatal} \x7d"

end CallCounts

/-- A call that is counted when it returns; a call that unwinds is not counted. -/
def CallCounts.invoke {ρ : Type} (L : Launcher ρ) (routine : String) (arguments : List HostValue)
    (c : CallCounts) (e : Embedder ρ) : Except Unwinding CallOutcome × CallCounts × Embedder ρ :=
  match e.dispatch L routine arguments with
  | (.ok outcome, e) => (.ok outcome, c.record outcome, e)
  | (.error u, e) => (.error u, c, e)

end GuestRoutines
