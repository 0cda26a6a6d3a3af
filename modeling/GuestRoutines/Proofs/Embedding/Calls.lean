import GuestRoutines.Proofs.Embedding.Lifecycle

/-!
# What is done with a bridge

Beside the operations on its embedder, a bridge has calls. A call goes through startup, the reading
of the identifier, the lookup and the routine itself, and it ends where the first of them fails.

## Main definitions

* `Embedder.LooksUp` — a call comes as far as the lookup of its routine
* `Embedder.Dispatched` — the six ways in which a call ends
* `Bridge.Operation`, `Bridge.performAll` — what is done with a bridge, and a run of it

## Main results

* `Embedder.dispatched_dispatch` — a call ends in one of the six ways
-/

namespace GuestRoutines

namespace Embedder

variable {ρ : Type}

/-- A call comes as far as the lookup of its routine: startup succeeds, the identifier is read, and
the runtime that is then ready gives an answer. -/
structure LooksUp (L : Launcher ρ) (routine : String) (e : Embedder ρ) (params : StartupParams)
    (id : RoutineId) (answer : Except Unwinding (Except ModuleError RoutineHandle)) (runtime : ρ)
    (host : Host) : Prop where
  started : (e.ensureReady L).1 = .ok (.ok ())
  read : RoutineId.parse routine = some id
  looked : ∃ before, (e.ensureReady L).2.lifecycle = .ready params before ∧
    L.resolve id before (e.ensureReady L).2.host = (answer, runtime, host)

/-- How a call ends, and the embedder afterwards. -/
inductive Dispatched (L : Launcher ρ) (routine : String) (arguments : List HostValue)
    (e : Embedder ρ) : Except Unwinding CallOutcome → Embedder ρ → Prop where
  | startupUnwound (u : Unwinding) (started : (e.ensureReady L).1 = .error u) :
      Dispatched L routine arguments e (.error u) (e.ensureReady L).2
  | startupFailed (error : StartupError) (started : (e.ensureReady L).1 = .ok (.error error)) :
      Dispatched L routine arguments e (.ok (.recoverable (.initialization error)))
        (e.ensureReady L).2
  | malformed (started : (e.ensureReady L).1 = .ok (.ok ()))
      (unread : RoutineId.parse routine = none) :
      Dispatched L routine arguments e (.ok (.recoverable (.invalidRoutine routine)))
        (e.ensureReady L).2
  | lookupUnwound (params : StartupParams) (id : RoutineId) (u : Unwinding) (runtime : ρ)
      (host : Host) (looked : LooksUp L routine e params id (.error u) runtime host) :
      Dispatched L routine arguments e (.error u)
        { (e.ensureReady L).2 with
          lifecycle := .ready params runtime
          host
          events := (e.ensureReady L).2.events ++ [.resolve id none] }
  | lookupFailed (params : StartupParams) (id : RoutineId) (error : ModuleError) (runtime : ρ)
      (host : Host) (looked : LooksUp L routine e params id (.ok (.error error)) runtime host) :
      Dispatched L routine arguments e (.ok (.recoverable (.ofModuleError id error)))
        { (e.ensureReady L).2 with
          lifecycle := .ready params runtime
          host
          events := (e.ensureReady L).2.events ++ [.resolve id none] }
  | called (params : StartupParams) (id : RoutineId) (handle : RoutineHandle) (between after : ρ)
      (host last : Host) (outcome : Except Unwinding RoutineOutcome)
      (looked : LooksUp L routine e params id (.ok (.ok handle)) between host)
      (call : L.call handle arguments between host = (outcome, after, last)) :
      Dispatched L routine arguments e (outcome.map CallOutcome.ofRoutine)
        { (e.ensureReady L).2 with
          lifecycle := .ready params after
          host := last
          events := (e.ensureReady L).2.events ++ [.resolve id (some handle), .call handle] }

theorem dispatched_dispatch (L : Launcher ρ) (routine : String) (arguments : List HostValue)
    (e : Embedder ρ) :
    Dispatched L routine arguments e (e.dispatch L routine arguments).1
      (e.dispatch L routine arguments).2 := by
  have settled := ensureReady_eq_ok_iff L e
  unfold dispatch
  split
  · next u after ready =>
    obtain rfl : after = (e.ensureReady L).2 := by rw [ready]
    exact .startupUnwound u (congrArg Prod.fst ready)
  · next error after ready =>
    obtain rfl : after = (e.ensureReady L).2 := by rw [ready]
    exact .startupFailed error (congrArg Prod.fst ready)
  · next after ready =>
    obtain rfl : after = (e.ensureReady L).2 := by rw [ready]
    have started : (e.ensureReady L).1 = .ok (.ok ()) := congrArg Prod.fst ready
    split
    · next unread => exact .malformed started unread
    · next id read =>
      -- Startup has succeeded, so there is a runtime, and the last branch of `dispatch` is dead.
      obtain ⟨params, before, live⟩ := Lifecycle.state_eq_ready_iff.mp (settled.mp started)
      simp only [live]
      rcases looked : L.resolve id before (e.ensureReady L).2.host with ⟨answer, between, host⟩
      have looks : LooksUp L routine e params id answer between host :=
        ⟨started, read, before, live, looked⟩
      match answer with
      | .error u =>
        simp only [resolveAndCall, resolveIn, looked]
        exact .lookupUnwound params id u between host looks
      | .ok (.error error) =>
        simp only [resolveAndCall, resolveIn, looked]
        exact .lookupFailed params id error between host looks
      | .ok (.ok handle) =>
        rcases call : L.call handle arguments between host with ⟨outcome, last, final⟩
        simp only [resolveAndCall, resolveIn, looked, callIn, noting, call]
        simpa using
          Dispatched.called params id handle between last host final outcome looks call

end Embedder

namespace Bridge

variable {ρ : Type}

/-- What is done with a bridge. -/
inductive Operation where
  | call (routine : String) (arguments : List HostValue)
  | setTrust (trusted : Bool)
  | shutdown
  /-- The host reaches the embedder itself. -/
  | embedder (op : Embedder.Operation)

/-- The bridge after an operation. -/
def perform (L : Launcher ρ) (b : Bridge ρ) : Operation → Bridge ρ
  | .call routine arguments => (b.call L routine arguments).2
  | .setTrust trusted => (b.setTrust trusted).2
  | .shutdown => (b.shutdown L).2
  | .embedder op => { b with embedder := b.embedder.perform L op }

/-- The bridge after some operations, one after the other. -/
def performAll (L : Launcher ρ) (b : Bridge ρ) (ops : List Operation) : Bridge ρ :=
  ops.foldl (perform L) b

/-- A bridge that goes out of scope: its runtime is torn down. -/
def drop (L : Launcher ρ) (b : Bridge ρ) : Bridge ρ := (b.shutdown L).2

@[simp] theorem performAll_nil (L : Launcher ρ) (b : Bridge ρ) : b.performAll L [] = b := rfl

@[simp] theorem performAll_cons (L : Launcher ρ) (b : Bridge ρ) (op : Operation)
    (ops : List Operation) : b.performAll L (op :: ops) = (b.perform L op).performAll L ops := rfl

@[simp] theorem performAll_append (L : Launcher ρ) (b : Bridge ρ) (ops more : List Operation) :
    b.performAll L (ops ++ more) = (b.performAll L ops).performAll L more :=
  List.foldl_append

@[simp] theorem call_fst (L : Launcher ρ) (routine : String) (arguments : List HostValue)
    (b : Bridge ρ) :
    (b.call L routine arguments).1 =
      (b.embedder.dispatch L routine arguments).1.map HostError.ofOutcome := by
  simp only [call, CallCounts.invoke]
  rcases b.embedder.dispatch L routine arguments with ⟨_ | _, _⟩ <;> rfl

@[simp] theorem embedder_call (L : Launcher ρ) (routine : String) (arguments : List HostValue)
    (b : Bridge ρ) :
    (b.call L routine arguments).2.embedder = (b.embedder.dispatch L routine arguments).2 := by
  simp only [call, CallCounts.invoke]
  rcases b.embedder.dispatch L routine arguments with ⟨_ | _, _⟩ <;> rfl

theorem embedder_setTrust (trusted : Bool) (b : Bridge ρ) :
    (b.setTrust trusted).2.embedder = (b.embedder.setPosture (.ofTrusted trusted)).2 := by
  simp only [setTrust]
  rcases b.embedder.setPosture (.ofTrusted trusted) with ⟨_ | _, _⟩ <;> rfl

/-- What is done with a bridge is a call, or else an operation on its embedder. -/
theorem embedder_perform (L : Launcher ρ) (b : Bridge ρ) (op : Operation) :
    (∃ routine arguments, op = .call routine arguments) ∨
      ∃ inner, (b.perform L op).embedder = b.embedder.perform L inner := by
  cases op with
  | call routine arguments => exact .inl ⟨routine, arguments, rfl⟩
  | setTrust trusted => exact .inr ⟨.setPosture (.ofTrusted trusted), embedder_setTrust trusted b⟩
  | shutdown => exact .inr ⟨.teardown, rfl⟩
  | embedder inner => exact .inr ⟨inner, rfl⟩

end Bridge

end GuestRoutines
