import GuestRoutines.Embedding.Modules
import GuestRoutines.Proofs.Call.Phases
import GuestRoutines.Proofs.Log.Emission

/-!
# Misbehaviour of guests is recoverable

Whatever a guest does wrong, the host can go on after it, with one exception: the routine itself,
and not the start routine before it, calls the system interface, and that call ends the run.

## Main definitions

* `Log.Accepting` — a log whose host refuses no message
* `Failure.kind?` — the kind of error that a failure is, if it is not a fault of the engine
* `Program.Contained` — what is said of the outcome of a call

## Main results

* `Program.contained` — the outcome of every program
* `ModuleRuntime.misbehaviour_recoverable` — the outcome of every call to a live runtime
-/

namespace GuestRoutines

/-! ### Logs that accept every message -/

/-- The host refuses no message. -/
def Log.Accepting (g : Log) : Prop := ∀ message, g.refusal message = none

theorem Log.refusal_emit (g : Log) (l : ManagedLevel) (message : String) :
    (g.emit l message).2.refusal = g.refusal := by
  rw [emit_eq]
  split
  · split <;> rfl
  · rfl

theorem Log.emit_ne_error {g : Log} (accepting : g.Accepting) (l : ManagedLevel) (message : String)
    (u : Unwinding) : (g.emit l message).1 ≠ .error u := by
  rw [emit_eq]
  rw [accepting message]
  split <;> exact nofun

theorem CallContext.refusal_record (c : CallContext) (l : ManagedLevel) (message : String) :
    (c.record l message).2.log.refusal = c.log.refusal := by
  have kept := c.log.refusal_emit l message
  unfold record
  split
  · next emitted => rw [emitted] at kept; exact kept
  · next emitted => rw [emitted] at kept; exact kept

theorem CallContext.record_ne_error {c : CallContext} (accepting : c.log.Accepting)
    (l : ManagedLevel) (message : String) (u : Unwinding) : (c.record l message).1 ≠ .error u := by
  have answered := c.log.emit_ne_error accepting l message
  unfold record
  split
  · exact nofun
  · next u log emitted => exact absurd (congrArg Prod.fst emitted) (answered u)

namespace Instruction.Ran

variable {m after : Machine} {i : Instruction} {flow : Flow}

/-- What the host refuses is not changed by an instruction. -/
theorem refusal_eq (h : i.Ran m flow after) :
    after.context.log.refusal = m.context.log.refusal := by
  cases h with
  | logged level message forwarded context read recorded =>
    have kept := m.context.refusal_record level message
    rwa [recorded] at kept
  | unwound level message u context read recorded =>
    have kept := m.context.refusal_record level message
    rwa [recorded] at kept
  | _ => rfl

theorem ne_unwound (h : i.Ran m flow after) (accepting : m.context.log.Accepting) (u : Unwinding) :
    flow ≠ .unwound u := by
  rintro rfl
  cases h with
  | unwound level message u context read recorded =>
    exact CallContext.record_ne_error accepting level message u (congrArg Prod.fst recorded)

end Instruction.Ran

/-- A run in front of a host that refuses no message does not unwind. -/
theorem Traced.accepting {c : Conditions} {m : Machine} {steps : List Step}
    {ending : Flow × Machine} (run : Traced c m steps ending)
    (accepting : m.context.log.Accepting) :
    ending.2.context.log.Accepting ∧ ∀ u, ending.1 ≠ .unwound u := by
  -- No step changes what is refused, so none of them meets a host that refuses something.
  have kept (s : Step) (before : s.before.context.log.Accepting) :
      (s.after c).context.log.Accepting := by
    unfold Log.Accepting
    rw [(s.ran c).refusal_eq]
    exact before
  obtain ⟨before, last⟩ :=
    run.invariant (P := fun m => m.context.log.Accepting) kept accepting
  refine ⟨last, fun u unwound => ?_⟩
  obtain ⟨s, mem, stops⟩ := run.step_of_unwound unwound
  exact (s.ran c).ne_unwound (before s mem) u stops

/-! ### Kinds of failures -/

/-- The kind of error that a trap is. -/
def Trap.kind : Trap → ManagedError.Kind
  | outOfFuel => .fuelExhausted
  | interrupted => .timeout
  | _ => .trap

namespace Failure

/-- The kind of error that a failure is, if it is not a fault of the engine. -/
def kind? : Failure → Option ManagedError.Kind
  | raised _ => some .raised
  | violation _ => some .abiViolation
  | trapped t => some t.kind
  | fault _ => none

/-- A failure that is not a fault of the engine is recoverable in either phase. -/
theorem outcome_of_kind {f : Failure} {kind : ManagedError.Kind} (known : f.kind? = some kind)
    (phase : Phase) : ∃ error, f.outcome phase = .recoverable error ∧ error.kind = kind := by
  cases f with
  | fault f => cases known
  | trapped t =>
    obtain rfl : t.kind = kind := Option.some.inj known
    cases t <;> exact ⟨_, rfl, rfl⟩
  | raised message =>
    cases known
    exact ⟨_, rfl, rfl⟩
  | violation v =>
    cases known
    exact ⟨_, rfl, rfl⟩

/-- Before the routine begins every failure is recoverable. -/
theorem outcome_instantiation (f : Failure) :
    ∃ error, f.outcome .instantiation = .recoverable error ∧
      error.kind = f.kind?.getD .abiViolation := by
  cases known : f.kind? with
  | some kind => exact outcome_of_kind known .instantiation
  | none =>
    cases f with
    | fault f => exact ⟨_, rfl, rfl⟩
    | _ => cases known

theorem outcome_routine_eq_fatal_iff {f : Failure} {fault : NativeFault} :
    f.outcome .routine = .fatal fault ↔ ∃ e, f = .fault e ∧ fault = ⟨e.message⟩ := by
  cases f with
  | fault e => simp [outcome, eq_comm]
  | trapped t => cases t <;> simp [outcome]
  | raised message => simp [outcome]
  | violation v => simp [outcome]

end Failure

/-! ### Failures of steps -/

namespace Instruction.Ran

variable {m after : Machine} {i : Instruction} {f : Failure}

/-- A host call fails by raising an error, by a violation, or by a word outside of memory. -/
theorem failure_of_hostCall (h : i.Ran m (.failed f) after) (host : i.isHostCall) :
    (∃ p n message, i = raise p n ∧ f = .raised message) ∨
      (∃ v, f = .violation v) ∨ f = .trapped .memory := by
  cases h with
  | failed _ admitted =>
    cases admitted with
    | memory => exact .inr (.inr rfl)
    | violation _ v => exact .inr (.inl ⟨v, rfl⟩)
    | fault system e => cases i <;> cases host <;> cases system
    | trapped t => cases host
    | interrupted => cases host
  | raised b read => exact .inl ⟨_, _, _, rfl, rfl⟩
  | exhausted => cases host

/-- Only a call of the system interface is a fault of the engine. -/
theorem isSystemCall_of_fault {e : EngineFault} (h : i.Ran m (.failed (.fault e)) after) :
    i.isSystemCall := by
  cases h with
  | failed _ admitted =>
    cases admitted with
    | fault system _ => exact system

end Instruction.Ran

/-- What a host call that fails makes of the whole call, in either phase. -/
theorem Instruction.Ran.outcome_of_hostCall {m after : Machine} {i : Instruction} {f : Failure}
    (h : i.Ran m (.failed f) after) (host : i.isHostCall) (phase : Phase) :
    (∃ p n message, i = .raise p n ∧
      f.outcome phase = .recoverable { kind := .raised, message }) ∨
    (∃ v, f = .violation v ∧
      f.outcome phase = .recoverable { kind := .abiViolation, message := v.reason }) ∨
    (f = .trapped .memory ∧
      ∃ error, f.outcome phase = .recoverable error ∧ error.kind = .trap) := by
  rcases h.failure_of_hostCall host with ⟨p, n, message, rfl, rfl⟩ | ⟨v, rfl⟩ | rfl
  · exact .inl ⟨p, n, message, rfl, rfl⟩
  · exact .inr (.inl ⟨v, rfl, rfl⟩)
  · exact .inr (.inr ⟨rfl, _, rfl, rfl⟩)

theorem Step.ran_of_failed {c : Conditions} {s : Step} {f : Failure}
    (failed : s.flow c = .failed f) : s.instruction.Ran s.before (.failed f) (s.after c) :=
  failed ▸ s.ran c

namespace Program

variable {p : Program} {c : Conditions} {budget : Nat} {name : String} {context : CallContext}

theorem callable?_eq_none_iff :
    p.callable? name = none ↔ ∀ r, p.routine? name = some r → r.signature ≠ .plain := by
  unfold callable?
  cases p.routine? name with
  | none => simp
  | some r => simp

/-- A program whose imports are not all satisfied, or whose memory or instance is refused, is not
instantiated. -/
theorem instantiate_of_refused (fuel : Nat) (context : CallContext)
    (refused : p.unresolved ≠ [] ∨ c.instanceLimit = some 0 ∨ c.pageLimit < p.freshMemory.pages) :
    ∃ e m, p.instantiate c fuel context = (.failed (.fault e), m) := by
  rw [instantiate_eq]
  unfold prepare
  dsimp only
  cases unresolved : p.unresolved with
  | cons entry rest => exact ⟨_, _, rfl⟩
  | nil =>
    dsimp only
    by_cases full : c.instanceLimit = some 0
    · rw [if_pos full]
      exact ⟨_, _, rfl⟩
    · have large : c.pageLimit < p.freshMemory.pages := by simpa [unresolved, full] using refused
      rw [if_neg full, if_pos large]
      exact ⟨_, _, rfl⟩

/-! ### In front of a host that refuses no message -/

theorem instantiate_accepting (p : Program) (c : Conditions) (fuel : Nat)
    (accepting : context.log.Accepting) :
    (p.instantiate c fuel context).2.context.log.Accepting ∧
      ∀ u, (p.instantiate c fuel context).1 ≠ .unwound u := by
  obtain ⟨flow, memory, prepared, rfl | ⟨f, rfl⟩⟩ := p.prepare_cases c fuel context
  · obtain ⟨entered, same, run⟩ := traced_instantiate p c prepared
    exact run.accepting (by rwa [same])
  · rw [instantiate_eq, prepared]
    exact ⟨accepting, fun u => nofun⟩

theorem Reaches.enter_ne_unwound {fuel : Nat} {m : Machine} (reached : p.Reaches c fuel context m)
    (accepting : context.log.Accepting) (b : Body) (u : Unwinding) :
    (b.enter c m).1 ≠ .unwound u := by
  obtain ⟨flow, instantiated, -⟩ := reached
  have before := (p.instantiate_accepting c fuel accepting).1
  rw [instantiated] at before
  exact ((b.traced_enter c m).accepting before).2 u

/-- A call in front of a host that refuses no message does not unwind. -/
theorem execute_returns (p : Program) (c : Conditions) (budget : Nat) (name : String)
    (accepting : context.log.Accepting) :
    ∃ outcome, (p.execute c budget name context).1 = .ok outcome := by
  have ended := p.ended_execute c budget name context
  generalize (p.execute c budget name context).1 = answer at ended
  generalize (p.execute c budget name context).2 = after at ended
  cases ended with
  | startUnwound u m instantiated =>
    have goes := (p.instantiate_accepting c (c.initialFuel budget) accepting).2 u
    exact absurd (congrArg Prod.fst instantiated) goes
  | unwound m last b u reached callable run =>
    exact absurd (congrArg Prod.fst run) (reached.enter_ne_unwound accepting b u)
  | startFailed f m instantiated => exact ⟨_, rfl⟩
  | missing m reached absent => exact ⟨_, rfl⟩
  | failed m last b f reached callable run => exact ⟨_, rfl⟩
  | returned m last b flow reached callable run ends => exact ⟨_, rfl⟩

/-- A native fault comes of a fault of the engine in the routine itself. -/
theorem enter_of_fatal {fault : NativeFault}
    (fatal : (p.execute c budget name context).1 = .ok (.fatal fault)) :
    ∃ m b e last, p.Reaches c (c.initialFuel budget) context m ∧ p.callable? name = some b ∧
      b.enter c m = (.failed (.fault e), last) ∧ fault = ⟨e.message⟩ := by
  have ended := p.ended_execute c budget name context
  rw [fatal] at ended
  generalize (p.execute c budget name context).2 = after at ended
  generalize answered : Except.ok (RoutineOutcome.fatal fault) = answer at ended
  cases ended with
  | startUnwound u m instantiated => cases answered
  | startFailed f m instantiated =>
    obtain ⟨error, recoverable, -⟩ := f.outcome_instantiation
    rw [recoverable] at answered
    cases answered
  | missing m reached absent => cases answered
  | unwound m last b u reached callable run => cases answered
  | failed m last b f reached callable run =>
    obtain ⟨e, rfl, same⟩ := Failure.outcome_routine_eq_fatal_iff.mp (Except.ok.inj answered).symm
    exact ⟨m, b, e, last, reached, callable, run, same⟩
  | returned m last b flow reached callable run ends => cases answered

/-- A call of a routine that cannot be called is recoverable, however far it comes. -/
theorem recoverable_of_uncallable {outcome : RoutineOutcome}
    (returned : (p.execute c budget name context).1 = .ok outcome)
    (uncallable : p.callable? name = none) : ∃ error, outcome = .recoverable error := by
  have ended := p.ended_execute c budget name context
  rw [returned] at ended
  generalize (p.execute c budget name context).2 = after at ended
  generalize answered : Except.ok outcome = answer at ended
  cases ended with
  | startUnwound u m instantiated => cases answered
  | startFailed f m instantiated =>
    obtain ⟨error, recoverable, -⟩ := f.outcome_instantiation
    exact ⟨error, (Except.ok.inj answered).trans recoverable⟩
  | missing m reached absent => exact ⟨_, Except.ok.inj answered⟩
  | unwound m last b u reached callable run => cases answered
  | failed m last b f reached callable run => simp [uncallable] at callable
  | returned m last b flow reached callable run ends => simp [uncallable] at callable

/-- What is said of the outcome of a call in front of a host that refuses no message. -/
structure Contained (p : Program) (c : Conditions) (budget : Nat) (name : String)
    (context : CallContext) (outcome : RoutineOutcome) : Prop where
  /-- Only the routine itself can end in a native fault, and only with a fault of the engine. -/
  fatal : ∀ fault, outcome = .fatal fault ↔
    ∃ m b e last, p.Reaches c (c.initialFuel budget) context m ∧ p.callable? name = some b ∧
      b.enter c m = (.failed (.fault e), last) ∧ fault = ⟨e.message⟩
  /-- It is then a step of the routine that calls the system interface. -/
  system : ∀ fault, outcome = .fatal fault →
    ∃ s ∈ p.routineSteps c (c.initialFuel budget) name context, s.instruction.isSystemCall ∧
      ∃ e, s.flow c = .failed (.fault e)
  /-- A host call that fails, in the start routine or in the routine. -/
  hostCall : ∀ s ∈ p.startSteps c (c.initialFuel budget) context ++
      p.routineSteps c (c.initialFuel budget) name context,
    s.instruction.isHostCall → ∀ f, s.flow c = .failed f →
    (∃ pointer length message, s.instruction = .raise pointer length ∧
      outcome = .recoverable { kind := .raised, message }) ∨
    (∃ v, f = .violation v ∧
      outcome = .recoverable { kind := .abiViolation, message := v.reason }) ∨
    (f = .trapped .memory ∧ ∃ error, outcome = .recoverable error ∧ error.kind = .trap)
  /-- Everything that fails before the routine begins, a fault in the start routine included. -/
  instantiation : ∀ f m, p.instantiate c (c.initialFuel budget) context = (.failed f, m) →
    ∃ error, outcome = .recoverable error ∧ error.kind = f.kind?.getD .abiViolation
  /-- Imports that are not satisfied, and memory or an instance that is refused. -/
  refused : p.unresolved ≠ [] ∨ c.instanceLimit = some 0 ∨ c.pageLimit < p.freshMemory.pages →
    ∃ error, outcome = .recoverable error ∧ error.kind = .abiViolation
  /-- A routine that is missing or has another type than a callable one. -/
  missing : (∀ r, p.routine? name = some r → r.signature ≠ .plain) →
    (∃ error, outcome = .recoverable error) ∧
    ∀ m, p.Reaches c (c.initialFuel budget) context m →
      outcome = .recoverable { kind := .missingExport, message := p.missing name }
  /-- Errors, violations and traps of the routine. -/
  routine : ∀ m b f last kind, p.Reaches c (c.initialFuel budget) context m →
    p.callable? name = some b → b.enter c m = (.failed f, last) → f.kind? = some kind →
    ∃ error, outcome = .recoverable error ∧ error.kind = kind

theorem contained (p : Program) (c : Conditions) (budget : Nat) (name : String)
    {context : CallContext} (accepting : context.log.Accepting) :
    ∃ outcome, (p.execute c budget name context).1 = .ok outcome ∧
      p.Contained c budget name context outcome := by
  obtain ⟨outcome, returned⟩ := p.execute_returns c budget name accepting
  -- A failure in either of the two runs decides the outcome.
  have startFailed {f : Failure} {m : Machine}
      (instantiated : p.instantiate c (c.initialFuel budget) context = (.failed f, m)) :
      outcome = f.outcome .instantiation := by
    rw [execute_of_startFailed instantiated] at returned
    exact (Except.ok.inj returned).symm
  have failed {m last : Machine} {b : Body} {f : Failure}
      (reached : p.Reaches c (c.initialFuel budget) context m)
      (callable : p.callable? name = some b) (run : b.enter c m = (.failed f, last)) :
      outcome = f.outcome .routine := by
    rw [execute_of_failed reached callable run] at returned
    exact (Except.ok.inj returned).symm
  refine ⟨outcome, returned,
    { fatal := ?_, system := ?_, hostCall := ?_, instantiation := ?_, refused := ?_, missing := ?_
      routine := ?_ }⟩
  · refine fun fault => ⟨fun h => enter_of_fatal (returned.trans (by rw [h])), ?_⟩
    rintro ⟨m, b, e, last, reached, callable, run, same⟩
    rw [failed reached callable run]
    exact Failure.outcome_routine_eq_fatal_iff.mpr ⟨e, rfl, same⟩
  · intro fault h
    obtain ⟨m, b, e, last, reached, callable, run, -⟩ :=
      enter_of_fatal (returned.trans (by rw [h]))
    -- Between two steps there are only traps, so that the fault comes of a step.
    have stopped := (b.traced_enter c m).step_of_failed (congrArg Prod.fst run)
    obtain ⟨s, mem, step⟩ : ∃ s ∈ b.enteredSteps c m, s.flow c = .failed (.fault e) :=
      stopped.resolve_right fun ⟨t, trap⟩ => nomatch trap
    rw [routineSteps_of_reaches reached callable]
    exact ⟨s, mem, (Step.ran_of_failed step).isSystemCall_of_fault, e, step⟩
  · intro s mem host f step
    have ran := Step.ran_of_failed step
    rcases List.mem_append.mp mem with start | routine
    · rw [startFailed (instantiate_of_failed_step start step)]
      exact ran.outcome_of_hostCall host .instantiation
    · obtain ⟨m, b, reached, callable, run⟩ := enter_of_failed_step routine step
      rw [failed reached callable run]
      exact ran.outcome_of_hostCall host .routine
  · intro f m instantiated
    rw [startFailed instantiated]
    exact f.outcome_instantiation
  · intro refusal
    obtain ⟨e, m, instantiated⟩ := instantiate_of_refused (c.initialFuel budget) context refusal
    rw [startFailed instantiated]
    exact ⟨_, rfl, rfl⟩
  · intro unusable
    have uncallable : p.callable? name = none := callable?_eq_none_iff.mpr unusable
    refine ⟨recoverable_of_uncallable returned uncallable, fun m reached => ?_⟩
    rw [execute_of_missing reached uncallable] at returned
    exact (Except.ok.inj returned).symm
  · intro m b f last kind reached callable run known
    rw [failed reached callable run]
    exact Failure.outcome_of_kind known .routine

end Program

/-- **Misbehaviour of guests is recoverable.** A call to a runtime that has not been shut down, in
front of a host that refuses no message: a module that cannot be loaded is recoverable, and so is
everything that the program of a module does, but for faults of the engine in the routine itself. -/
theorem ModuleRuntime.misbehaviour_recoverable (compiler : Compiler) (id : RoutineId)
    (arguments : List HostValue) (r : ModuleRuntime) (host : Host) (live : r.live = true)
    (accepting : host.log.Accepting) :
    let outcome := (r.call compiler id arguments host).1
    let loaded := (r.load compiler host.files id.module).1
    (∀ error, loaded = .error error → outcome = .recoverable (loadFailure id.module error)) ∧
      ∀ m, loaded = .ok m →
        m.program.Contained r.conditions r.params.runtime.limits.maxFuel.toNat id.exportName
          (context arguments host.log) outcome := by
  intro outcome loaded
  rcases load : r.load compiler host.files id.module with ⟨found, catalog⟩
  obtain rfl : loaded = found := congrArg Prod.fst load
  cases found : loaded with
  | error error =>
    refine ⟨fun e same => ?_, nofun⟩
    rw [found] at load
    simp only [outcome, call, live, load]
    cases same
    rfl
  | ok m =>
    refine ⟨nofun, fun m' same => ?_⟩
    obtain rfl := Except.ok.inj same
    have before : (context arguments host.log).log.Accepting := accepting
    obtain ⟨result, returned, contained⟩ :=
      m.program.contained r.conditions r.params.runtime.limits.maxFuel.toNat id.exportName before
    have answer : outcome = result := by
      rw [found] at load
      simp only [outcome, call, live, load, returned]
      rfl
    rw [answer]
    exact contained

/-- A start routine that ends the process of the guest does not end the process of the host. -/
theorem ModuleRuntime.misbehaviour_recoverable_exit_in_start :
    let p : Program := {
      memory := some { minimum := 1, exportName := some memoryName }
      start := some (.step (.exit (.constant 0)) .done)
      routines := [{ name := "run" }] }
    let r : ModuleRuntime := {
      params := {
        trust := .ofTier .trusted
        modulePath := []
        logThreshold := .warning
        runtime := {} }
      catalog := { searchPath := [], modules := [("leaver", ⟨"", p⟩)] } }
    let compiler : Compiler := ⟨fun _ => .error "no text", fun _ => .error "no binary"⟩
    let id : RoutineId := { module := "leaver", exportName := "run" }
    r.live = true ∧ Log.Accepting {} ∧ ∃ error, (r.call compiler id [] {}).1 = .recoverable error ∧
      error.kind = .abiViolation := by
  intro p r compiler id
  have accepting : Log.Accepting {} := fun _ => rfl
  have contained := (misbehaviour_recoverable compiler id [] r {} rfl accepting).2 ⟨"", p⟩ rfl
  have left : (p.instantiate r.conditions
      (r.conditions.initialFuel r.params.runtime.limits.maxFuel.toNat) (context [] {})).1 =
      .failed (.fault (.exit 0)) := by
    simp only [p, r]
    decide
  exact ⟨rfl, accepting, contained.instantiation (.fault (.exit 0)) _ (Prod.ext left rfl)⟩

end GuestRoutines
