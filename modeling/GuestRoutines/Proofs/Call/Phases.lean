import GuestRoutines.Proofs.Call.Steps

/-!
# The phases of a call

A call prepares an instance, runs its start routine, looks up the routine that is asked for and runs
that. Only the two runs have steps.

## Main definitions

* `Program.prepare` — a new instance up to its start routine
* `Program.startSteps`, `Program.routineSteps` — the steps of the two runs
* `Program.Reaches` — instantiation comes to its end
* `Program.Ended` — the ways in which a call ends

## Main results

* `Program.ended_execute` — a call ends in one of these ways
* `Program.traced_instantiate`, `Program.traced_enter` — the two runs go by their steps
-/

namespace GuestRoutines

/-- The fuel that a call begins with. -/
def Conditions.initialFuel (c : Conditions) (budget : Nat) : Nat := if c.metered then budget else 0

/-- A run has come to its end, or the routine has been left. -/
def Flow.isEnd : Flow → Bool
  | onward | left => true
  | _ => false

namespace Program

variable (p : Program) (c : Conditions)

/-! ### Instantiation -/

/-- A new instance up to its start routine: its imports are looked up, its memory is reserved, and
its data copied. -/
def prepare (fuel : Nat) (context : CallContext) : Flow × Machine :=
  let m : Machine := { memory := p.freshMemory, fuel, context }
  match p.unresolved with
  | (module, name) :: _ => (.failed (.fault (.unknownImport module name)), m)
  | [] =>
    if c.instanceLimit = some 0 then (.failed (.fault (.instanceLimit 0)), m)
    else if c.pageLimit < p.freshMemory.pages then
      (.failed (.fault (.memoryLimit p.freshMemory.pages)), m)
    else copyData m p.data

theorem instantiate_eq (fuel : Nat) (context : CallContext) :
    p.instantiate c fuel context =
      andThen (p.prepare c fuel context) (p.prepare c fuel context) (p.runStart c) := by
  unfold instantiate prepare
  dsimp only
  -- What is refused before any data is copied never comes to the start routine.
  cases p.unresolved with
  | cons entry rest => rfl
  | nil =>
    dsimp only
    by_cases full : c.instanceLimit = some 0
    · simp only [if_pos full]
      rfl
    · by_cases large : c.pageLimit < p.freshMemory.pages
      · simp only [if_neg full, if_pos large]
        rfl
      · simp only [if_neg full, if_neg large]
        rcases copyData _ p.data with ⟨_ | _ | _ | _, _⟩ <;> rfl

/-- Data that does not fit into memory is a trap; the context of the call is not touched. -/
theorem copyData_cases (m : Machine) (data : List DataSegment) :
    ∃ flow memory, copyData m data = (flow, { m with memory }) ∧
      (flow = .onward ∨ flow = .failed (.trapped .memory)) := by
  -- The segments that follow find the memory that the first one left.
  induction data generalizing m with
  | nil => exact ⟨.onward, m.memory, rfl, .inl rfl⟩
  | cons d data ih =>
    cases written : m.memory.write? d.offset d.bytes with
    | none =>
      refine ⟨_, m.memory, ?_, .inr rfl⟩
      rw [copyData, written]
    | some memory =>
      obtain ⟨flow, last, copied, ends⟩ := ih { m with memory }
      refine ⟨flow, last, ?_, ends⟩
      rw [copyData, written]
      exact copied

/-- The preparation of an instance touches the memory alone, and fails without unwinding. -/
theorem prepare_cases (fuel : Nat) (context : CallContext) :
    ∃ flow memory, p.prepare c fuel context = (flow, { memory, fuel, context }) ∧
      (flow = .onward ∨ ∃ f, flow = .failed f) := by
  unfold prepare
  dsimp only
  split
  · exact ⟨_, _, rfl, .inr ⟨_, rfl⟩⟩
  · split
    · exact ⟨_, _, rfl, .inr ⟨_, rfl⟩⟩
    · split
      · exact ⟨_, _, rfl, .inr ⟨_, rfl⟩⟩
      · obtain ⟨flow, memory, copied, ends⟩ :=
          copyData_cases { memory := p.freshMemory, fuel, context } p.data
        exact ⟨flow, memory, copied, ends.imp_right fun h => ⟨_, h⟩⟩

/-- The steps of the start routine. -/
def startSteps (fuel : Nat) (context : CallContext) : List Step :=
  andThen (p.prepare c fuel context) [] fun m =>
    match p.start with
    | none => []
    | some b => b.enteredSteps c m

/-- An instance that has been prepared runs its start routine by its steps. -/
theorem traced_instantiate {fuel : Nat} {context : CallContext} {m : Machine}
    (prepared : p.prepare c fuel context = (.onward, m)) :
    ∃ entered : Machine, entered.context = context ∧
      Traced c entered (p.startSteps c fuel context) (p.instantiate c fuel context) := by
  obtain ⟨flow, memory, eq, -⟩ := p.prepare_cases c fuel context
  obtain ⟨rfl, rfl⟩ := Prod.mk.inj (prepared.symm.trans eq)
  rw [instantiate_eq, startSteps, prepared]
  dsimp only [andThen]
  unfold runStart
  cases p.start with
  | none => exact ⟨_, rfl, .onward _⟩
  | some b => exact ⟨_, rfl, b.traced_enter c _⟩

/-- Instantiation comes to its end. -/
def Reaches (fuel : Nat) (context : CallContext) (m : Machine) : Prop :=
  ∃ flow, p.instantiate c fuel context = (flow, m) ∧ flow.isEnd

/-- The steps of the routine that is called. -/
def routineSteps (fuel : Nat) (name : String) (context : CallContext) : List Step :=
  match p.instantiate c fuel context with
  | (.failed _, _) | (.unwound _, _) => []
  | (_, m) =>
    match p.callable? name with
    | none => []
    | some b => b.enteredSteps c m

variable {p c}

theorem routineSteps_of_reaches {fuel : Nat} {name : String} {context : CallContext} {m : Machine}
    {b : Body} (reached : p.Reaches c fuel context m) (callable : p.callable? name = some b) :
    p.routineSteps c fuel name context = b.enteredSteps c m := by
  obtain ⟨flow, instantiated, ends⟩ := reached
  unfold routineSteps
  rw [instantiated]
  cases flow with
  | onward => simp only [callable]
  | left => simp only [callable]
  | failed f => cases ends
  | unwound u => cases ends

theorem exists_of_mem_routineSteps {fuel : Nat} {name : String} {context : CallContext} {s : Step}
    (mem : s ∈ p.routineSteps c fuel name context) :
    ∃ m b, p.Reaches c fuel context m ∧ p.callable? name = some b ∧ s ∈ b.enteredSteps c m := by
  rcases instantiated : p.instantiate c fuel context with ⟨flow, m⟩
  -- Without an instance, or without a callable routine in it, there are no steps.
  cases ends : flow.isEnd with
  | false => cases flow <;> simp_all [routineSteps, Flow.isEnd]
  | true =>
    have reached : p.Reaches c fuel context m := ⟨flow, instantiated, ends⟩
    cases callable : p.callable? name with
    | none => cases flow <;> simp_all [routineSteps]
    | some b =>
      rw [routineSteps_of_reaches reached callable] at mem
      exact ⟨m, b, reached, rfl, mem⟩

theorem traced_of_mem_startSteps {fuel : Nat} {context : CallContext} {s : Step}
    (mem : s ∈ p.startSteps c fuel context) :
    ∃ entered, Traced c entered (p.startSteps c fuel context) (p.instantiate c fuel context) := by
  obtain ⟨flow, memory, prepared, rfl | ⟨f, rfl⟩⟩ := p.prepare_cases c fuel context
  · obtain ⟨entered, -, run⟩ := traced_instantiate p c prepared
    exact ⟨entered, run⟩
  · -- The start routine of an instance that could not be prepared has no steps.
    simp [startSteps, prepared, andThen] at mem

/-- A step of the start routine that fails is the end of instantiation. -/
theorem instantiate_of_failed_step {fuel : Nat} {context : CallContext} {s : Step} {f : Failure}
    (mem : s ∈ p.startSteps c fuel context) (failed : s.flow c = .failed f) :
    p.instantiate c fuel context = (.failed f, s.after c) := by
  obtain ⟨entered, run⟩ := traced_of_mem_startSteps mem
  rw [run.eq_of_mem mem (by rw [failed]; exact nofun), failed]

/-- A step of the routine that fails is the end of the routine. -/
theorem enter_of_failed_step {fuel : Nat} {name : String} {context : CallContext} {s : Step}
    {f : Failure} (mem : s ∈ p.routineSteps c fuel name context) (failed : s.flow c = .failed f) :
    ∃ m b, p.Reaches c fuel context m ∧ p.callable? name = some b ∧
      b.enter c m = (.failed f, s.after c) := by
  obtain ⟨m, b, reached, callable, step⟩ := exists_of_mem_routineSteps mem
  have ending := (b.traced_enter c m).eq_of_mem step (by rw [failed]; exact nofun)
  exact ⟨m, b, reached, callable, by rw [ending, failed]⟩

/-! ### The whole call -/

/-- The second part of a call: the routine of a name is looked up in an instance and run. -/
def callIn (p : Program) (c : Conditions) (fuel : Nat) (name : String) (m : Machine) :
    Except Unwinding RoutineOutcome × CallContext :=
  match p.callable? name with
  | none => (.ok (.recoverable { kind := .missingExport, message := p.missing name }), m.context)
  | some b =>
    match b.enter c m with
    | (.unwound u, m) => (.error u, m.context)
    | (.failed f, m) => (.ok (f.outcome .routine), m.finish fuel)
    | (_, m) =>
      (.ok (.success (.ofResult (m.finish fuel).result)), (m.finish fuel).takeResult.2)

theorem execute_of_reaches {budget : Nat} {context : CallContext} {m : Machine}
    (reached : p.Reaches c (c.initialFuel budget) context m) (name : String) :
    p.execute c budget name context = p.callIn c (c.initialFuel budget) name m := by
  obtain ⟨flow, instantiated, ends⟩ := reached
  simp only [Conditions.initialFuel] at instantiated
  cases flow with
  | onward | left =>
    simp only [execute, instantiated, callIn]
    rfl
  | failed f => cases ends
  | unwound u => cases ends

theorem execute_of_startFailed {budget : Nat} {context : CallContext} {m : Machine} {f : Failure}
    (instantiated : p.instantiate c (c.initialFuel budget) context = (.failed f, m))
    (name : String) :
    p.execute c budget name context =
      (.ok (f.outcome .instantiation), m.finish (c.initialFuel budget)) := by
  simp only [Conditions.initialFuel] at instantiated
  simp only [execute, instantiated]
  rfl

theorem execute_of_missing {budget : Nat} {name : String} {context : CallContext} {m : Machine}
    (reached : p.Reaches c (c.initialFuel budget) context m) (absent : p.callable? name = none) :
    p.execute c budget name context =
      (.ok (.recoverable { kind := .missingExport, message := p.missing name }), m.context) := by
  rw [execute_of_reaches reached]
  simp only [callIn, absent]

theorem execute_of_failed {budget : Nat} {name : String} {context : CallContext}
    {m last : Machine} {b : Body} {f : Failure}
    (reached : p.Reaches c (c.initialFuel budget) context m)
    (callable : p.callable? name = some b) (run : b.enter c m = (.failed f, last)) :
    p.execute c budget name context =
      (.ok (f.outcome .routine), last.finish (c.initialFuel budget)) := by
  rw [execute_of_reaches reached]
  simp only [callIn, callable, run]

theorem execute_of_returned {budget : Nat} {name : String} {context : CallContext}
    {m last : Machine} {b : Body} {flow : Flow}
    (reached : p.Reaches c (c.initialFuel budget) context m)
    (callable : p.callable? name = some b) (run : b.enter c m = (flow, last)) (ends : flow.isEnd) :
    p.execute c budget name context =
      (.ok (.success (.ofResult last.context.result)),
        (last.finish (c.initialFuel budget)).takeResult.2) := by
  rw [execute_of_reaches reached]
  cases flow with
  | onward | left =>
    simp only [callIn, callable, run]
    rfl
  | failed f => cases ends
  | unwound u => cases ends

/-- The ways in which a call ends, with the context afterwards. -/
inductive Ended (p : Program) (c : Conditions) (budget : Nat) (name : String)
    (context : CallContext) : Except Unwinding RoutineOutcome → CallContext → Prop where
  | startUnwound (u : Unwinding) (m : Machine)
      (instantiated : p.instantiate c (c.initialFuel budget) context = (.unwound u, m)) :
      Ended p c budget name context (.error u) m.context
  | startFailed (f : Failure) (m : Machine)
      (instantiated : p.instantiate c (c.initialFuel budget) context = (.failed f, m)) :
      Ended p c budget name context (.ok (f.outcome .instantiation))
        (m.finish (c.initialFuel budget))
  | missing (m : Machine) (reached : p.Reaches c (c.initialFuel budget) context m)
      (absent : p.callable? name = none) :
      Ended p c budget name context
        (.ok (.recoverable { kind := .missingExport, message := p.missing name })) m.context
  | unwound (m last : Machine) (b : Body) (u : Unwinding)
      (reached : p.Reaches c (c.initialFuel budget) context m)
      (callable : p.callable? name = some b) (run : b.enter c m = (.unwound u, last)) :
      Ended p c budget name context (.error u) last.context
  | failed (m last : Machine) (b : Body) (f : Failure)
      (reached : p.Reaches c (c.initialFuel budget) context m)
      (callable : p.callable? name = some b) (run : b.enter c m = (.failed f, last)) :
      Ended p c budget name context (.ok (f.outcome .routine)) (last.finish (c.initialFuel budget))
  | returned (m last : Machine) (b : Body) (flow : Flow)
      (reached : p.Reaches c (c.initialFuel budget) context m)
      (callable : p.callable? name = some b) (run : b.enter c m = (flow, last))
      (ends : flow.isEnd) :
      Ended p c budget name context
        (.ok (.success (.ofResult (last.finish (c.initialFuel budget)).result)))
        (last.finish (c.initialFuel budget)).takeResult.2

/-- A call ends in one of the ways. -/
theorem ended_execute (p : Program) (c : Conditions) (budget : Nat) (name : String)
    (context : CallContext) :
    Ended p c budget name context (p.execute c budget name context).1
      (p.execute c budget name context).2 := by
  rcases instantiated : p.instantiate c (c.initialFuel budget) context with ⟨flow, m⟩
  cases flow with
  | unwound u =>
    have early : p.instantiate c (if c.metered then budget else 0) context = (.unwound u, m) :=
      instantiated
    simp only [execute, early]
    exact .startUnwound u m instantiated
  | failed f =>
    rw [execute_of_startFailed instantiated]
    exact .startFailed f m instantiated
  | onward | left =>
    have reached : p.Reaches c (c.initialFuel budget) context m := ⟨_, instantiated, rfl⟩
    cases callable : p.callable? name with
    | none =>
      rw [execute_of_missing reached callable]
      exact .missing m reached callable
    | some b =>
      rcases run : b.enter c m with ⟨flow, last⟩
      cases flow with
      | failed f =>
        rw [execute_of_failed reached callable run]
        exact .failed m last b f reached callable run
      | unwound u =>
        simp only [execute_of_reaches reached, callIn, callable, run]
        exact .unwound m last b u reached callable run
      | onward | left =>
        simp only [execute_of_reaches reached, callIn, callable, run]
        exact .returned m last b _ reached callable run rfl

end Program

end GuestRoutines
