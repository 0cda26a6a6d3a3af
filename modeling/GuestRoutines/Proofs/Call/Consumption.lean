import GuestRoutines.Proofs.Call.Phases

/-!
# What a call consumed

A run only burns fuel, and it leaves alone what the context of the call tells about consumption. At
the end of the call both are taken down: that it took its time, and the fuel between what it began
with and what is left. A call that finds no routine to run is the exception: it ends without this,
although the start routine may have burnt fuel before.

## Main definitions

* `Program.lastMachine` — the machine at the end of a call
* `Metrics.Tell` — the time of a call has been taken down, and the fuel that it burnt
* `RoutineOutcome.lacksRoutine` — a call has found no routine to run

## Main results

* `Instruction.Ran.fuel_le` — an instruction adds no fuel
* `Program.underWay_lastMachine` — nor does a whole call, which leaves the metrics to its end
* `Program.metrics_taken_down` — what every call that returns has taken down
-/

namespace GuestRoutines

/-! ### Instructions -/

theorem CallContext.metrics_record (c : CallContext) (l : ManagedLevel) (message : String) :
    (c.record l message).2.metrics = c.metrics := by
  unfold record
  split <;> rfl

namespace Instruction.Ran

variable {m after : Machine} {i : Instruction} {flow : Flow}

/-- An instruction adds no fuel. -/
theorem fuel_le (h : i.Ran m flow after) : after.fuel ≤ m.fuel := by
  cases h with
  | exhausted => exact Nat.zero_le m.fuel
  | _ => exact Nat.le_refl m.fuel

/-- Nothing is taken down while a run goes on. -/
theorem metrics_eq (h : i.Ran m flow after) : after.context.metrics = m.context.metrics := by
  cases h with
  | logged level message forwarded context read recorded =>
    have kept := m.context.metrics_record level message
    rwa [recorded] at kept
  | unwound level message u context read recorded =>
    have kept := m.context.metrics_record level message
    rwa [recorded] at kept
  | _ => rfl

end Instruction.Ran

/-! ### The end of a call -/

/-- A run that began with some fuel and with these metrics is under way. -/
structure Machine.UnderWay (fuel : Nat) (metrics : Metrics) (m : Machine) : Prop where
  burns : m.fuel ≤ fuel
  metrics_eq : m.context.metrics = metrics

namespace Machine.UnderWay

variable {fuel : Nat} {metrics : Metrics} {m : Machine} {c : Conditions}

theorem step (s : Step) (h : s.before.UnderWay fuel metrics) : (s.after c).UnderWay fuel metrics :=
  ⟨Nat.le_trans (s.ran c).fuel_le h.burns, (s.ran c).metrics_eq.trans h.metrics_eq⟩

/-- Entering a routine burns fuel as well. -/
theorem enter (h : m.UnderWay fuel metrics) (b : Body) :
    (b.enter c m).2.UnderWay fuel metrics := by
  have entered : UnderWay fuel metrics { m with fuel := m.fuel - 1 } :=
    ⟨Nat.le_trans (Nat.sub_le m.fuel 1) h.burns, h.metrics_eq⟩
  exact ((b.traced_enter c m).invariant (fun s => step s) entered).2

end Machine.UnderWay

namespace Program

/-- The machine at the end of a call: that of the routine, or that of the instance if the call does
not come to the routine. -/
def lastMachine (p : Program) (c : Conditions) (budget : Nat) (name : String)
    (context : CallContext) : Machine :=
  match p.instantiate c (c.initialFuel budget) context with
  | (.failed _, m) | (.unwound _, m) => m
  | (_, m) =>
    match p.callable? name with
    | none => m
    | some b => (b.enter c m).2

variable {p : Program} {c : Conditions} {budget : Nat} {name : String} {context : CallContext}

theorem lastMachine_of_startFailed {m : Machine} {f : Failure}
    (instantiated : p.instantiate c (c.initialFuel budget) context = (.failed f, m))
    (name : String) : p.lastMachine c budget name context = m := by
  rw [lastMachine, instantiated]

theorem lastMachine_of_missing {m : Machine}
    (reached : p.Reaches c (c.initialFuel budget) context m) (absent : p.callable? name = none) :
    p.lastMachine c budget name context = m := by
  obtain ⟨flow, instantiated, ends⟩ := reached
  rw [lastMachine, instantiated]
  cases flow with
  | onward | left => simp only [absent]
  | failed f | unwound u => cases ends

theorem lastMachine_of_callable {m : Machine} {b : Body}
    (reached : p.Reaches c (c.initialFuel budget) context m)
    (callable : p.callable? name = some b) :
    p.lastMachine c budget name context = (b.enter c m).2 := by
  obtain ⟨flow, instantiated, ends⟩ := reached
  rw [lastMachine, instantiated]
  cases flow with
  | onward | left => simp only [callable]
  | failed f | unwound u => cases ends

theorem underWay_instantiate (p : Program) (c : Conditions) (fuel : Nat) (context : CallContext) :
    (p.instantiate c fuel context).2.UnderWay fuel context.metrics := by
  obtain ⟨flow, memory, prepared, -⟩ := p.prepare_cases c fuel context
  -- Preparing an instance burns no fuel.
  have fresh : Machine.UnderWay fuel context.metrics { memory, fuel, context } :=
    ⟨Nat.le_refl fuel, rfl⟩
  rw [instantiate_eq, prepared]
  cases flow with
  | onward =>
    dsimp only [andThen]
    unfold runStart
    cases p.start with
    | none => exact fresh
    | some b => exact fresh.enter b
  | left | failed f | unwound u => exact fresh

/-- A call adds no fuel, and takes nothing down before its end. -/
theorem underWay_lastMachine (p : Program) (c : Conditions) (budget : Nat) (name : String)
    (context : CallContext) :
    (p.lastMachine c budget name context).UnderWay (c.initialFuel budget) context.metrics := by
  have started := p.underWay_instantiate c (c.initialFuel budget) context
  rcases instantiated : p.instantiate c (c.initialFuel budget) context with ⟨flow, m⟩
  rw [instantiated] at started
  cases flow with
  | failed f | unwound u =>
    rw [lastMachine, instantiated]
    exact started
  | onward | left =>
    have reached : p.Reaches c (c.initialFuel budget) context m := ⟨_, instantiated, rfl⟩
    cases callable : p.callable? name with
    | none =>
      rw [lastMachine_of_missing reached callable]
      exact started
    | some b =>
      rw [lastMachine_of_callable reached callable]
      exact started.enter b

end Program

/-! ### What is taken down -/

/-- What a call consumed has been taken down: that it took its time, and the fuel between what it
began with and what is left of it. -/
structure Metrics.Tell (taken : Metrics) (initial left : Nat) : Prop where
  timed : taken.timed = true
  burnt : taken.fuelConsumed + left = initial

/-- Both are taken down at the end of a run that has added no fuel. -/
theorem Machine.tell_finish {m : Machine} {budget : Nat} (burns : m.fuel ≤ budget) :
    (m.finish budget).metrics.Tell budget m.fuel :=
  ⟨rfl, Nat.sub_add_cancel burns⟩

/-- The call has found no routine to run. -/
def RoutineOutcome.lacksRoutine : RoutineOutcome → Bool
  | recoverable e => e.kind == .missingExport
  | _ => false

/-- A failure is never reported as a missing routine. -/
theorem Failure.lacksRoutine_outcome (phase : Phase) (f : Failure) :
    (f.outcome phase).lacksRoutine = false := by
  cases f with
  | raised message | violation v => rfl
  | trapped t => cases t <;> rfl
  | fault f => cases phase <;> rfl

namespace Program

variable {p : Program} {c : Conditions} {budget : Nat} {name : String} {context : CallContext}
  {outcome : RoutineOutcome}

/-- A call finds no routine to run exactly if there is none to call in an instance that was made. -/
theorem lacksRoutine_iff (returned : (p.execute c budget name context).1 = .ok outcome) :
    outcome.lacksRoutine = true ↔
      p.callable? name = none ∧ ∃ m, p.Reaches c (c.initialFuel budget) context m := by
  have ended := p.ended_execute c budget name context
  rw [returned] at ended
  generalize (p.execute c budget name context).2 = final at ended
  cases ended with
  | startFailed f m instantiated =>
    have unreached : ¬ ∃ m, p.Reaches c (c.initialFuel budget) context m := by
      rintro ⟨m', flow, reached, ends⟩
      rw [instantiated] at reached
      cases reached
      cases ends
    simp [f.lacksRoutine_outcome, unreached]
  | missing m reached absent =>
    exact ⟨fun _ => ⟨absent, m, reached⟩, fun _ => rfl⟩
  | failed m last b f reached callable run =>
    simp [f.lacksRoutine_outcome, callable]
  | returned m last b flow reached callable run ends =>
    simp [RoutineOutcome.lacksRoutine, callable]

/-- What a call that has not found its routine missing consumed has been taken down. -/
theorem tell_metrics (returned : (p.execute c budget name context).1 = .ok outcome)
    (found : outcome.lacksRoutine = false) :
    (p.execute c budget name context).2.metrics.Tell (c.initialFuel budget)
      (p.lastMachine c budget name context).fuel := by
  have burns := (p.underWay_lastMachine c budget name context).burns
  have ended := p.ended_execute c budget name context
  rw [returned] at ended
  generalize (p.execute c budget name context).2 = final at ended
  cases ended with
  | missing m reached absent =>
    cases found
  | startFailed f m instantiated =>
    rw [lastMachine_of_startFailed instantiated name] at burns ⊢
    exact Machine.tell_finish burns
  | failed m last b f reached callable run =>
    rw [lastMachine_of_callable reached callable, run] at burns ⊢
    exact Machine.tell_finish burns
  | returned m last b flow reached callable run ends =>
    rw [lastMachine_of_callable reached callable, run] at burns ⊢
    exact Machine.tell_finish burns

/-- A call that finds no routine to run leaves the metrics as they were. -/
theorem metrics_of_missing {m : Machine} (reached : p.Reaches c (c.initialFuel budget) context m)
    (absent : p.callable? name = none) :
    (p.execute c budget name context).2.metrics = context.metrics := by
  have last := p.underWay_lastMachine c budget name context
  rw [lastMachine_of_missing reached absent] at last
  rw [execute_of_missing reached absent]
  exact last.metrics_eq

/-- **Every call that comes to a routine, or fails on the way to it, has been taken down.** The
exception is a call that finds no routine to run: its metrics are those that it began with. In no
case is more fuel left than there was, and without metering there was none. -/
theorem metrics_taken_down (p : Program) (c : Conditions) (budget : Nat) (name : String)
    (context : CallContext)
    (returned : (p.execute c budget name context).1 = .ok outcome) :
    let initial := c.initialFuel budget
    let left := (p.lastMachine c budget name context).fuel
    let taken := (p.execute c budget name context).2.metrics
    left ≤ initial ∧ (c.metered = false → initial = 0) ∧
    (outcome.lacksRoutine = true ↔
      p.callable? name = none ∧ ∃ m, p.Reaches c initial context m) ∧
    (outcome.lacksRoutine = false → taken.Tell initial left) ∧
    (outcome.lacksRoutine = true → taken = context.metrics) := by
  intro initial left taken
  have unmetered (off : c.metered = false) : initial = 0 := if_neg (by simp [off])
  refine ⟨(p.underWay_lastMachine c budget name context).burns, unmetered,
    lacksRoutine_iff returned, tell_metrics returned, fun lacking => ?_⟩
  obtain ⟨absent, m, reached⟩ := (lacksRoutine_iff returned).mp lacking
  exact metrics_of_missing reached absent

/-- The start routine burns a unit of fuel, and the routine another one before it traps. -/
theorem metrics_taken_down_trapped :
    let p : Program := {
      memory := some { minimum := 1, exportName := some memoryName }
      start := some (.step (.size (some 0)) .done)
      routines := [{ name := "run", body := .step (.trap .unreachable) .done }] }
    let c : Conditions :=
      { pageLimit := 16, metered := true, timeLimit := none, capabilities := .none }
    let context : CallContext := { callId := "call", arguments := [], log := {} }
    let outcome := Failure.outcome .routine (.trapped .unreachable)
    (p.execute c 100 "run" context).1 = .ok outcome ∧
      (p.execute c 100 "run" context).2.metrics.Tell 100 98 := by
  intro p c context outcome
  have returned : (p.execute c 100 "run" context).1 = .ok outcome := rfl
  have left : (p.lastMachine c 100 "run" context).fuel = 98 := by decide
  obtain ⟨-, -, -, taken, -⟩ := metrics_taken_down p c 100 "run" context returned
  exact ⟨returned, left ▸ taken rfl⟩

/-- Of a call of a routine that the program does not have, nothing is taken down, although its start
routine has burnt fuel. -/
theorem metrics_not_taken_down_of_missing :
    let p : Program := {
      memory := some { minimum := 1, exportName := some memoryName }
      start := some (.step (.size (some 0)) .done)
      routines := [{ name := "run" }] }
    let c : Conditions :=
      { pageLimit := 16, metered := true, timeLimit := none, capabilities := .none }
    let context : CallContext := { callId := "call", arguments := [], log := {} }
    let message := "module has no routine named 'absent'"
    (p.execute c 100 "absent" context).1 =
        .ok (.recoverable { kind := .missingExport, message }) ∧
      (p.lastMachine c 100 "absent" context).fuel = 99 ∧
      (p.execute c 100 "absent" context).2.metrics = { timed := false, fuelConsumed := 0 } ∧
      ¬ (p.execute c 100 "absent" context).2.metrics.Tell 100 99 := by
  intro p c context message
  have taken : (p.execute c 100 "absent" context).2.metrics = {} := by decide
  have untold : ¬ (p.execute c 100 "absent" context).2.metrics.Tell 100 99 := by
    rintro ⟨timed, -⟩
    rw [taken] at timed
    cases timed
  exact ⟨rfl, by decide, taken, untold⟩

end Program

end GuestRoutines
