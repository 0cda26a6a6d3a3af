import GuestRoutines.Proofs.Call.Instructions

/-!
# The steps of a run

A run executes one instruction after the other until something stops it. The steps are listed with
the machine that each of them met, so that what a run does can be told from what its steps do.

## Main definitions

* `Step` — an instruction that was executed
* `Body.steps`, `Body.enteredSteps` — the steps of code, and of code that is entered
* `Traced` — a run by its steps

## Main results

* `Body.traced_run`, `Body.traced_enter` — a run goes by its steps
* `Traced.eq_of_mem` — a step that does not go on is the end of the run
* `Traced.step_of_failed` — a run that fails was stopped by a step, or by a trap between two steps
-/

namespace GuestRoutines

/-- An instruction that was executed, and the machine that it met. -/
structure Step where
  instruction : Instruction
  before : Machine

namespace Step

variable (c : Conditions) (s : Step)

/-- How the run goes on after the step. -/
def flow : Flow := (s.instruction.run c s.before).1

/-- The machine after the step. -/
def after : Machine := (s.instruction.run c s.before).2

theorem ran : s.instruction.Ran s.before (s.flow c) (s.after c) :=
  Instruction.ran_run c s.before s.instruction

end Step

/-! ### Runs by their steps -/

/-- A run by its steps: each begins where the one before it ended, and only the last one may stop
the run. Between two steps the engine itself can stop it with a trap. -/
inductive Traced (c : Conditions) : Machine → List Step → Flow × Machine → Prop where
  | onward (m : Machine) : Traced c m [] (.onward, m)
  | trapped (m : Machine) (t : Trap) : Traced c m [] (.failed (.trapped t), m)
  | stopped (s : Step) (stops : s.flow c ≠ .onward) : Traced c s.before [s] (s.flow c, s.after c)
  | step (s : Step) {steps : List Step} {ending : Flow × Machine} (goes : s.flow c = .onward)
      (rest : Traced c (s.after c) steps ending) : Traced c s.before (s :: steps) ending

/-- A piece of a run, and what follows it if it goes on. -/
def andThen {α : Type} (piece : Flow × Machine) (stopped : α) (next : Machine → α) : α :=
  match piece with
  | (.onward, m) => next m
  | _ => stopped

theorem andThen_of_stopped {α : Type} {piece : Flow × Machine} {stopped : α} {next : Machine → α}
    (stops : piece.1 ≠ .onward) : andThen piece stopped next = stopped := by
  unfold andThen
  split
  · exact absurd rfl stops
  · rfl

namespace Traced

variable {c : Conditions} {m : Machine} {steps : List Step} {ending : Flow × Machine}

/-- One instruction as a run. -/
theorem instruction (c : Conditions) (m : Machine) (i : Instruction) :
    Traced c m [⟨i, m⟩] (i.run c m) := by
  by_cases goes : (i.run c m).1 = .onward
  · have rest : Traced c (i.run c m).2 [] (i.run c m) := by
      have eq : i.run c m = (.onward, (i.run c m).2) := Prod.ext goes rfl
      rw [eq]
      exact .onward _
    exact .step ⟨i, m⟩ goes rest
  · exact .stopped ⟨i, m⟩ goes

theorem append {after : Machine} {more : List Step} (first : Traced c m steps (.onward, after))
    (rest : Traced c after more ending) : Traced c m (steps ++ more) ending := by
  -- The end of the first run is a variable of the induction, and `onward` keeps what it is.
  generalize onward : (Flow.onward, after) = piece at first
  induction first with
  | onward m =>
    cases onward
    exact rest
  | trapped m t => cases onward
  | stopped s stops => exact absurd (congrArg Prod.fst onward).symm stops
  | step s goes _ ih => exact .step s goes (ih onward)

/-- A run goes on with the code that follows, or ends with its piece. -/
theorem andThen {piece : Flow × Machine} {more : Machine → List Step}
    {next : Machine → Flow × Machine} (first : Traced c m steps piece)
    (rest : ∀ after, Traced c after (more after) (next after)) :
    Traced c m (steps ++ GuestRoutines.andThen piece [] more)
      (GuestRoutines.andThen piece piece next) := by
  obtain ⟨flow, after⟩ := piece
  match flow with
  | .onward => exact first.append (rest after)
  | .left => simpa [GuestRoutines.andThen] using first
  | .failed f => simpa [GuestRoutines.andThen] using first
  | .unwound u => simpa [GuestRoutines.andThen] using first

/-- A step that does not go on is the end of the run. -/
theorem eq_of_mem (run : Traced c m steps ending) {s : Step} (mem : s ∈ steps)
    (stops : s.flow c ≠ .onward) : ending = (s.flow c, s.after c) := by
  induction run with
  | onward m => cases mem
  | trapped m t => cases mem
  | stopped last _ =>
    obtain rfl : s = last := List.mem_singleton.mp mem
    rfl
  | step first goes _ ih =>
    -- A step with others after it goes on.
    rcases List.mem_cons.mp mem with rfl | later
    · exact absurd goes stops
    · exact ih later

/-- Nothing is executed after a step that does not go on. -/
theorem eq_nil_of_stopped (run : Traced c m steps ending) {before rest : List Step} {s : Step}
    (split : steps = before ++ s :: rest) (stops : s.flow c ≠ .onward) : rest = [] := by
  induction run generalizing before with
  | onward m => simp at split
  | trapped m t => simp at split
  | stopped last _ =>
    cases before with
    | nil => exact (List.cons.inj split).2.symm
    | cons first before => simp at split
  | step first goes _ ih =>
    cases before with
    | nil => exact absurd ((List.cons.inj split).1 ▸ goes) stops
    | cons _ before => exact ih (List.cons.inj split).2

/-- A run that fails was stopped by a step, or by a trap between two steps. -/
theorem step_of_failed (run : Traced c m steps ending) {f : Failure}
    (failed : ending.1 = .failed f) :
    (∃ s ∈ steps, s.flow c = .failed f) ∨ ∃ t, f = .trapped t := by
  induction run with
  | onward m => cases failed
  | trapped m t =>
    cases failed
    exact .inr ⟨t, rfl⟩
  | stopped last _ => exact .inl ⟨last, List.mem_singleton_self last, failed⟩
  | step first _ _ ih =>
    rcases ih failed with ⟨s, mem, stops⟩ | trap
    · exact .inl ⟨s, List.mem_cons_of_mem first mem, stops⟩
    · exact .inr trap

theorem step_of_unwound (run : Traced c m steps ending) {u : Unwinding}
    (unwound : ending.1 = .unwound u) : ∃ s ∈ steps, s.flow c = .unwound u := by
  induction run with
  | onward m => cases unwound
  | trapped m t => cases unwound
  | stopped last _ => exact ⟨last, List.mem_singleton_self last, unwound⟩
  | step first _ _ ih =>
    obtain ⟨s, mem, stops⟩ := ih unwound
    exact ⟨s, List.mem_cons_of_mem first mem, stops⟩

/-- What every step keeps holds before every step, and at the end. -/
theorem invariant (run : Traced c m steps ending) {P : Machine → Prop}
    (kept : ∀ s : Step, P s.before → P (s.after c)) (start : P m) :
    (∀ s ∈ steps, P s.before) ∧ P ending.2 := by
  induction run with
  | onward m => exact ⟨List.forall_mem_nil _, start⟩
  | trapped m t => exact ⟨List.forall_mem_nil _, start⟩
  | stopped last _ => exact ⟨List.forall_mem_singleton.mpr start, kept last start⟩
  | step first _ _ ih =>
    obtain ⟨before, last⟩ := ih (kept first start)
    exact ⟨List.forall_mem_cons.mpr ⟨start, before⟩, last⟩

end Traced

/-! ### The steps of code -/

namespace Body

/-- The steps of code, up to the first one that does not go on. -/
def steps (c : Conditions) : Body → Machine → List Step
  | done, _ => []
  | step i rest, m => ⟨i, m⟩ :: andThen (i.run c m) [] (rest.steps c)
  | branch x negative other rest, m =>
    match m.value x with
    | .error _ => []
    | .ok n =>
      (if n.toInt < 0 then negative.steps c m else other.steps c m) ++
        andThen (if n.toInt < 0 then negative.run c m else other.run c m) [] (rest.steps c)

/-- The steps of code that is entered. -/
def enteredSteps (c : Conditions) (b : Body) (m : Machine) : List Step :=
  let m := { m with fuel := m.fuel - 1 }
  if c.metered ∧ m.fuel = 0 then [] else b.steps c m

variable {c : Conditions}

theorem run_step (i : Instruction) (rest : Body) (m : Machine) :
    (step i rest).run c m = andThen (i.run c m) (i.run c m) (rest.run c) := by
  rw [run]
  rcases i.run c m with ⟨_ | _ | _ | _, _⟩ <;> rfl

theorem run_branch {x : Operand} {n : Int32} {m : Machine} (value : m.value x = .ok n)
    (negative other rest : Body) :
    let chosen := if n.toInt < 0 then negative.run c m else other.run c m
    (branch x negative other rest).run c m = andThen chosen chosen (rest.run c) := by
  simp only [run, value]
  generalize (if n.toInt < 0 then negative.run c m else other.run c m) = chosen
  rcases chosen with ⟨_ | _ | _ | _, _⟩ <;> rfl

/-- A run of code goes by its steps. -/
theorem traced_run (c : Conditions) (b : Body) (m : Machine) :
    Traced c m (b.steps c m) (b.run c m) := by
  -- The code after a piece is run from any machine, so the induction is for all of them.
  induction b generalizing m with
  | done => exact .onward m
  | step i rest ih =>
    rw [run_step]
    exact (Traced.instruction c m i).andThen ih
  | branch x negative other rest ihNegative ihOther ihRest =>
    cases value : m.value x with
    | error f =>
      -- The operand lies outside of memory, and no instruction has been executed.
      have memory : f = .trapped .memory := by
        have meets : Meets (fun f => f = .trapped .memory) (fun n => m.value x = .ok n)
            (m.value x) := Meets.value (by rfl) x
        rwa [value] at meets
      simp only [steps, run, value, memory]
      exact .trapped m .memory
    | ok n =>
      rw [run_branch value, steps, value]
      refine Traced.andThen ?_ ihRest
      split
      · exact ihNegative m
      · exact ihOther m

/-- A run of code that is entered goes by its steps. -/
theorem traced_enter (c : Conditions) (b : Body) (m : Machine) :
    Traced c { m with fuel := m.fuel - 1 } (b.enteredSteps c m) (b.enter c m) := by
  unfold enteredSteps enter
  dsimp only
  split
  · exact .trapped _ .outOfFuel
  · exact traced_run c b _

end Body

end GuestRoutines
