import GuestRoutines.Proofs.Call.Effects

/-!
# A call does not look at the past

A call adds messages to the log of the host and never reads them. With other messages before its
own, it runs the same: it ends in the same way and adds the same messages.

## Main definitions

* `Log.preceded`, `CallContext.preceded`, `Machine.preceded` — with earlier messages in the log
* `Log.Agrees` — logs that treat every message alike

## Main results

* `Body.run_preceded`, `Program.execute_preceded` — earlier messages stay where they are
* `Program.execute_of_agrees` — logs that treat messages alike are told the same
-/

namespace GuestRoutines

/-- The log with earlier messages before all that it holds. -/
def Log.preceded (earlier : List (HostLevel × String)) (g : Log) : Log :=
  { g with written := earlier ++ g.written }

/-- The context with earlier messages in its log. -/
def CallContext.preceded (earlier : List (HostLevel × String)) (c : CallContext) : CallContext :=
  { c with log := c.log.preceded earlier }

/-- The machine with earlier messages in the log of its context. -/
def Machine.preceded (earlier : List (HostLevel × String)) (m : Machine) : Machine :=
  { m with context := m.context.preceded earlier }

variable (earlier : List (HostLevel × String))

/-! ### Messages -/

theorem Log.emit_preceded (g : Log) (l : ManagedLevel) (message : String) :
    (g.preceded earlier).emit l message =
      Prod.map id (Log.preceded earlier) (g.emit l message) := by
  rw [emit_eq, emit_eq]
  have asked : (g.preceded earlier).isEnabled l = g.isEnabled l := rfl
  have refused : (g.preceded earlier).refusal message = g.refusal message := rfl
  rw [asked, refused]
  by_cases enabled : g.isEnabled l
  · rw [if_pos enabled, if_pos enabled]
    cases g.refusal message with
    | some text => rfl
    | none => simp [preceded]
  · rw [if_neg enabled, if_neg enabled]
    rfl

theorem CallContext.record_preceded (c : CallContext) (l : ManagedLevel) (message : String) :
    (c.preceded earlier).record l message =
      Prod.map id (CallContext.preceded earlier) (c.record l message) := by
  have emitted := c.log.emit_preceded earlier l message
  simp only [record, preceded] at emitted ⊢
  rw [emitted]
  rcases c.log.emit l message with ⟨_ | _, _⟩ <;> rfl

/-! ### Machines -/

namespace Machine

variable (m : Machine)

theorem memory_preceded : (m.preceded earlier).memory = m.memory := rfl

/-- Operands come from the memory. -/
theorem value_preceded (x : Operand) : (m.preceded earlier).value x = m.value x :=
  value_congr _ _ (m.memory_preceded earlier) x

theorem store_preceded (target : Target) (n : Int32) :
    (m.preceded earlier).store target n = preceded earlier <$> m.store target n := by
  cases stored : m.store target n with
  | ok after =>
    refine store_eq_ok_iff.mpr ?_
    rcases store_eq_ok_iff.mp stored with ⟨rfl, rfl⟩ | ⟨a, memory, rfl, kept, rfl⟩
    · exact .inl ⟨rfl, rfl⟩
    · exact .inr ⟨a, memory, rfl, kept, rfl⟩
  | error f =>
    obtain ⟨a, rfl, outside, rfl⟩ := store_eq_error_iff.mp stored
    exact store_eq_error_iff.mpr ⟨a, rfl, outside, rfl⟩

theorem makeCapitals_preceded (start length : Nat) :
    (m.preceded earlier).makeCapitals start length =
      preceded earlier <$> m.makeCapitals start length := by
  unfold makeCapitals
  simp only [preceded]
  cases m.memory.read? start length with
  | none => rfl
  | some b =>
    cases written : m.memory.write? start ⟨b.data.map capital⟩ <;>
    · simp only [written]
      rfl

theorem after_preceded (r : Except Failure Machine) :
    (m.preceded earlier).after (preceded earlier <$> r) =
      Prod.map id (preceded earlier) (m.after r) := by
  cases r <;> rfl

theorem log_preceded (l : ManagedLevel) (message : String) :
    (m.preceded earlier).log l message = Prod.map id (preceded earlier) (m.log l message) := by
  have recorded := m.context.record_preceded earlier l message
  simp only [Machine.log, preceded] at recorded ⊢
  rw [recorded]
  rcases m.context.record l message with ⟨_ | _, _⟩ <;> rfl

end Machine

theorem setResult_preceded (context : CallContext) (memory : Memory) (pointer length : Int32) :
    orViolation (Convention.setResult (context.preceded earlier) memory pointer length) =
      CallContext.preceded earlier <$>
        orViolation (Convention.setResult context memory pointer length) := by
  unfold Convention.setResult
  cases Convention.readRange memory pointer length <;> rfl

/-- One instruction does the same with earlier messages in the log. -/
theorem Instruction.run_preceded (c : Conditions) (m : Machine) (i : Instruction) :
    i.run c (m.preceded earlier) = Prod.map id (Machine.preceded earlier) (i.run c m) := by
  cases i with
  | store target x | add target x y =>
    simp only [run, ← Machine.after_preceded, map_bind, ← Machine.store_preceded,
      Machine.value_preceded]
  | argCount target | argLength index target | logEnabled level target | size target
  | seesEnvironment a | seesDirectory a =>
    -- What is asked for does not depend on the messages, and then a word is stored.
    simp only [run, ← Machine.after_preceded, map_bind, ← Machine.store_preceded,
      Machine.value_preceded]
    rfl
  | argRead index pointer | raise pointer length | exit status =>
    simp only [run, ← Machine.after_preceded, map_bind, Machine.value_preceded]
    rfl
  | setResult pointer length =>
    have set (p n : Int32) := setResult_preceded earlier m.context m.memory p n
    simp only [run, ← Machine.after_preceded, map_bind, Machine.value_preceded]
    simp only [Machine.preceded] at set ⊢
    simp only [set, bind_map_left]
    rfl
  | log level pointer length =>
    simp only [run, Machine.value_preceded]
    rw [Machine.memory_preceded]
    split
    · exact m.log_preceded earlier _ _
    · rfl
  | grow pages target =>
    simp only [run, ← Machine.after_preceded, map_bind, Machine.value_preceded]
    congr 1
    refine bind_congr fun n => ?_
    rw [Machine.memory_preceded]
    cases m.memory.grow? c.pageLimit n.toUInt32.toNat with
    | some memory => exact Machine.store_preceded earlier { m with memory } target _
    | none => exact m.store_preceded earlier target _
  | capitals pointer length =>
    simp only [run, ← Machine.after_preceded, map_bind, ← Machine.makeCapitals_preceded,
      Machine.value_preceded]
  | leave => rfl
  | spin =>
    simp only [run, Machine.spin]
    have same : (m.preceded earlier).fuel = m.fuel := rfl
    rw [same]
    split <;> rfl
  | trap t => rfl

/-! ### Code -/

theorem andThen_preceded (piece : Flow × Machine) {next : Machine → Flow × Machine}
    (rest : ∀ m, next (m.preceded earlier) = Prod.map id (Machine.preceded earlier) (next m)) :
    andThen (Prod.map id (Machine.preceded earlier) piece)
        (Prod.map id (Machine.preceded earlier) piece) next =
      Prod.map id (Machine.preceded earlier) (andThen piece piece next) := by
  rcases piece with ⟨flow, m⟩
  cases flow with
  | onward => exact rest m
  | left | failed f | unwound u => rfl

/-- Code does the same with earlier messages in the log. -/
theorem Body.run_preceded (c : Conditions) (b : Body) (m : Machine) :
    b.run c (m.preceded earlier) = Prod.map id (Machine.preceded earlier) (b.run c m) := by
  -- The code after a piece is run from any machine, so the induction is for all of them.
  induction b generalizing m with
  | done => rfl
  | step i rest ih =>
    rw [run_step, run_step, Instruction.run_preceded]
    exact andThen_preceded earlier _ ih
  | branch x negative other rest ihNegative ihOther ihRest =>
    cases value : m.value x with
    | error f =>
      have same := (m.value_preceded earlier x).trans value
      simp only [run, value, same]
      rfl
    | ok n =>
      have same := (m.value_preceded earlier x).trans value
      rw [run_branch value, run_branch same, ihNegative, ihOther, ← apply_ite (Prod.map id _)]
      exact andThen_preceded earlier _ ihRest

theorem Body.enter_preceded (c : Conditions) (b : Body) (m : Machine) :
    b.enter c (m.preceded earlier) = Prod.map id (Machine.preceded earlier) (b.enter c m) := by
  have entered : ({ m.preceded earlier with fuel := (m.preceded earlier).fuel - 1 } : Machine) =
      Machine.preceded earlier { m with fuel := m.fuel - 1 } := rfl
  simp only [enter, entered, run_preceded]
  have same : (m.preceded earlier).fuel = m.fuel := rfl
  rw [same]
  split <;> rfl

/-! ### Calls -/

namespace Program

variable (p : Program) (c : Conditions) (fuel : Nat) (name : String)

theorem copyData_preceded (m : Machine) (data : List DataSegment) :
    copyData (m.preceded earlier) data =
      Prod.map id (Machine.preceded earlier) (copyData m data) := by
  induction data generalizing m with
  | nil => rfl
  | cons d data ih =>
    simp only [copyData, Machine.memory_preceded]
    cases m.memory.write? d.offset d.bytes with
    | none => rfl
    | some memory => exact ih { m with memory }

theorem prepare_preceded (context : CallContext) :
    p.prepare c fuel (context.preceded earlier) =
      Prod.map id (Machine.preceded earlier) (p.prepare c fuel context) := by
  have fresh : ({ memory := p.freshMemory, fuel, context := context.preceded earlier } : Machine) =
      Machine.preceded earlier { memory := p.freshMemory, fuel, context } := rfl
  simp only [prepare, fresh, copyData_preceded]
  cases p.unresolved with
  | cons entry rest => rfl
  | nil =>
    dsimp only
    split
    · rfl
    · split <;> rfl

theorem instantiate_preceded (context : CallContext) :
    p.instantiate c fuel (context.preceded earlier) =
      Prod.map id (Machine.preceded earlier) (p.instantiate c fuel context) := by
  rw [instantiate_eq, instantiate_eq, prepare_preceded]
  refine andThen_preceded earlier _ fun m => ?_
  unfold runStart
  cases p.start with
  | none => rfl
  | some b => exact b.enter_preceded earlier c m

theorem callIn_preceded (m : Machine) :
    p.callIn c fuel name (m.preceded earlier) =
      Prod.map id (CallContext.preceded earlier) (p.callIn c fuel name m) := by
  unfold callIn
  cases p.callable? name with
  | none => rfl
  | some b =>
    simp only [b.enter_preceded]
    rcases b.enter c m with ⟨_ | _ | _ | _, _⟩ <;> rfl

/-- **A call does the same with earlier messages in the log**: it ends in the same way, and the
earlier messages stay before all others. -/
theorem execute_preceded (budget : Nat) (context : CallContext) :
    p.execute c budget name (context.preceded earlier) =
      Prod.map id (CallContext.preceded earlier) (p.execute c budget name context) := by
  have started := p.instantiate_preceded earlier c (c.initialFuel budget) context
  rcases instantiated : p.instantiate c (c.initialFuel budget) context with ⟨flow, m⟩
  rw [instantiated] at started
  cases flow with
  | onward | left =>
    rw [execute_of_reaches ⟨_, instantiated, rfl⟩, execute_of_reaches ⟨_, started, rfl⟩]
    exact p.callIn_preceded earlier c _ name m
  | failed f =>
    rw [execute_of_startFailed instantiated, execute_of_startFailed started]
    rfl
  | unwound u =>
    simp only [Conditions.initialFuel] at instantiated started
    simp only [execute, instantiated, started]
    rfl

end Program

/-! ### Two logs -/

/-- Two logs treat every message alike, whatever has been written to them. -/
structure Log.Agrees (g g' : Log) : Prop where
  levels : g'.levels = g.levels
  threshold : g'.threshold = g.threshold
  refusal : g'.refusal = g.refusal

/-- Logs that agree differ in what has been written. -/
theorem Log.Agrees.eq_preceded {g g' : Log} (h : g.Agrees g') :
    g' = Log.preceded g'.written { g with written := [] } := by
  obtain ⟨levels, threshold, refusal, written⟩ := g'
  obtain ⟨rfl, rfl, rfl⟩ := h
  simp [preceded]

/-- In front of logs that agree, a call ends in the same way and adds the same messages. -/
theorem Program.execute_of_agrees (p : Program) (c : Conditions) (budget : Nat)
    (name callId : String) (arguments : List (Option ByteArray)) {g g' : Log} (h : g.Agrees g') :
    ∃ answer messages, ∀ log ∈ [g, g'],
      let ending := p.execute c budget name { callId, arguments, log }
      ending.1 = answer ∧ ending.2.log.written = log.written ++ messages := by
  let blank : CallContext := { callId, arguments, log := { g with written := [] } }
  refine ⟨(p.execute c budget name blank).1, (p.execute c budget name blank).2.log.written, ?_⟩
  intro log member ending
  have same : log = Log.preceded log.written blank.log := by
    rw [List.mem_cons, List.mem_singleton] at member
    rcases member with rfl | rfl
    · exact Log.Agrees.eq_preceded ⟨rfl, rfl, rfl⟩
    · exact h.eq_preceded
  have ran : ending = Prod.map id (CallContext.preceded log.written)
      (p.execute c budget name blank) := by
    rw [← execute_preceded]
    exact congrArg (fun log => p.execute c budget name { callId, arguments, log }) same
  rw [ran]
  exact ⟨rfl, rfl⟩

end GuestRoutines
