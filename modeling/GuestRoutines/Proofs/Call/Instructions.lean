import GuestRoutines.Call.Execution

/-!
# What one instruction can do

An instruction reads its operands, asks the host, the system or the engine for something, and stores
an answer. Each of these may fail, and an instruction that fails stops the run.

## Main definitions

* `Instruction.isHostCall`, `Instruction.isSystemCall` — the instructions that ask for something
* `Instruction.Admits` — the failures of an instruction, but for the errors that it raises
* `Instruction.Ran` — everything that an instruction can do

## Main results

* `Instruction.ran_run` — an instruction does one of these things
-/

namespace GuestRoutines

/-! ### Operands and targets -/

namespace Machine

variable {m after : Machine} {address : UInt32} {n : Int32}

/-- An operand has its value of the memory alone. -/
theorem value_congr (m m' : Machine) (same : m.memory = m'.memory) (x : Operand) :
    m.value x = m'.value x := by
  unfold Machine.value
  rw [same]

theorem value_word_eq_ok_iff :
    m.value (.word address) = .ok n ↔ m.memory.load? address = some n := by
  generalize same : Operand.word address = x
  fun_cases Machine.value m x with
  | case1 k => cases same
  | case2 a k loaded =>
    cases same
    rw [loaded, Except.ok.injEq, Option.some.injEq]
  | case3 a outside =>
    cases same
    simp [outside]

/-- Storing a word changes the memory, if there is a target at all. -/
theorem store_eq_ok_iff {target : Target} :
    m.store target n = .ok after ↔
      (target = none ∧ after = m) ∨
        ∃ a memory, target = some a ∧ m.memory.store? a n = some memory ∧
          after = { m with memory } := by
  fun_cases Machine.store m target n with
  | case1 => simp [eq_comm]
  | case2 a memory stored => simp [stored, eq_comm]
  | case3 a outside => simp [outside]

theorem store_eq_error_iff {target : Target} {f : Failure} :
    m.store target n = .error f ↔
      ∃ a, target = some a ∧ m.memory.store? a n = none ∧ f = .trapped .memory := by
  fun_cases Machine.store m target n with
  | case1 => simp
  | case2 a memory stored => simp [stored]
  | case3 a outside => simp [outside, eq_comm]

end Machine

/-! ### Computations that may fail -/

section

variable {α β : Type} {m : Machine} {ways : Failure → Prop}

/-- A computation fails only in some of the ways, and otherwise gives a result of a kind. -/
def Meets (ways : Failure → Prop) (result : α → Prop) : Except Failure α → Prop
  | .ok a => result a
  | .error f => ways f

namespace Meets

theorem bind {P : α → Prop} {Q : β → Prop} {r : Except Failure α} {g : α → Except Failure β}
    (first : Meets ways P r) (rest : ∀ a, P a → Meets ways Q (g a)) : Meets ways Q (r >>= g) := by
  cases r with
  | error f => exact first
  | ok a => exact rest a first

theorem value (memory : ways (.trapped .memory)) (x : Operand) :
    Meets ways (fun n => m.value x = .ok n) (m.value x) := by
  fun_cases Machine.value m x with
  | case1 n => rfl
  | case2 a n loaded => rfl
  | case3 a outside => exact memory

theorem store (memory : ways (.trapped .memory)) (target : Target) (n : Int32) :
    Meets ways (fun after => ∃ memory, after = { m with memory }) (m.store target n) := by
  fun_cases Machine.store m target n with
  | case1 => exact ⟨m.memory, rfl⟩
  | case2 a memory stored => exact ⟨memory, rfl⟩
  | case3 a outside => exact memory

theorem orViolation (violation : ∀ v, ways (.violation v)) (r : Except Violation α) :
    Meets ways (fun a => r = .ok a) (orViolation r) := by
  cases r with
  | error v => exact violation v
  | ok a => rfl

theorem makeCapitals (memory : ways (.trapped .memory)) (start length : Nat) :
    Meets ways (fun after => ∃ memory, after = { m with memory })
      (m.makeCapitals start length) := by
  fun_cases Machine.makeCapitals m start length with
  | case1 outside => exact memory
  | case2 b read memory written => exact ⟨memory, rfl⟩
  | case3 b read outside => exact memory

theorem requireMemory (fault : ∀ f, ways (.fault f)) :
    Meets ways (fun _ => True) m.requireMemory := by
  fun_cases Machine.requireMemory m with
  | case1 found => trivial
  | case2 hidden => exact fault _

theorem requireByte (fault : ∀ f, ways (.fault f)) (a : UInt32) :
    Meets ways (fun _ => True) (m.requireByte a) := by
  fun_cases Machine.requireByte m a with
  | case1 inside => trivial
  | case2 outside => exact fault _

theorem requireWord (fault : ∀ f, ways (.fault f)) (a : UInt32) :
    Meets ways (fun _ => True) (m.requireWord a) := by
  fun_cases Machine.requireWord m a with
  | case1 outside => exact fault _
  | case2 inside misaligned => exact fault _
  | case3 inside aligned outside => exact fault _
  | case4 inside aligned whole => trivial

theorem askEnvironment (fault : ∀ f, ways (.fault f)) (a : UInt32) :
    Meets ways (fun _ => True) (m.askEnvironment a) :=
  bind (requireMemory fault) fun _ _ => bind (requireWord fault a) fun _ _ => requireWord fault _

theorem askDirectory (fault : ∀ f, ways (.fault f)) (c : Conditions) (a : UInt32) :
    Meets ways (fun _ => True) (m.askDirectory c a) := by
  refine bind (requireMemory fault) fun _ _ => ?_
  split
  · exact bind (requireByte fault a) fun _ _ => requireWord fault _
  · trivial

end Meets

end

/-- What the host makes of a range exists only if the range can be read. -/
theorem Convention.eq_of_readRange {α : Type} {r : Except Violation ByteArray}
    {make : ByteArray → α} {a : α} (made : (do return make (← r)) = Except.ok a) :
    ∃ b, r = .ok b ∧ a = make b := by
  cases r with
  | error v => cases made
  | ok b =>
    cases made
    exact ⟨b, rfl, rfl⟩

namespace Instruction

/-- The instruction calls a host function. -/
def isHostCall : Instruction → Bool
  | argCount _ | argLength _ _ | argRead _ _ | setResult _ _ | raise _ _ | log _ _ _
  | logEnabled _ _ => true
  | _ => false

/-- The instruction calls a function of the system interface. -/
def isSystemCall : Instruction → Bool
  | exit _ | seesEnvironment _ | seesDirectory _ => true
  | _ => false

/-- The instruction goes on if it does not fail, and changes the memory at most. -/
def isPlain : Instruction → Bool
  | setResult _ _ | raise _ _ | log _ _ _ | exit _ | leave | spin | trap _ => false
  | _ => true

/-- The failures of an instruction, but for the errors that it raises. An address outside of memory
can be an operand or a target of nearly all of them. -/
inductive Admits : Instruction → Failure → Prop where
  | memory {i : Instruction} : i.Admits (.trapped .memory)
  | violation {i : Instruction} (host : i.isHostCall) (v : Violation) : i.Admits (.violation v)
  | fault {i : Instruction} (system : i.isSystemCall) (f : EngineFault) : i.Admits (.fault f)
  | trapped (t : Trap) : (trap t).Admits (.trapped t)
  | interrupted : spin.Admits (.trapped .interrupted)

/-- The range that an instruction names by two operands holds these bytes. -/
def Reads (m : Machine) (pointer length : Operand) (b : ByteArray) : Prop :=
  ∃ p n, m.value pointer = .ok p ∧ m.value length = .ok n ∧
    Convention.readRange m.memory p n = .ok b

/-- The message that an instruction logs by three operands. -/
def Logs (m : Machine) (code pointer length : Operand) (level : ManagedLevel) (message : String) :
    Prop :=
  ∃ l p n, m.value code = .ok l ∧ m.value pointer = .ok p ∧ m.value length = .ok n ∧
    level = .ofCode l.toInt ∧ Convention.logged m.memory p n = .ok message

/-- Everything that an instruction can do to a machine, and how the run goes on. -/
inductive Ran (m : Machine) : Instruction → Flow → Machine → Prop where
  | failed {i : Instruction} (f : Failure) (admitted : i.Admits f) : Ran m i (.failed f) m
  | raised {pointer length : Operand} (b : ByteArray) (read : Reads m pointer length b) :
      Ran m (raise pointer length) (.failed (.raised (Text.ofBytesLossy b))) m
  | exhausted : Ran m spin (.failed (.trapped .outOfFuel)) { m with fuel := 0 }
  | left : Ran m leave .left m
  | resultSet {pointer length : Operand} (b : ByteArray) (read : Reads m pointer length b) :
      Ran m (setResult pointer length) .onward { m with context := m.context.setResult b }
  | logged {code pointer length : Operand} (level : ManagedLevel) (message : String)
      (forwarded : Bool) (context : CallContext) (read : Logs m code pointer length level message)
      (recorded : m.context.record level message = (.ok forwarded, context)) :
      Ran m (log code pointer length) .onward { m with context }
  | unwound {code pointer length : Operand} (level : ManagedLevel) (message : String)
      (u : Unwinding) (context : CallContext) (read : Logs m code pointer length level message)
      (recorded : m.context.record level message = (.error u, context)) :
      Ran m (log code pointer length) (.unwound u) { m with context }
  | computed {i : Instruction} (memory : Memory) (plain : i.isPlain) :
      Ran m i .onward { m with memory }

variable {m : Machine} {i : Instruction}

theorem ran_after {ways : Failure → Prop} {Q : Machine → Prop} {r : Except Failure Machine}
    (meets : Meets ways Q r) (fails : ∀ f, ways f → Ran m i (.failed f) m)
    (passes : ∀ after, Q after → Ran m i .onward after) :
    Ran m i (m.after r).1 (m.after r).2 := by
  cases r with
  | error f => exact fails f meets
  | ok after => exact passes after meets

theorem ran_after_of_plain {r : Except Failure Machine} (plain : i.isPlain)
    (meets : Meets i.Admits (fun after => ∃ memory, after = { m with memory }) r) :
    Ran m i (m.after r).1 (m.after r).2 := by
  refine ran_after meets .failed ?_
  rintro _ ⟨memory, rfl⟩
  exact .computed memory plain

/-- The result that an instruction sets is the range that it names. -/
theorem meets_setResult (pointer length : Operand) :
    Meets (setResult pointer length).Admits
      (fun after => ∃ b, Reads m pointer length b ∧
        after = { m with context := m.context.setResult b })
      (do
        let p ← m.value pointer
        let n ← m.value length
        return { m with
          context := ← orViolation (Convention.setResult m.context m.memory p n) }) := by
  refine .bind (.value .memory pointer) fun p first => ?_
  refine .bind (.value .memory length) fun n second => ?_
  refine .bind (.orViolation (.violation rfl) _) fun context set => ?_
  obtain ⟨b, read, rfl⟩ := Convention.eq_of_readRange set
  exact ⟨b, ⟨p, n, first, second, read⟩, rfl⟩

/-- The error that an instruction raises is the range that it names. -/
theorem meets_raise (pointer length : Operand) :
    Meets
      (fun f => (raise pointer length).Admits f ∨
        ∃ b, Reads m pointer length b ∧ f = .raised (Text.ofBytesLossy b))
      (fun _ : Machine => False)
      (do
        let p ← m.value pointer
        let n ← m.value length
        .error (.raised (← orViolation (Convention.raised m.memory p n)))) := by
  refine .bind (.value (.inl .memory) pointer) fun p first => ?_
  refine .bind (.value (.inl .memory) length) fun n second => ?_
  refine .bind (.orViolation (fun v => .inl (.violation rfl v)) _) fun message raised => ?_
  obtain ⟨b, read, rfl⟩ := Convention.eq_of_readRange raised
  exact .inr ⟨b, ⟨p, n, first, second, read⟩, rfl⟩

theorem meets_log (code pointer length : Operand) :
    Meets (log code pointer length).Admits
      (fun logged => Logs m code pointer length logged.1 logged.2)
      (do
        let l ← m.value code
        let p ← m.value pointer
        let n ← m.value length
        return (ManagedLevel.ofCode l.toInt, ← orViolation (Convention.logged m.memory p n))) := by
  refine .bind (.value .memory code) fun l first => ?_
  refine .bind (.value .memory pointer) fun p second => ?_
  refine .bind (.value .memory length) fun n third => ?_
  refine .bind (.orViolation (.violation rfl) _) fun message logged => ?_
  exact ⟨l, p, n, first, second, third, rfl, logged⟩

/-- An instruction does one of the things it can do. -/
theorem ran_run (c : Conditions) (m : Machine) (i : Instruction) :
    Ran m i (i.run c m).1 (i.run c m).2 := by
  -- The steps of each instruction in their order: operands, what it asks for, the target.
  cases i with
  | argCount target =>
    refine ran_after_of_plain rfl (.bind (.orViolation (.violation rfl) _) fun n _ => ?_)
    exact .store .memory target n
  | argLength index target =>
    refine ran_after_of_plain rfl (.bind (.value .memory index) fun i _ => ?_)
    refine .bind (.orViolation (.violation rfl) _) fun n _ => ?_
    exact .store .memory target n
  | argRead index pointer =>
    refine ran_after_of_plain rfl (.bind (.value .memory index) fun i _ => ?_)
    refine .bind (.value .memory pointer) fun p _ => ?_
    exact .bind (.orViolation (.violation rfl) _) fun memory _ => ⟨memory, rfl⟩
  | setResult pointer length =>
    refine ran_after (meets_setResult pointer length) .failed ?_
    rintro _ ⟨b, read, rfl⟩
    exact .resultSet b read
  | raise pointer length =>
    refine ran_after (meets_raise pointer length) ?_ fun _ none => none.elim
    rintro f (admitted | ⟨b, read, rfl⟩)
    · exact .failed f admitted
    · exact .raised b read
  | log code pointer length =>
    have meets := meets_log (m := m) code pointer length
    simp only [run]
    split
    · next level message logged =>
      rw [logged] at meets
      unfold Machine.log
      split
      · next forwarded context recorded =>
        exact .logged level message forwarded context meets recorded
      · next u context recorded => exact .unwound level message u context meets recorded
    · next f failed =>
      rw [failed] at meets
      exact .failed f meets
  | logEnabled level target =>
    refine ran_after_of_plain rfl (.bind (.value .memory level) fun l _ => ?_)
    exact .store .memory target _
  | exit status =>
    -- Nothing comes of it but a failure.
    refine ran_after (Q := fun _ => False) ?_ .failed fun _ none => none.elim
    refine .bind (.value .memory status) fun s _ => ?_
    exact .bind (.requireMemory (.fault rfl)) fun _ _ => .fault rfl _
  | seesEnvironment a =>
    refine ran_after_of_plain rfl (.bind (.askEnvironment (.fault rfl) a) fun _ _ => ?_)
    exact .store .memory (some a) _
  | seesDirectory a =>
    refine ran_after_of_plain rfl (.bind (.askDirectory (.fault rfl) c a) fun _ _ => ?_)
    exact .store .memory (some a) _
  | store target x =>
    exact ran_after_of_plain rfl (.bind (.value .memory x) fun n _ => .store .memory target n)
  | add target x y =>
    refine ran_after_of_plain rfl (.bind (.value .memory x) fun n _ => ?_)
    exact .bind (.value .memory y) fun k _ => .store .memory target (n + k)
  | grow pages target =>
    refine ran_after_of_plain rfl (.bind (.value .memory pages) fun n _ => ?_)
    split
    · next memory _ =>
      -- The target may lie in the new pages.
      exact .store (m := { m with memory }) .memory target _
    · exact .store .memory target (-1)
  | capitals pointer length =>
    refine ran_after_of_plain rfl (.bind (.value .memory pointer) fun p _ => ?_)
    exact .bind (.value .memory length) fun n _ => .makeCapitals .memory _ _
  | size target => exact ran_after_of_plain rfl (.store .memory target _)
  | leave => exact .left
  | spin =>
    simp only [run, Machine.spin]
    split
    · exact .exhausted
    · exact .failed _ .interrupted
  | trap t => exact .failed _ (.trapped t)

end Instruction

end GuestRoutines
