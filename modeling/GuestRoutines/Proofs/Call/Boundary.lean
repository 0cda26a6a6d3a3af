import GuestRoutines.Embedding.Modules
import GuestRoutines.Proofs.Call.Convention
import GuestRoutines.Proofs.Call.Phases

/-!
# Values across the boundary

A value goes into a guest as bytes, and what the guest gives back is read as a value again. A
routine that gives back an argument shows what is lost on the way: nothing of the bytes, and of the
value only what bytes cannot tell.

## Main definitions

* `HostValue.Survives` — a value and what it is after the way into a guest and back
* `Echo.body` — a routine that gives back an argument
* `Echo.Keeps` — the routine keeps the answer about the length of the argument
* `Echo.Carries` — a memory has a place for a value

## Main results

* `HostValue.toArgument_ofResult` — every result can be handed to a guest again, and is the same
* `Echo.keeps_constant`, `Echo.keeps_word` — a constant or a word of memory keeps the answer
* `Echo.run_of_carries`, `Echo.run_of_not_carries` — how the routine runs
* `Echo.execute_gives_back` — how a call of the routine ends
-/

namespace GuestRoutines

/-! ### Bytes and texts -/

namespace Text

variable {b : ByteArray} {s : String}

theorem toUTF8_of_ofBytes? (decoded : ofBytes? b = some s) : s.toUTF8 = b := by
  unfold ofBytes? String.fromUTF8? at decoded
  split at decoded
  · cases decoded
    rfl
  · cases decoded

theorem ofBytes?_toUTF8 (s : String) : ofBytes? s.toUTF8 = some s := by
  have valid : s.toUTF8.IsValidUTF8 := s.isValidUTF8
  rw [ofBytes?, String.fromUTF8?, dif_pos valid]
  rfl

theorem ofBytes?_eq_none_iff : ofBytes? b = none ↔ ¬ b.IsValidUTF8 := by
  unfold ofBytes? String.fromUTF8?
  by_cases valid : b.IsValidUTF8
  · rw [dif_pos valid]
    simp [valid]
  · rw [dif_neg valid]
    simp [valid]

end Text

namespace HostValue

theorem ofResult_of_valid {b : ByteArray} (valid : b.IsValidUTF8) :
    ∃ s, ofResult (some b) = text s ∧ s.toUTF8 = b := by
  cases decoded : Text.ofBytes? b with
  | none => exact absurd valid (Text.ofBytes?_eq_none_iff.mp decoded)
  | some s =>
    refine ⟨s, ?_, Text.toUTF8_of_ofBytes? decoded⟩
    simp only [ofResult, decoded]

theorem ofResult_of_invalid {b : ByteArray} (invalid : ¬ b.IsValidUTF8) :
    ofResult (some b) = bytes b := by
  simp only [ofResult, Text.ofBytes?_eq_none_iff.mpr invalid]

theorem ofResult_toUTF8 (s : String) : ofResult (some s.toUTF8) = text s := by
  simp only [ofResult, Text.ofBytes?_toUTF8]

/-- Every result can be handed to a guest again, and the guest sees the same bytes. -/
theorem toArgument_ofResult (x : Option ByteArray) : (ofResult x).toArgument = x := by
  cases x with
  | none => rfl
  | some b =>
    by_cases valid : b.IsValidUTF8
    · obtain ⟨s, read, rfl⟩ := ofResult_of_valid valid
      rw [read, toArgument]
    · rw [ofResult_of_invalid valid, toArgument]

/-- A value that bytes can tell from every other one: the null value, a text, or bytes that are no
text. -/
def Plain (v : HostValue) : Prop :=
  v = null ∨ (∃ s, v = text s) ∨ ∃ b, v = bytes b ∧ ¬ b.IsValidUTF8

/-- A value, and what it is after the way into a guest and back. -/
structure Survives (v r : HostValue) : Prop where
  /-- A guest sees no difference. -/
  bytes_eq : r.toArgument = v.toArgument
  kept : v.Plain → r = v
  /-- Bytes that are a text come back as the text. -/
  decoded : ∀ b, v = bytes b → b.IsValidUTF8 → ∃ s, r = text s ∧ s.toUTF8 = b
  /-- The way changes nothing a second time. -/
  again : ofResult r.toArgument = r

theorem survives (v : HostValue) : v.Survives (ofResult v.toArgument) := by
  have same := toArgument_ofResult v.toArgument
  refine ⟨same, ?_, ?_, by rw [same]⟩
  · rintro (rfl | ⟨s, rfl⟩ | ⟨b, rfl, invalid⟩)
    · rfl
    · exact ofResult_toUTF8 s
    · exact ofResult_of_invalid invalid
  · rintro b rfl valid
    exact ofResult_of_valid valid

end HostValue

/-! ### Arguments stay as they are -/

theorem CallContext.arguments_record (c : CallContext) (l : ManagedLevel) (message : String) :
    (c.record l message).2.arguments = c.arguments := by
  unfold record
  split <;> rfl

theorem Instruction.Ran.arguments_eq {m after : Machine} {i : Instruction} {flow : Flow}
    (h : i.Ran m flow after) : after.context.arguments = m.context.arguments := by
  cases h with
  | logged level message forwarded context read recorded =>
    have kept := m.context.arguments_record level message
    rwa [recorded] at kept
  | unwound level message u context read recorded =>
    have kept := m.context.arguments_record level message
    rwa [recorded] at kept
  | _ => rfl

/-- The start routine leaves the arguments of the call alone. -/
theorem Program.Reaches.arguments_eq {p : Program} {c : Conditions} {fuel : Nat}
    {context : CallContext} {m : Machine} (reached : p.Reaches c fuel context m) :
    m.context.arguments = context.arguments := by
  obtain ⟨flow, instantiated, ends⟩ := reached
  obtain ⟨prepared, memory, eq, rfl | ⟨f, rfl⟩⟩ := p.prepare_cases c fuel context
  · obtain ⟨entered, same, run⟩ := traced_instantiate p c eq
    have kept (s : Step) (before : s.before.context.arguments = context.arguments) :
        (s.after c).context.arguments = context.arguments := by
      rw [(s.ran c).arguments_eq, before]
    have last := (run.invariant (P := fun m => m.context.arguments = context.arguments) kept
      (by rw [same])).2
    rwa [instantiated] at last
  · rw [instantiate_eq, eq] at instantiated
    cases instantiated
    cases ends

/-! ### A routine that gives back an argument -/

namespace Echo

variable {c : Conditions} {m after : Machine} {target : Target} {length : Operand}
  {index pointer : Int32} {b : ByteArray}

/-- The routine once it knows that the argument is not null: it has the argument written and sets it
as the result. -/
def carry (length : Operand) (index pointer : Int32) : Body :=
  .step (.argRead (.constant index) (.constant pointer)) <|
  .step (.setResult (.constant pointer) length) .done

/-- The routine: it asks for the length of the argument, is left if the length is negative, and
otherwise carries the argument over. The answer goes to the target, and the operand says it. -/
def body (target : Target) (length : Operand) (index pointer : Int32) : Body :=
  .step (.argLength (.constant index) target) <|
  .branch length (.step .leave .done) .done (carry length index pointer)

open Convention

/-- The operand says the answer about the length of the argument, also after the argument has been
written to its place. -/
def Keeps (m : Machine) (target : Target) (length : Operand) (index pointer : Int32) : Prop :=
  ∀ n, argumentLength m.context index = .ok n →
    ∃ after, m.store target n = .ok after ∧ after.value length = .ok n ∧
      ∀ b, Names m.context index (some b) → pointer.toInt + b.size ≤ m.memory.size →
        let memory := after.memory.patched pointer.toInt.toNat b
        ({ after with memory } : Machine).value length = .ok n

/-- A constant keeps the answer that it is. -/
theorem keeps_constant {n : Int32} (answered : argumentLength m.context index = .ok n) :
    Keeps m none (.constant n) index pointer := by
  intro n' answered'
  obtain rfl := Except.ok.inj (answered.symm.trans answered')
  exact ⟨m, rfl, rfl, fun _ _ _ => rfl⟩

/-- A word of memory keeps the answer if it is apart from the place of the argument. -/
theorem keeps_word {address : UInt32} (inside : address.toNat + 4 ≤ m.memory.size)
    (apart : ∀ b, Names m.context index (some b) → pointer.toInt + b.size ≤ m.memory.size →
      address.toNat + 4 ≤ pointer.toInt.toNat ∨ pointer.toInt.toNat + b.size ≤ address.toNat) :
    Keeps m (some address) (.word address) index pointer := by
  intro n answered
  obtain ⟨memory, stored⟩ : ∃ memory, m.memory.store? address n = some memory :=
    ⟨_, Memory.store?_eq_some_iff.mpr ⟨inside, rfl⟩⟩
  have loaded := Memory.load?_of_store? stored
  refine ⟨{ m with memory }, ?_, Machine.value_word_eq_ok_iff.mpr loaded, fun b names place => ?_⟩
  · exact Machine.store_eq_ok_iff.mpr (.inr ⟨address, memory, rfl, stored, rfl⟩)
  · have still := Memory.load?_patched (m := memory) (apart b names place)
    exact Machine.value_word_eq_ok_iff.mpr (still.trans loaded)

/-- Storing a word changes nothing but contents of memory. -/
theorem kept_of_store {n : Int32} (stored : m.store target n = .ok after) :
    after.context = m.context ∧ after.memory.size = m.memory.size ∧
      after.memory.exported = m.memory.exported := by
  rcases Machine.store_eq_ok_iff.mp stored with ⟨-, rfl⟩ | ⟨address, memory, -, written, rfl⟩
  · exact ⟨rfl, rfl, rfl⟩
  · obtain ⟨-, rfl⟩ := Memory.store?_eq_some_iff.mp written
    exact ⟨rfl, rfl, rfl⟩

/-- The fuel that is left makes no difference. -/
theorem Keeps.withFuel (keeps : Keeps m target length index pointer) (fuel : Nat) :
    Keeps { m with fuel } target length index pointer := by
  intro n answered
  obtain ⟨after, stored, told, still⟩ := keeps n answered
  refine ⟨{ after with fuel }, ?_, ?_, fun b names place => ?_⟩
  · rcases Machine.store_eq_ok_iff.mp stored with ⟨rfl, rfl⟩ | ⟨address, memory, rfl, written, rfl⟩
    · rfl
    · exact Machine.store_eq_ok_iff.mpr (.inr ⟨address, memory, rfl, written, rfl⟩)
  · rwa [Machine.value_congr { after with fuel } after rfl]
  · intro memory
    have same := Machine.value_congr { after with memory, fuel } { after with memory } rfl length
    exact same.trans (still b names place)

/-! ### Running the routine -/

theorem run_body_of_error {v : Violation} (refused : argumentLength m.context index = .error v) :
    (body target length index pointer).run c m = (.failed (.violation v), m) := by
  have asked : (Instruction.argLength (.constant index) target).run c m =
      (.failed (.violation v), m) := by
    simp only [Instruction.run, Machine.value, bind, Except.bind, refused]
    rfl
  rw [body, Body.run_step, asked]
  rfl

theorem run_body_of_ok {n : Int32} (answered : argumentLength m.context index = .ok n)
    (stored : m.store target n = .ok after) (told : after.value length = .ok n) :
    (body target length index pointer).run c m =
      if n.toInt < 0 then (.left, after) else (carry length index pointer).run c after := by
  have asked : (Instruction.argLength (.constant index) target).run c m = (.onward, after) := by
    have given : orViolation (argumentLength m.context index) = .ok n := by
      rw [answered]
      rfl
    simp only [Instruction.run, Machine.value, bind, Except.bind, given, stored]
    rfl
  rw [body, Body.run_step, asked]
  dsimp only [andThen]
  rw [Body.run_branch told]
  by_cases negative : n.toInt < 0
  · rw [if_pos negative, if_pos negative]
    rfl
  · rw [if_neg negative, if_neg negative]
    rfl

theorem run_argRead (names : Names m.context index (some b)) :
    (Instruction.argRead (.constant index) (.constant pointer)).run c m =
      m.after ((orViolation (writeRange m.memory pointer b)).map fun memory =>
        { m with memory }) := by
  simp only [Instruction.run, Machine.value, ← readArgument_of_bytes names]
  rfl

theorem run_setResult {n : Int32} (told : m.value length = .ok n)
    (read : readRange m.memory pointer n = .ok b) :
    (Instruction.setResult (.constant pointer) length).run c m =
      (.onward, { m with context := m.context.setResult b }) := by
  have pointed : m.value (.constant pointer) = .ok pointer := rfl
  have set : orViolation (Convention.setResult m.context m.memory pointer n) =
      .ok (m.context.setResult b) := by
    rw [Convention.setResult, read]
    rfl
  simp only [Instruction.run, pointed, told, set, bind, Except.bind]
  rfl

/-- Bytes that have a place are written there, and set as the result. -/
theorem run_carry_of_place (names : Names m.context index (some b)) (short : b.size ≤ wordMax)
    (exported : m.memory.exported = true) (forward : 0 ≤ pointer.toInt)
    (place : pointer.toInt + b.size ≤ m.memory.size)
    (told : ({ m with memory := m.memory.patched pointer.toInt.toNat b } : Machine).value length =
      .ok (.ofNat b.size)) :
    (carry length index pointer).run c m =
      (.onward,
        { m with
          memory := m.memory.patched pointer.toInt.toNat b
          context := m.context.setResult b }) := by
  have said : (Int32.ofNat b.size).toInt = b.size := toInt_ofNat_of_le short
  have inside : pointer.toInt.toNat + b.size ≤ m.memory.size := by omega
  have written : writeRange m.memory pointer b = .ok (m.memory.patched pointer.toInt.toNat b) :=
    writeRange_eq_ok_iff.mpr ⟨forward, exported, inside, rfl⟩
  have read : readRange (m.memory.patched pointer.toInt.toNat b) pointer (.ofNat b.size) =
      .ok b := by
    rw [readRange_eq_ok_iff, said]
    refine ⟨⟨forward, by omega⟩, exported, by simpa using inside, ?_⟩
    simpa using (m.memory.bytesAt_patched pointer.toInt.toNat b).symm
  have placed : (Instruction.argRead (.constant index) (.constant pointer)).run c m =
      (.onward, { m with memory := m.memory.patched pointer.toInt.toNat b }) := by
    rw [run_argRead names, written]
    rfl
  rw [carry, Body.run_step, placed]
  dsimp only [andThen]
  rw [Body.run_step, run_setResult told read]
  rfl

/-- Bytes that have no place are a violation. -/
theorem run_carry_of_no_place (c : Conditions) (length : Operand)
    (names : Names m.context index (some b)) (forward : 0 ≤ pointer.toInt)
    (crowded : ¬ pointer.toInt + b.size ≤ m.memory.size) :
    ∃ v, (carry length index pointer).run c m = (.failed (.violation v), m) := by
  cases written : writeRange m.memory pointer b with
  | ok memory =>
    obtain ⟨-, -, inside, -⟩ := writeRange_eq_ok_iff.mp written
    omega
  | error v =>
    refine ⟨v, ?_⟩
    rw [carry, Body.run_step, run_argRead names, written]
    rfl

/-! ### A call of the routine -/

/-- The argument at an index is a value. -/
def Argument (arguments : List HostValue) (index : Int32) (v : HostValue) : Prop :=
  0 ≤ index.toInt ∧ arguments[index.toInt.toNat]? = some v

/-- A memory has a place for a value behind a pointer. The null value needs none. -/
def Carries (m : Memory) (pointer : Int32) (v : HostValue) : Prop :=
  v = .null ∨ ∃ b, v.toArgument = some b ∧ b.size ≤ wordMax ∧ pointer.toInt + b.size ≤ m.size

variable {arguments : List HostValue} {v : HostValue}

theorem Argument.names {context : CallContext} (h : Argument arguments index v)
    (same : context.arguments = arguments.map (·.toArgument)) :
    Names context index v.toArgument := by
  refine ⟨h.1, ?_⟩
  rw [same, List.getElem?_map, h.2]
  rfl

/-- A value with a place comes through the routine. -/
theorem run_of_carries (named : Argument arguments index v)
    (same : m.context.arguments = arguments.map (·.toArgument))
    (keeps : Keeps m target length index pointer) (exported : m.memory.exported = true)
    (forward : 0 ≤ pointer.toInt) (unset : m.context.result = none)
    (carries : Carries m.memory pointer v) :
    ∃ flow last, (body target length index pointer).run c m = (flow, last) ∧ flow.isEnd ∧
      last.context.result = v.toArgument := by
  have names := named.names same
  rcases carries with rfl | ⟨b, bytes, short, place⟩
  · -- The length of the null value is negative, and the routine is left at once.
    have answered : argumentLength m.context index = .ok (-1) := argumentLength_of_null names
    obtain ⟨after, stored, told, -⟩ := keeps _ answered
    refine ⟨.left, after, ?_, rfl, ?_⟩
    · rw [run_body_of_ok answered stored told]
      rfl
    · rw [(kept_of_store stored).1, unset]
      rfl
  · rw [bytes] at names ⊢
    have answered : argumentLength m.context index = .ok (.ofNat b.size) := by
      rw [argumentLength_of_bytes names, if_pos short]
    have said : (Int32.ofNat b.size).toInt = b.size := toInt_ofNat_of_le short
    obtain ⟨after, stored, told, still⟩ := keeps _ answered
    obtain ⟨context_eq, size_eq, exported_eq⟩ := kept_of_store stored
    have still' := still b names place
    rw [← context_eq] at names
    rw [← exported_eq] at exported
    rw [← size_eq] at place
    refine ⟨.onward, { after with
      memory := after.memory.patched pointer.toInt.toNat b
      context := after.context.setResult b }, ?_, rfl, rfl⟩
    rw [run_body_of_ok answered stored told, if_neg (by omega),
      run_carry_of_place names short exported forward place still']

/-- Without a value that has a place, the routine breaks the calling convention. -/
theorem run_of_not_carries (same : m.context.arguments = arguments.map (·.toArgument))
    (keeps : Keeps m target length index pointer) (forward : 0 ≤ pointer.toInt)
    (lost : ¬ ∃ v, Argument arguments index v ∧ Carries m.memory pointer v) :
    ∃ violation last,
      (body target length index pointer).run c m = (.failed (.violation violation), last) := by
  by_cases named : ∃ v, Argument arguments index v
  · obtain ⟨v, named⟩ := named
    have names := named.names same
    have crowded : ¬ Carries m.memory pointer v := fun carries => lost ⟨v, named, carries⟩
    cases bytes : v.toArgument with
    | none =>
      -- Only the null value has no bytes, and it needs no place.
      cases v <;> simp [HostValue.toArgument, Carries] at bytes crowded
    | some b =>
      rw [bytes] at names
      by_cases short : b.size ≤ wordMax
      · have answered : argumentLength m.context index = .ok (.ofNat b.size) := by
          rw [argumentLength_of_bytes names, if_pos short]
        have said : (Int32.ofNat b.size).toInt = b.size := toInt_ofNat_of_le short
        obtain ⟨after, stored, told, -⟩ := keeps _ answered
        obtain ⟨context_eq, size_eq, -⟩ := kept_of_store stored
        have full : ¬ pointer.toInt + b.size ≤ after.memory.size := by
          rw [size_eq]
          exact fun place => crowded (.inr ⟨b, bytes, short, place⟩)
        rw [← context_eq] at names
        obtain ⟨violation, run⟩ := run_carry_of_no_place c length names forward full
        refine ⟨violation, after, ?_⟩
        rw [run_body_of_ok answered stored told, if_neg (by omega), run]
      · have refused : argumentLength m.context index =
            .error (.longArgument index.toInt.toNat) := by
          rw [argumentLength_of_bytes names, if_neg short]
        exact ⟨_, m, run_body_of_error refused⟩
  · have unnamed : ∀ a, ¬ Names m.context index a := by
      rintro a ⟨forward, found⟩
      rw [same, List.getElem?_map] at found
      obtain ⟨v, found, -⟩ := Option.map_eq_some_iff.mp found
      exact named ⟨v, forward, found⟩
    obtain ⟨violation, refused⟩ := argumentLength_of_not_names unnamed
    exact ⟨violation, m, run_body_of_error refused⟩

/-- A value in the place of another one with the same bytes makes no difference to a call. -/
theorem context_set (named : Argument arguments index v) {r : HostValue}
    (same : r.toArgument = v.toArgument) (log : Log) :
    ModuleRuntime.context (arguments.set index.toInt.toNat r) log =
      ModuleRuntime.context arguments log := by
  have bytes : (arguments.set index.toInt.toNat r).map (·.toArgument) =
      arguments.map (·.toArgument) := by
    have found := named.2
    generalize index.toInt.toNat = k at found
    obtain ⟨inside, -⟩ := List.getElem?_eq_some_iff.mp found
    ext1 n
    rw [List.getElem?_map, List.getElem?_map]
    by_cases here : k = n
    · subst here
      rw [List.getElem?_set_self inside, found, Option.map_some, Option.map_some, same]
    · rw [List.getElem?_set_ne here]
  rw [ModuleRuntime.context, ModuleRuntime.context, bytes]

theorem enter_of_fueled (fueled : c.metered = true → 1 < m.fuel) (b : Body) :
    b.enter c m = b.run c { m with fuel := m.fuel - 1 } := by
  unfold Body.enter
  dsimp only
  rw [if_neg]
  rintro ⟨metered, spent⟩
  have left := fueled metered
  omega

/-- **Values cross the boundary without loss.** A routine that gives back an argument, in an
instance that exports its memory and has set no result before: it succeeds exactly if there is such
an argument and the memory has a place for it, and breaks the calling convention otherwise. What
comes back is the argument as bytes tell it, and it comes back again as it is. -/
theorem execute_gives_back (p : Program) (c : Conditions) (budget : Nat) (name : String)
    (arguments : List HostValue) (log : Log) (target : Target) (length : Operand)
    (index pointer : Int32) (m : Machine)
    (reached : p.Reaches c (c.initialFuel budget) (ModuleRuntime.context arguments log) m)
    (callable : p.callable? name = some (body target length index pointer))
    (keeps : Keeps m target length index pointer) (exported : m.memory.exported = true)
    (unset : m.context.result = none) (fueled : c.metered = true → 1 < m.fuel)
    (forward : 0 ≤ pointer.toInt) :
    let answer (arguments : List HostValue) :=
      (p.execute c budget name (ModuleRuntime.context arguments log)).1
    -- Success and violation.
    ((∃ r, answer arguments = .ok (.success r)) ↔
      ∃ v, Argument arguments index v ∧ Carries m.memory pointer v) ∧
    ((¬ ∃ v, Argument arguments index v ∧ Carries m.memory pointer v) →
      ∃ violation : Violation, answer arguments =
        .ok (.recoverable { kind := .abiViolation, message := violation.reason })) ∧
    -- What comes back, and what comes back of that.
    (∀ v, Argument arguments index v → Carries m.memory pointer v →
      let r := HostValue.ofResult v.toArgument
      answer arguments = .ok (.success r) ∧ v.Survives r ∧
        answer (arguments.set index.toInt.toNat r) = .ok (.success r)) ∧
    ∀ x, (HostValue.ofResult x).toArgument = x := by
  intro answer
  have same : m.context.arguments = arguments.map (·.toArgument) := reached.arguments_eq
  -- Entering the routine takes fuel and nothing else.
  have entered := enter_of_fueled fueled (body target length index pointer)
  have keeps' := keeps.withFuel (m.fuel - 1)
  have succeeded {v : HostValue} (named : Argument arguments index v)
      (carries : Carries m.memory pointer v) :
      answer arguments = .ok (.success (.ofResult v.toArgument)) := by
    obtain ⟨flow, last, run, ends, result⟩ :=
      run_of_carries (c := c) (m := { m with fuel := m.fuel - 1 }) named same keeps' exported
        forward unset carries
    simp only [answer]
    rw [Program.execute_of_returned reached callable (entered.trans run) ends, result]
  have refused (lost : ¬ ∃ v, Argument arguments index v ∧ Carries m.memory pointer v) :
      ∃ violation : Violation, answer arguments =
        .ok (.recoverable { kind := .abiViolation, message := violation.reason }) := by
    obtain ⟨violation, last, run⟩ := run_of_not_carries (c := c)
      (m := { m with fuel := m.fuel - 1 }) same keeps' forward lost
    refine ⟨violation, ?_⟩
    simp only [answer]
    rw [Program.execute_of_failed reached callable (entered.trans run)]
    rfl
  refine ⟨⟨fun ⟨r, success⟩ => ?_, ?_⟩, refused, fun v named carries => ?_,
    HostValue.toArgument_ofResult⟩
  · by_cases lost : ∃ v, Argument arguments index v ∧ Carries m.memory pointer v
    · exact lost
    · obtain ⟨violation, broken⟩ := refused lost
      rw [success] at broken
      cases broken
  · rintro ⟨v, named, carries⟩
    exact ⟨_, succeeded named carries⟩
  · have again : answer (arguments.set index.toInt.toNat (.ofResult v.toArgument)) =
        answer arguments := by
      simp only [answer, context_set named (HostValue.toArgument_ofResult v.toArgument)]
    exact ⟨succeeded named carries, v.survives, again.trans (succeeded named carries)⟩

/-- A byte that is no text comes back from the very end of a memory, whether its length is kept at
the beginning or known before. -/
theorem execute_gives_back_last_byte :
    let v : HostValue := .bytes ⟨#[0xff]⟩
    let p (target : Target) (length : Operand) : Program := {
      memory := some { minimum := 1, exportName := some memoryName }
      routines := [{ name := "echo", body := body target length 0 65535 }] }
    let c : Conditions :=
      { pageLimit := 1, metered := true, timeLimit := none, capabilities := .none }
    let answer (target : Target) (length : Operand) :=
      ((p target length).execute c 2 "echo" (ModuleRuntime.context [v] {})).1
    (p none (.constant 1)).freshMemory.size = 65536 ∧
      answer (some 0) (.word 0) = .ok (.success v) ∧
      answer none (.constant 1) = .ok (.success v) := by
  intro v p c answer
  let m : Machine :=
    { memory := (p none (.constant 1)).freshMemory, fuel := 2,
      context := ModuleRuntime.context [v] {} }
  have invalid : Text.ofBytes? ⟨#[0xff]⟩ = none := by decide
  have survives : HostValue.ofResult v.toArgument = v := by
    simp only [v, HostValue.toArgument, HostValue.ofResult, invalid]
  have carries : Carries m.memory 65535 v := .inr ⟨_, rfl, by decide, by decide⟩
  have success {target : Target} {length : Operand} (keeps : Keeps m target length 0 65535) :
      answer target length = .ok (.success v) := by
    have reached : (p target length).Reaches c (c.initialFuel 2) m.context m := ⟨.onward, rfl, rfl⟩
    have back := execute_gives_back (p target length) c 2 "echo" [v] {} target length 0 65535 m
      reached rfl keeps rfl rfl (fun _ => by decide) (by decide)
    have given : answer target length = .ok (.success (.ofResult v.toArgument)) :=
      (back.2.2.1 v ⟨by decide, rfl⟩ carries).1
    rwa [survives] at given
  refine ⟨by decide, success ?_, success ?_⟩
  · exact keeps_word (by decide) fun _ _ _ => .inl (by decide)
  · exact keeps_constant rfl

end Echo

end GuestRoutines
