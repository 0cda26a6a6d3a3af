import GuestRoutines.Proofs.Call.Instructions
import GuestRoutines.Proofs.Call.Convention

/-!
# Access to the guest's memory

A host function is handed words and must not trust them. It reads or writes a range exactly if the
range lies within the memory, in the arithmetic of whole numbers and not of words. Any other words
are a violation, which is found before anything has been changed.

## Main definitions

* `Memory.Covers` — a range lies within a memory that the host can find
* `Memory.SameOutside` — two memories that differ at most in a range
* `Convention.RangeRefused`, `Convention.ArgumentRefused` — the check that fails first
* `Machine.reading` — what a call does with a range, or the violation

## Main results

* `Convention.readRange_of_covers`, `Convention.readRange_refused` — reading a range
* `Convention.readArgument_of_covers`, `Convention.readArgument_refused` — writing an argument
* `Instruction.access_exact` — the calls that read or write memory
-/

namespace GuestRoutines

/-! ### Ranges within a memory -/

namespace Memory

variable {m : Memory} {start length : Int}

/-- The host can find the memory, and a range lies within it. -/
structure Covers (m : Memory) (start length : Int) : Prop where
  exported : m.exported = true
  forward : 0 ≤ start
  counted : 0 ≤ length
  inside : start + length ≤ m.size

instance : Decidable (m.Covers start length) :=
  decidable_of_iff (m.exported = true ∧ 0 ≤ start ∧ 0 ≤ length ∧ start + length ≤ m.size)
    ⟨fun ⟨e, f, c, i⟩ => ⟨e, f, c, i⟩, fun h => ⟨h.exported, h.forward, h.counted, h.inside⟩⟩

/-- An empty range may stand at the very end of a memory, and not behind it. -/
theorem covers_empty_iff (exported : m.exported = true) :
    m.Covers start 0 ↔ 0 ≤ start ∧ start ≤ m.size := by
  constructor
  · intro h
    have inside := h.inside
    exact ⟨h.forward, by omega⟩
  · rintro ⟨forward, inside⟩
    exact ⟨exported, forward, Int.le_refl 0, by omega⟩

/-- If neither the memory nor a sign is at fault, a range that is not covered ends too late. -/
theorem past_of_not_covers (uncovered : ¬ m.Covers start length) (exported : m.exported = true)
    (forward : 0 ≤ start) (counted : 0 ≤ length) : m.size < start + length := by
  apply Int.not_le.mp
  intro inside
  exact uncovered ⟨exported, forward, counted, inside⟩

/-- Two memories differ at most in a range. -/
structure SameOutside (m after : Memory) (start length : Nat) : Prop where
  pages : after.pages = m.pages
  maximum : after.maximum = m.maximum
  exported : after.exported = m.exported
  contents : ∀ k, k < start ∨ start + length ≤ k → after.contents k = m.contents k

theorem sameOutside_patched (m : Memory) (start : Nat) (b : ByteArray) :
    m.SameOutside (m.patched start b) start b.size where
  pages := rfl
  maximum := rfl
  exported := rfl
  contents _ apart := patch_of_apart m.contents apart

end Memory

namespace Convention

/-! ### Reading a range -/

section Reading

variable {m : Memory} {pointer length : Int32}

/-- The violation that is reported of a range: the signs of the words come first, then the memory,
and its size last. -/
inductive RangeRefused (m : Memory) (pointer length : Int) : Violation → Prop where
  | negative (backward : pointer < 0 ∨ length < 0) :
      RangeRefused m pointer length (.negativeRange pointer length)
  | hidden (forward : 0 ≤ pointer ∧ 0 ≤ length) (unexported : m.exported = false) :
      RangeRefused m pointer length .noMemory
  | outside (forward : 0 ≤ pointer ∧ 0 ≤ length) (exported : m.exported = true)
      (past : m.size < pointer + length) :
      RangeRefused m pointer length (.readOutside length.toNat pointer.toNat)

theorem readRange_of_covers (covers : m.Covers pointer.toInt length.toInt) :
    readRange m pointer length =
      .ok (m.bytesAt pointer.toInt.toNat length.toInt.toNat) := by
  have forward := covers.forward
  have counted := covers.counted
  have inside := covers.inside
  apply readRange_eq_ok_iff.mpr
  exact ⟨⟨forward, counted⟩, covers.exported, by omega, rfl⟩

theorem readRange_refused (uncovered : ¬ m.Covers pointer.toInt length.toInt) :
    ∃ v, RangeRefused m pointer.toInt length.toInt v ∧ readRange m pointer length = .error v := by
  unfold readRange
  -- The checks in their order: the first one that fails gives the violation.
  by_cases backward : pointer.toInt < 0 ∨ length.toInt < 0
  · exact ⟨_, .negative backward, if_pos backward⟩
  have forward : 0 ≤ pointer.toInt ∧ 0 ≤ length.toInt := by omega
  cases exported : m.exported with
  | false => exact ⟨_, .hidden forward exported, if_neg backward⟩
  | true =>
    have past := Memory.past_of_not_covers uncovered exported forward.1 forward.2
    have unread : m.read? pointer.toInt.toNat length.toInt.toNat = none := by
      apply if_neg
      omega
    refine ⟨_, .outside forward exported past, ?_⟩
    dsimp only
    rw [if_neg backward]
    simp only [unread, Bool.not_true, Bool.false_eq_true, if_false]

end Reading

/-! ### Writing an argument -/

section Writing

variable {c : CallContext} {m : Memory} {index pointer : Int32} {b : ByteArray}

/-- The violation that is reported of an argument: the argument is looked up before any check of
the place that it is written to. -/
inductive ArgumentRefused (c : CallContext) (m : Memory) (index pointer : Int32) :
    Violation → Prop where
  | negativeIndex (backward : index.toInt < 0) :
      ArgumentRefused c m index pointer (.negativeIndex index.toInt)
  | noArgument (missing : c.arguments.length ≤ index.toInt) :
      ArgumentRefused c m index pointer (.noArgument index.toInt.toNat c.arguments.length)
  | nullArgument (names : Names c index none) :
      ArgumentRefused c m index pointer (.nullArgument index.toInt.toNat)
  | negativePointer (b : ByteArray) (names : Names c index (some b))
      (backward : pointer.toInt < 0) :
      ArgumentRefused c m index pointer (.negativePointer pointer.toInt)
  | hidden (b : ByteArray) (names : Names c index (some b)) (forward : 0 ≤ pointer.toInt)
      (unexported : m.exported = false) : ArgumentRefused c m index pointer .noMemory
  | outside (b : ByteArray) (names : Names c index (some b)) (forward : 0 ≤ pointer.toInt)
      (exported : m.exported = true) (past : m.size < pointer.toInt + b.size) :
      ArgumentRefused c m index pointer (.writeOutside b.size pointer.toInt.toNat)

/-- A word names at most one argument. -/
theorem Names.unique {b b' : ByteArray} (names : Names c index (some b))
    (names' : Names c index (some b')) : b = b' := by
  have same := names.2.symm.trans names'.2
  exact Option.some.inj (Option.some.inj same)

theorem readArgument_of_covers (names : Names c index (some b))
    (covers : m.Covers pointer.toInt b.size) :
    readArgument c m index pointer = .ok (m.patched pointer.toInt.toNat b) := by
  have forward := covers.forward
  have inside := covers.inside
  rw [readArgument_of_bytes names]
  apply writeRange_eq_ok_iff.mpr
  exact ⟨forward, covers.exported, by omega, rfl⟩

/-- Bytes that have no place are not written. -/
theorem writeRange_refused (names : Names c index (some b))
    (uncovered : ¬ m.Covers pointer.toInt b.size) :
    ∃ v, ArgumentRefused c m index pointer v ∧ writeRange m pointer b = .error v := by
  unfold writeRange
  by_cases backward : pointer.toInt < 0
  · exact ⟨_, .negativePointer b names backward, if_pos backward⟩
  have forward : 0 ≤ pointer.toInt := by omega
  cases exported : m.exported with
  | false => exact ⟨_, .hidden b names forward exported, if_neg backward⟩
  | true =>
    have past := Memory.past_of_not_covers uncovered exported forward (Int.natCast_nonneg b.size)
    have unwritten : m.write? pointer.toInt.toNat b = none := by
      apply if_neg
      omega
    refine ⟨_, .outside b names forward exported past, ?_⟩
    dsimp only
    rw [if_neg backward]
    simp only [unwritten, Bool.not_true, Bool.false_eq_true, if_false]

theorem readArgument_refused
    (uncovered : ∀ b, Names c index (some b) → ¬ m.Covers pointer.toInt b.size) :
    ∃ v, ArgumentRefused c m index pointer v ∧ readArgument c m index pointer = .error v := by
  by_cases backward : index.toInt < 0
  · have negative : Convention.index index = .error (.negativeIndex index.toInt) := if_pos backward
    refine ⟨_, .negativeIndex backward, ?_⟩
    rw [readArgument, negative]
    rfl
  have forward : 0 ≤ index.toInt := by omega
  have told := index_of_nonneg forward
  -- The index is good, and the argument at it may be missing, null, or without a place.
  cases found : c.arguments[index.toInt.toNat]? with
  | none =>
    have missing : c.arguments.length ≤ index.toInt := by
      have past := List.getElem?_eq_none_iff.mp found
      omega
    refine ⟨_, .noArgument missing, ?_⟩
    simp only [readArgument, told, CallContext.argument, found, bind, Except.bind]
  | some a =>
    cases a with
    | none =>
      refine ⟨_, .nullArgument ⟨forward, found⟩, ?_⟩
      simp only [readArgument, told, CallContext.argument, found, bind, Except.bind]
    | some b =>
      have names : Names c index (some b) := ⟨forward, found⟩
      rw [readArgument_of_bytes names]
      exact writeRange_refused names (uncovered b names)

end Writing

end Convention

/-! ### Calls -/

namespace Machine

variable {m : Machine} {p n : Int32}

/-- What a call does with the range that it reads, or the violation that ends it. -/
def reading (m : Machine) (p n : Int32) (use : ByteArray → Flow × Machine) : Flow × Machine :=
  match Convention.readRange m.memory p n with
  | .ok b => use b
  | .error v => (.failed (.violation v), m)

theorem reading_of_covers (covers : m.memory.Covers p.toInt n.toInt)
    (use : ByteArray → Flow × Machine) :
    m.reading p n use = use (m.memory.bytesAt p.toInt.toNat n.toInt.toNat) := by
  rw [reading, Convention.readRange_of_covers covers]

/-- The violation does not depend on what the range was to be used for. -/
theorem reading_refused (uncovered : ¬ m.memory.Covers p.toInt n.toInt) :
    ∃ v, Convention.RangeRefused m.memory p.toInt n.toInt v ∧
      ∀ use, m.reading p n use = (.failed (.violation v), m) := by
  obtain ⟨v, refused, unread⟩ := Convention.readRange_refused uncovered
  refine ⟨v, refused, fun use => ?_⟩
  rw [reading, unread]

/-- A log writes nothing to the guest's memory. -/
theorem memory_log (m : Machine) (level : ManagedLevel) (message : String) :
    (m.log level message).2.memory = m.memory := by
  unfold Machine.log
  split <;> rfl

end Machine

namespace Instruction

variable {m : Machine} {code index pointer length : Operand} {l i p n : Int32}

theorem run_setResult_eq (c : Conditions) (start : m.value pointer = .ok p)
    (told : m.value length = .ok n) :
    (setResult pointer length).run c m =
      m.reading p n fun b => (.onward, { m with context := m.context.setResult b }) := by
  simp only [run, start, told, bind, Except.bind, Machine.reading, Convention.setResult]
  cases Convention.readRange m.memory p n <;> rfl

theorem run_raise_eq (c : Conditions) (start : m.value pointer = .ok p)
    (told : m.value length = .ok n) :
    (raise pointer length).run c m =
      m.reading p n fun b => (.failed (.raised (Text.ofBytesLossy b)), m) := by
  simp only [run, start, told, bind, Except.bind, Machine.reading, Convention.raised]
  cases Convention.readRange m.memory p n <;> rfl

theorem run_log_eq (c : Conditions) (level : m.value code = .ok l)
    (start : m.value pointer = .ok p) (told : m.value length = .ok n) :
    (log code pointer length).run c m =
      m.reading p n fun b =>
        match Text.ofBytes? b with
        | some s => m.log (.ofCode l.toInt) s
        | none => (.failed (.violation .invalidText), m) := by
  simp only [run, level, start, told, bind, Except.bind, Machine.reading, Convention.logged]
  cases Convention.readRange m.memory p n with
  | error v => rfl
  | ok b => cases decoded : Text.ofBytes? b <;> simp only [decoded] <;> rfl

theorem run_argRead_of_covers (c : Conditions) (named : m.value index = .ok i)
    (start : m.value pointer = .ok p) {b : ByteArray}
    (names : Convention.Names m.context i (some b))
    (covers : m.memory.Covers p.toInt b.size) :
    (argRead index pointer).run c m =
      (.onward, { m with memory := m.memory.patched p.toInt.toNat b }) := by
  have written := Convention.readArgument_of_covers names covers
  simp only [run, named, start, written, bind, Except.bind]
  rfl

theorem run_argRead_refused (c : Conditions) (named : m.value index = .ok i)
    (start : m.value pointer = .ok p)
    (uncovered : ∀ b, Convention.Names m.context i (some b) →
      ¬ m.memory.Covers p.toInt b.size) :
    ∃ v, Convention.ArgumentRefused m.context m.memory i p v ∧
      (argRead index pointer).run c m = (.failed (.violation v), m) := by
  obtain ⟨v, refused, unwritten⟩ := Convention.readArgument_refused uncovered
  refine ⟨v, refused, ?_⟩
  simp only [run, named, start, unwritten, bind, Except.bind]
  rfl

/-- A result is set exactly if its range lies within the memory. -/
theorem setResult_onward_iff (c : Conditions) (start : m.value pointer = .ok p)
    (told : m.value length = .ok n) :
    ((setResult pointer length).run c m).1 = .onward ↔ m.memory.Covers p.toInt n.toInt := by
  rw [run_setResult_eq c start told]
  by_cases covers : m.memory.Covers p.toInt n.toInt
  · simp only [Machine.reading_of_covers covers, covers]
  · obtain ⟨v, -, unread⟩ := Machine.reading_refused covers
    rw [unread]
    constructor
    · exact nofun
    · exact fun covers' => absurd covers' covers

/-- An argument is written exactly if it has bytes and its place lies within the memory. -/
theorem argRead_onward_iff (c : Conditions) (named : m.value index = .ok i)
    (start : m.value pointer = .ok p) :
    ((argRead index pointer).run c m).1 = .onward ↔
      ∃ b, Convention.Names m.context i (some b) ∧ m.memory.Covers p.toInt b.size := by
  by_cases written : ∃ b, Convention.Names m.context i (some b) ∧ m.memory.Covers p.toInt b.size
  · obtain ⟨b, names, covers⟩ := written
    rw [run_argRead_of_covers c named start names covers]
    exact ⟨fun _ => ⟨b, names, covers⟩, fun _ => rfl⟩
  · obtain ⟨v, -, failed⟩ := run_argRead_refused c named start
      fun b names covers => written ⟨b, names, covers⟩
    rw [failed]
    constructor
    · exact nofun
    · exact fun written' => absurd written' written

/-- **Access to the guest's memory is checked exactly, and a call that fails changes nothing.** The
words are arbitrary, and so are the memory, the arguments and the rest of the machine. -/
theorem access_exact (c : Conditions) (level : m.value code = .ok l)
    (named : m.value index = .ok i) (start : m.value pointer = .ok p)
    (told : m.value length = .ok n) :
    -- A range that lies within the memory is read, and the memory stays.
    (m.memory.Covers p.toInt n.toInt →
      ∃ b, b = m.memory.bytesAt p.toInt.toNat n.toInt.toNat ∧
        (setResult pointer length).run c m =
          (.onward, { m with context := m.context.setResult b }) ∧
        (raise pointer length).run c m = (.failed (.raised (Text.ofBytesLossy b)), m) ∧
        (∀ s, Text.ofBytes? b = some s →
          (log code pointer length).run c m = m.log (.ofCode l.toInt) s ∧
            (m.log (.ofCode l.toInt) s).2.memory = m.memory) ∧
        (Text.ofBytes? b = none →
          (log code pointer length).run c m = (.failed (.violation .invalidText), m))) ∧
    -- Any other range is the same violation for every call.
    (¬ m.memory.Covers p.toInt n.toInt →
      ∃ v, Convention.RangeRefused m.memory p.toInt n.toInt v ∧
        (setResult pointer length).run c m = (.failed (.violation v), m) ∧
        (raise pointer length).run c m = (.failed (.violation v), m) ∧
        (log code pointer length).run c m = (.failed (.violation v), m)) ∧
    -- An argument is written if its place lies within the memory, and only there.
    (∀ b, Convention.Names m.context i (some b) → m.memory.Covers p.toInt b.size →
      ∃ memory, (argRead index pointer).run c m = (.onward, { m with memory }) ∧
        m.memory.SameOutside memory p.toInt.toNat b.size ∧
        memory.bytesAt p.toInt.toNat b.size = b) ∧
    ((∀ b, Convention.Names m.context i (some b) → ¬ m.memory.Covers p.toInt b.size) →
      ∃ v, Convention.ArgumentRefused m.context m.memory i p v ∧
        (argRead index pointer).run c m = (.failed (.violation v), m)) ∧
    -- What can be written can be read, and the other way round.
    (∀ b, Convention.Names m.context i (some b) → b.size = n.toInt →
      (((argRead index pointer).run c m).1 = .onward ↔
        ((setResult pointer length).run c m).1 = .onward)) ∧
    (m.memory.exported = true → n.toInt = 0 →
      (((setResult pointer length).run c m).1 = .onward ↔
        0 ≤ p.toInt ∧ p.toInt ≤ m.memory.size)) := by
  have setting := run_setResult_eq c start told
  refine ⟨fun covers => ?_, fun uncovered => ?_, ?_, ?_, ?_, ?_⟩
  · refine ⟨_, rfl, ?_, ?_, fun s decoded => ⟨?_, m.memory_log _ s⟩, fun invalid => ?_⟩
    · rw [setting, Machine.reading_of_covers covers]
    · rw [run_raise_eq c start told, Machine.reading_of_covers covers]
    · rw [run_log_eq c level start told, Machine.reading_of_covers covers, decoded]
    · rw [run_log_eq c level start told, Machine.reading_of_covers covers, invalid]
  · obtain ⟨v, refused, unread⟩ := Machine.reading_refused uncovered
    refine ⟨v, refused, ?_, ?_, ?_⟩
    · rw [setting, unread]
    · rw [run_raise_eq c start told, unread]
    · rw [run_log_eq c level start told, unread]
  · intro b names covers
    have written := run_argRead_of_covers c named start names covers
    exact ⟨_, written, m.memory.sameOutside_patched _ b, m.memory.bytesAt_patched _ b⟩
  · exact run_argRead_refused c named start
  · intro b names fits
    rw [setResult_onward_iff c start told, argRead_onward_iff c named start, ← fits]
    constructor
    · rintro ⟨b', names', covers⟩
      obtain rfl : b' = b := names'.unique names
      exact covers
    · exact fun covers => ⟨b, names, covers⟩
  · intro exported empty
    rw [setResult_onward_iff c start told, empty, Memory.covers_empty_iff exported]

/-- Two bytes have a place at the end of a page, but not one byte further on. -/
theorem access_exact_last_bytes :
    let argument : ByteArray := ⟨#[104, 105]⟩
    let m : Machine :=
      { memory := { pages := 1, exported := true }, fuel := 0,
        context := { callId := "call", arguments := [some argument], log := {} } }
    let c : Conditions :=
      { pageLimit := 1, metered := false, timeLimit := none, capabilities := .none }
    (∃ memory, (argRead (.constant 0) (.constant 65534)).run c m = (.onward, { m with memory }) ∧
      memory.bytesAt 65534 2 = argument) ∧
    ∃ v, (setResult (.constant 65535) (.constant 2)).run c m = (.failed (.violation v), m) := by
  intro argument m c
  have zero : m.value (.constant 0) = .ok 0 := rfl
  have two : m.value (.constant 2) = .ok 2 := rfl
  have fits := access_exact c zero zero (rfl : m.value (.constant 65534) = .ok 65534) two
  have crowded := access_exact c zero zero (rfl : m.value (.constant 65535) = .ok 65535) two
  obtain ⟨memory, written, -, same⟩ := fits.2.2.1 argument ⟨by decide, rfl⟩ (by decide)
  obtain ⟨v, -, refused, -⟩ := crowded.2.1 (by decide)
  exact ⟨⟨memory, written, same⟩, v, refused⟩

end Instruction

end GuestRoutines
