import GuestRoutines.Call.Convention

/-!
# Ranges and arguments

A range of the guest's memory is read or written exactly if the guest has exported the memory, its
words are not negative, and the range lies within the memory. An argument is a range that the host
writes.

## Main definitions

* `Memory.patched` — a memory with bytes in the place of a range
* `Convention.Names` — the argument that a word says

## Main results

* `Memory.bytesAt_patched` — what has been written is read back
* `Memory.load?_of_store?`, `Memory.load?_patched` — a word that has been stored is loaded again,
  and a range apart from it may be written in between
* `Convention.readRange_eq_ok_iff`, `Convention.writeRange_eq_ok_iff` — when a range is read or
  written, and what comes of it
* `Convention.argumentLength_of_null`, `Convention.argumentLength_of_bytes`,
  `Convention.readArgument_of_bytes` — the answers about an argument that there is
-/

namespace GuestRoutines

/-! ### Ranges of memory -/

namespace Memory

variable {m after : Memory} {start length : Nat} {b : ByteArray}

/-- The memory with bytes in the place of a range. -/
def patched (m : Memory) (start : Nat) (b : ByteArray) : Memory :=
  { m with contents := patch m.contents start b }

@[simp] theorem size_patched (m : Memory) (start : Nat) (b : ByteArray) :
    (m.patched start b).size = m.size := rfl

theorem read?_eq_some_iff :
    m.read? start length = some b ↔ start + length ≤ m.size ∧ b = m.bytesAt start length := by
  unfold read?
  by_cases inside : start + length ≤ m.size
  · rw [if_pos inside]
    simp [inside, eq_comm]
  · rw [if_neg inside]
    simp [inside]

theorem write?_eq_some_iff :
    m.write? start b = some after ↔ start + b.size ≤ m.size ∧ after = m.patched start b := by
  unfold write?
  by_cases inside : start + b.size ≤ m.size
  · rw [if_pos inside]
    simp [inside, patched, eq_comm]
  · rw [if_neg inside]
    simp [inside]

/-- A byte of a range that has been replaced. -/
theorem patch_of_lt (contents : Nat → UInt8) (start : Nat) {i : Nat} (inside : i < b.data.size) :
    patch contents start b (start + i) = b.data[i] := by
  have reached : start ≤ start + i := Nat.le_add_right start i
  have same : start + i - start = i := Nat.add_sub_cancel_left start i
  rw [patch, if_pos reached, same, Array.getElem?_eq_getElem inside, Option.getD_some]

/-- What has been written is read back. -/
theorem bytesAt_patched (m : Memory) (start : Nat) (b : ByteArray) :
    (m.patched start b).bytesAt start b.size = b := by
  apply ByteArray.ext
  apply Array.ext
  · exact Array.size_ofFn
  · intro i _ inside
    have byte : patch m.contents start b (start + i) = b.data[i] :=
      patch_of_lt m.contents start inside
    simpa [bytesAt, patched] using byte

end Memory

/-! ### Words of memory -/

namespace Memory

variable {m after : Memory} {start : Nat} {b : ByteArray} {address : UInt32}

/-- A byte outside of a range that has been replaced. -/
theorem patch_of_apart (contents : Nat → UInt8) {k : Nat}
    (apart : k < start ∨ start + b.size ≤ k) : patch contents start b k = contents k := by
  rw [patch]
  by_cases behind : start ≤ k
  · have past : b.data.size ≤ k - start := by
      have size_eq : b.size = b.data.size := rfl
      omega
    rw [if_pos behind, Array.getElem?_eq_none past, Option.getD_none]
  · rw [if_neg behind]

/-- A bit of the byte at a position of a number, in its place. -/
theorem testBit_byte (n k i : Nat) :
    ((n >>> k % 256) <<< k % 4294967296).testBit i =
      (decide (i < 32 ∧ k ≤ i ∧ i < k + 8) && n.testBit i) := by
  have low (x : Nat) : (x % 4294967296).testBit i = (decide (i < 32) && x.testBit i) :=
    Nat.testBit_mod_two_pow x 32 i
  have byte (j : Nat) : (n >>> k % 256).testBit j = (decide (j < 8) && n.testBit (k + j)) := by
    rw [← Nat.testBit_shiftRight]
    exact Nat.testBit_mod_two_pow (n >>> k) 8 j
  rw [low, Nat.testBit_shiftLeft, byte]
  by_cases behind : k ≤ i
  · have place : k + (i - k) = i := by omega
    have near : i - k < 8 ↔ i < k + 8 := by omega
    simp [place, behind, near, Bool.and_assoc]
  · simp [behind]

/-- A word is put together again from its bytes. -/
theorem word_of_bytes (w : UInt32) :
    w.toUInt8.toUInt32 ||| (w >>> 8).toUInt8.toUInt32 <<< 8 |||
      (w >>> 16).toUInt8.toUInt32 <<< 16 ||| (w >>> 24).toUInt8.toUInt32 <<< 24 = w := by
  apply UInt32.toNat_inj.mp
  apply Nat.eq_of_testBit_eq
  intro i
  have first : (w.toNat % 256).testBit i = (decide (i < 8) && w.toNat.testBit i) :=
    Nat.testBit_mod_two_pow w.toNat 8 i
  have bits : (w.toUInt8.toUInt32 ||| (w >>> 8).toUInt8.toUInt32 <<< 8 |||
      (w >>> 16).toUInt8.toUInt32 <<< 16 ||| (w >>> 24).toUInt8.toUInt32 <<< 24).toNat.testBit i =
      ((decide (i < 8) || decide (i < 32 ∧ 8 ≤ i ∧ i < 16) || decide (i < 32 ∧ 16 ≤ i ∧ i < 24) ||
        decide (i < 32 ∧ 24 ≤ i ∧ i < 32)) && w.toNat.testBit i) := by
    simp only [Bool.and_or_distrib_right]
    rw [← first, ← testBit_byte w.toNat 8, ← testBit_byte w.toNat 16, ← testBit_byte w.toNat 24]
    simp only [← Nat.testBit_or]
    rfl
  rw [bits]
  by_cases inside : i < 32
  · -- One of the four bytes has the bit.
    have covered : (decide (i < 8) || decide (i < 32 ∧ 8 ≤ i ∧ i < 16) ||
        decide (i < 32 ∧ 16 ≤ i ∧ i < 24) || decide (i < 32 ∧ 24 ≤ i ∧ i < 32)) = true := by
      simp only [Bool.or_eq_true, decide_eq_true_eq]
      omega
    rw [covered, Bool.true_and]
  · have clear : w.toNat.testBit i = false := by
      refine Nat.testBit_lt_two_pow (Nat.lt_of_lt_of_le w.toNat_lt ?_)
      exact Nat.pow_le_pow_right (by decide) (Nat.not_lt.mp inside)
    rw [clear, Bool.and_false]

theorem size_wordBytes (w : UInt32) : (wordBytes w).size = 4 := rfl

theorem store?_eq_some_iff {n : Int32} :
    m.store? address n = some after ↔
      address.toNat + 4 ≤ m.size ∧ after = m.patched address.toNat (wordBytes n.toUInt32) := by
  rw [store?, write?_eq_some_iff, size_wordBytes]

/-- A word that has been stored is loaded again. -/
theorem load?_of_store? {n : Int32} (stored : m.store? address n = some after) :
    after.load? address = some n := by
  obtain ⟨inside, rfl⟩ := store?_eq_some_iff.mp stored
  have byte (i : Nat) (lt : i < 4) :
      (m.patched address.toNat (wordBytes n.toUInt32)).contents (address.toNat + i) =
        (wordBytes n.toUInt32).data[i] :=
    patch_of_lt m.contents address.toNat lt
  have whole : address.toNat + 4 ≤ (m.patched address.toNat (wordBytes n.toUInt32)).size := inside
  unfold load?
  dsimp only
  rw [if_pos whole, byte 0 (by decide), byte 1 (by decide), byte 2 (by decide), byte 3 (by decide)]
  exact congrArg (fun w : UInt32 => some w.toInt32) (word_of_bytes n.toUInt32)

/-- A word apart from a range that is replaced stays. -/
theorem load?_patched (apart : address.toNat + 4 ≤ start ∨ start + b.size ≤ address.toNat) :
    (m.patched start b).load? address = m.load? address := by
  have byte (i : Nat) (lt : i < 4) :
      (m.patched start b).contents (address.toNat + i) = m.contents (address.toNat + i) :=
    patch_of_apart m.contents (by omega)
  unfold load?
  simp only [byte 0 (by decide), byte 1 (by decide), byte 2 (by decide), byte 3 (by decide),
    size_patched]

end Memory

/-! ### The calling convention -/

namespace Convention

variable {m after : Memory} {pointer length i : Int32} {b : ByteArray}

theorem readRange_eq_ok_iff :
    readRange m pointer length = .ok b ↔
      (0 ≤ pointer.toInt ∧ 0 ≤ length.toInt) ∧ m.exported = true ∧
        pointer.toInt.toNat + length.toInt.toNat ≤ m.size ∧
        b = m.bytesAt pointer.toInt.toNat length.toInt.toNat := by
  unfold readRange
  dsimp only
  by_cases negative : pointer.toInt < 0 ∨ length.toInt < 0
  · rw [if_pos negative]
    constructor
    · exact nofun
    · rintro ⟨forward, -⟩
      omega
  · have forward : 0 ≤ pointer.toInt ∧ 0 ≤ length.toInt := by omega
    rw [if_neg negative]
    cases exported : m.exported with
    | false => simp
    | true =>
      rw [← Memory.read?_eq_some_iff]
      cases m.read? pointer.toInt.toNat length.toInt.toNat <;> simp [forward]

theorem writeRange_eq_ok_iff :
    writeRange m pointer b = .ok after ↔
      0 ≤ pointer.toInt ∧ m.exported = true ∧ pointer.toInt.toNat + b.size ≤ m.size ∧
        after = m.patched pointer.toInt.toNat b := by
  unfold writeRange
  dsimp only
  by_cases negative : pointer.toInt < 0
  · rw [if_pos negative]
    constructor
    · exact nofun
    · rintro ⟨forward, -⟩
      omega
  · have forward : 0 ≤ pointer.toInt := by omega
    rw [if_neg negative]
    cases exported : m.exported with
    | false => simp
    | true =>
      rw [← Memory.write?_eq_some_iff]
      cases m.write? pointer.toInt.toNat b <;> simp [forward]

/-! ### Arguments -/

/-- The argument that a word says: the word is an index of the arguments. -/
def Names (c : CallContext) (i : Int32) (a : Option ByteArray) : Prop :=
  0 ≤ i.toInt ∧ c.arguments[i.toInt.toNat]? = some a

variable {c : CallContext} {a : Option ByteArray}

theorem index_of_nonneg (forward : 0 ≤ i.toInt) : index i = .ok i.toInt.toNat := by
  rw [index, if_neg (by omega)]

theorem argument_of_names (names : Names c i a) : c.argument i.toInt.toNat = .ok a := by
  rw [CallContext.argument, names.2]

/-- The length of the null value is negative. -/
theorem argumentLength_of_null (names : Names c i none) : argumentLength c i = .ok (-1) := by
  simp only [argumentLength, index_of_nonneg names.1, argument_of_names names, bind, Except.bind]
  rfl

theorem argumentLength_of_bytes (names : Names c i (some b)) :
    argumentLength c i =
      if b.size ≤ wordMax then .ok (.ofNat b.size) else .error (.longArgument i.toInt.toNat) := by
  simp only [argumentLength, index_of_nonneg names.1, argument_of_names names, bind, Except.bind]
  rfl

/-- A word that names no argument is a violation. -/
theorem argumentLength_of_not_names (unnamed : ∀ a, ¬ Names c i a) :
    ∃ v, argumentLength c i = .error v := by
  by_cases forward : 0 ≤ i.toInt
  · cases found : c.arguments[i.toInt.toNat]? with
    | none =>
      simp only [argumentLength, index_of_nonneg forward, CallContext.argument, found, bind,
        Except.bind]
      exact ⟨_, rfl⟩
    | some a => exact absurd ⟨forward, found⟩ (unnamed a)
  · have negative : i.toInt < 0 := by omega
    simp only [argumentLength, index, if_pos negative, bind, Except.bind]
    exact ⟨_, rfl⟩

/-- The bytes of an argument are written like any others. -/
theorem readArgument_of_bytes (names : Names c i (some b)) (m : Memory) (pointer : Int32) :
    readArgument c m i pointer = writeRange m pointer b := by
  simp only [readArgument, index_of_nonneg names.1, argument_of_names names, bind, Except.bind]

/-- A length that fits into a word is said exactly. -/
theorem toInt_ofNat_of_le {n : Nat} (fits : n ≤ wordMax) : (Int32.ofNat n).toInt = n := by
  apply Int32.toInt_ofNat_of_lt
  unfold wordMax at fits
  omega

end Convention

end GuestRoutines
