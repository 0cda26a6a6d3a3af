import GuestRoutines.Embedding.Modules
import Mathlib.Algebra.Order.Floor.Div

/-!
# Deadlines on the clock of the engine

The engine's clock counts ticks in 64 bits, and a call is interrupted when the clock has come to its
deadline: the ticks of the time limit from when the call began, added in 64 bits as well. A time
limit that is too long makes the sum overflow, and then the deadline has passed before the call
begins. The check of the settings refuses no time limit for being long.

## Main definitions

* `RuntimeSettings.ticks`, `RuntimeSettings.deadline` — the time limit and the deadline of a call
* `RuntimeSettings.withTimeout` — the settings with another time limit

## Main results

* `deadlineTicks_toNat`, `deadlineTicks_le_iff` — the time limit in ticks
* `RuntimeSettings.add_ticks_lt_iff` — which deadlines can be counted, and so lie in the future
* `RuntimeSettings.validate_withTimeout_iff` — which time limits are accepted
* `RuntimeSettings.deadline_of_accepted` — both together
-/

namespace GuestRoutines

/-! ### Ticks -/

theorem toNat_max (a b : UInt64) : (max a b).toNat = max a.toNat b.toNat := by
  change (if a ≤ b then b else a).toNat = _
  split
  · next le => exact (max_eq_right (UInt64.le_iff_toNat_le.mp le)).symm
  · next greater =>
    have le := UInt64.le_of_lt (UInt64.not_le.mp greater)
    exact (max_eq_left (UInt64.le_iff_toNat_le.mp le)).symm

/-- A division rounded up is one more than the division rounded down, unless nothing remains. -/
theorem ceilDiv_eq_ite (n : Nat) {d : Nat} (positive : 0 < d) :
    n ⌈/⌉ d = if n % d = 0 then n / d else n / d + 1 := by
  have parts := Nat.div_add_mod n d
  have remainder := Nat.mod_lt n positive
  have next (q : Nat) : (q + 1) * d = d * q + d := by rw [Nat.succ_mul, Nat.mul_comm]
  rw [Nat.ceilDiv_eq_add_pred_div]
  split
  · refine Nat.div_eq_of_lt_le ?_ ?_
    · rw [Nat.mul_comm]
      omega
    · rw [next]
      omega
  · refine Nat.div_eq_of_lt_le ?_ ?_
    · rw [next]
      omega
    · rw [next, Nat.mul_succ]
      omega

/-- If something remains of a division, then the quotient is smaller than the number divided. -/
theorem div_lt_of_mod_ne_zero {n d : Nat} (remains : n % d ≠ 0) : n / d < n := by
  have positive : 0 < n := Nat.pos_of_ne_zero fun zero => remains (by rw [zero, Nat.zero_mod])
  match d with
  | 0 => rwa [Nat.div_zero]
  | 1 => exact absurd (Nat.mod_one n) remains
  | d + 2 => exact Nat.div_lt_self positive (by omega)

/-- The time limit in ticks is a division rounded up, and never zero. No step of it overflows. -/
theorem deadlineTicks_toNat (t k : UInt64) :
    (deadlineTicks t k).toNat = max (t.toNat ⌈/⌉ max k.toNat 1) 1 := by
  have tick : (max k 1).toNat = max k.toNat 1 := toNat_max k 1
  have positive : 0 < max k.toNat 1 := by omega
  have zero : (t % max k 1 = 0) = (t.toNat % max k.toNat 1 = 0) := by
    rw [← UInt64.toNat_inj, UInt64.toNat_mod, tick]
    rfl
  simp only [deadlineTicks, toNat_max, zero]
  rw [ceilDiv_eq_ite _ positive]
  split
  · rw [UInt64.toNat_div, tick]
    rfl
  · next remains =>
    have smaller := div_lt_of_mod_ne_zero remains
    have bound := t.toNat_lt
    rw [UInt64.toNat_add, UInt64.toNat_div, tick, Nat.mod_eq_of_lt]
    · rfl
    · show t.toNat / max k.toNat 1 + 1 < 2 ^ 64
      omega

/-- The ticks of the time limit are the fewest that cover it. -/
theorem deadlineTicks_le_iff {t k : UInt64} {n : Nat} (positive : 0 < n) :
    (deadlineTicks t k).toNat ≤ n ↔ t.toNat ≤ max k.toNat 1 * n := by
  have tick : 0 < max k.toNat 1 := by omega
  rw [deadlineTicks_toNat, max_le_iff, ceilDiv_le_iff_le_mul tick]
  exact and_iff_left positive

theorem deadlineTicks_pos (t k : UInt64) : 0 < (deadlineTicks t k).toNat := by
  rw [deadlineTicks_toNat]
  exact Nat.lt_of_lt_of_le Nat.one_pos (Nat.le_max_right _ _)

namespace RuntimeSettings

/-- The time limit of a call in ticks. -/
def ticks (c : RuntimeSettings) : UInt64 := deadlineTicks c.limits.timeoutMs c.engine.epochTickMs

/-- The deadline of a call on the clock of the engine, which shows the given number of ticks when
the call begins. -/
def deadline (c : RuntimeSettings) (epoch : UInt64) : UInt64 := epoch + c.ticks

/-- The settings with another time limit. -/
def withTimeout (c : RuntimeSettings) (t : UInt64) : RuntimeSettings :=
  { c with limits := { c.limits with timeoutMs := t } }

variable {c : RuntimeSettings} {epoch : UInt64}

/-! ### Deadlines -/

/-- The deadline can be counted if the ticks that the clock has left cover the time limit. -/
theorem add_ticks_lt_iff (left : epoch.toNat + 1 < UInt64.size) :
    epoch.toNat + c.ticks.toNat < UInt64.size ↔
      c.limits.timeoutMs.toNat ≤ c.engine.tick * (UInt64.size - 1 - epoch.toNat) := by
  have positive : 0 < UInt64.size - 1 - epoch.toNat := by omega
  have covered : c.ticks.toNat ≤ UInt64.size - 1 - epoch.toNat ↔ _ :=
    deadlineTicks_le_iff positive
  rw [EngineSettings.tick, ← covered]
  omega

/-- A deadline that can be counted lies in the future. -/
theorem deadline_of_add_ticks_lt (counted : epoch.toNat + c.ticks.toNat < UInt64.size) :
    (c.deadline epoch).toNat = epoch.toNat + c.ticks.toNat ∧ epoch < c.deadline epoch := by
  have sum : (c.deadline epoch).toNat = epoch.toNat + c.ticks.toNat := by
    rw [deadline, UInt64.toNat_add, Nat.mod_eq_of_lt counted]
  have positive : 0 < c.ticks.toNat := deadlineTicks_pos _ _
  refine ⟨sum, UInt64.lt_iff_toNat_lt.mpr ?_⟩
  omega

/-- A deadline that cannot be counted has passed already. -/
theorem deadline_lt_of_le_add_ticks (overflows : UInt64.size ≤ epoch.toNat + c.ticks.toNat) :
    c.deadline epoch < epoch := by
  -- The sum has lost one full range, which is more than the ticks of the time limit.
  have size : UInt64.size = 2 ^ 64 := rfl
  have bound := c.ticks.toNat_lt
  rw [UInt64.lt_iff_toNat_lt, deadline, UInt64.toNat_add]
  omega

/-! ### Accepted time limits -/

theorem validate_eq_ok_iff (c : RuntimeSettings) :
    c.validate = .ok () ↔ ¬ (c.limits.fuelMetering ∧ c.limits.maxFuel = 0) ∧
      ¬ (c.engine.epochInterruption ∧ c.limits.timeoutMs = 0) ∧
      ¬ (c.engine.poolingAllocator ∧ c.engine.maxInstances = 0) ∧ c.limits.maxMemoryMb ≠ 0 := by
  unfold validate refuse
  split_ifs with fuel timeout instances memory
  · exact ⟨nofun, fun rules => absurd fuel rules.1⟩
  · exact ⟨nofun, fun rules => absurd timeout rules.2.1⟩
  · exact ⟨nofun, fun rules => absurd instances rules.2.2.1⟩
  · exact ⟨nofun, fun rules => absurd memory rules.2.2.2⟩
  · exact ⟨fun _ => ⟨fuel, timeout, instances, memory⟩, fun _ => rfl⟩

/-- With interruption the time limit must not be zero, and no other one is refused. -/
theorem validate_withTimeout_iff (valid : c.validate = .ok ())
    (interrupted : c.engine.epochInterruption) (t : UInt64) :
    (c.withTimeout t).validate = .ok () ↔ t ≠ 0 := by
  obtain ⟨fuel, -, instances, memory⟩ := (validate_eq_ok_iff c).mp valid
  rw [validate_eq_ok_iff]
  constructor
  · rintro ⟨-, timeout, -⟩ zero
    exact timeout ⟨interrupted, zero⟩
  · exact fun positive => ⟨fuel, fun timeout => positive timeout.2, instances, memory⟩

/-- **The deadline of a call is ahead of the clock exactly if the clock's range covers the limit.**
It lies in the future if the time limit is covered by the ticks that the clock has left, and
otherwise it has passed already. A long interval of the clock rules the latter out as long as the
clock has run through half of its range at most, but the check of the settings does not: it accepts
every time limit but zero. -/
theorem deadline_of_accepted (c : RuntimeSettings) (valid : c.validate = .ok ())
    (interrupted : c.engine.epochInterruption) :
    (∀ t, (c.withTimeout t).validate = .ok () ↔ t ≠ 0) ∧
      (∀ epoch : UInt64, epoch.toNat ≤ 2 ^ 63 →
        (c.limits.timeoutMs.toNat ≤ c.engine.tick * (UInt64.size - 1 - epoch.toNat) →
          epoch.toNat + c.ticks.toNat < UInt64.size ∧
            (c.deadline epoch).toNat = epoch.toNat + c.ticks.toNat ∧ epoch < c.deadline epoch) ∧
        (c.engine.tick * (UInt64.size - 1 - epoch.toNat) < c.limits.timeoutMs.toNat →
          UInt64.size ≤ epoch.toNat + c.ticks.toNat ∧ c.deadline epoch < epoch)) ∧
      (c.limits.timeoutMs.toNat ≤ c.engine.tick * (2 ^ 63 - 1) ∨ 3 ≤ c.engine.tick →
        ∀ epoch : UInt64, epoch.toNat ≤ 2 ^ 63 → epoch < c.deadline epoch) := by
  have size : UInt64.size = 2 ^ 64 := rfl
  have counted {epoch : UInt64} (half : epoch.toNat ≤ 2 ^ 63) :
      epoch.toNat + c.ticks.toNat < UInt64.size ↔
        c.limits.timeoutMs.toNat ≤ c.engine.tick * (UInt64.size - 1 - epoch.toNat) :=
    add_ticks_lt_iff (by omega)
  refine ⟨validate_withTimeout_iff valid interrupted, fun epoch half => ⟨fun covered => ?_,
    fun long => ?_⟩, fun safe epoch half => ?_⟩
  · have counted := (counted half).mpr covered
    exact ⟨counted, deadline_of_add_ticks_lt counted⟩
  · have overflows := Nat.not_lt.mp (mt (counted half).mp (Nat.not_le.mpr long))
    exact ⟨overflows, deadline_lt_of_le_add_ticks overflows⟩
  · have covered : c.limits.timeoutMs.toNat ≤ c.engine.tick * (2 ^ 63 - 1) := by
      rcases safe with covered | long
      · exact covered
      · -- Three halves of the range are more than any time limit.
        have bound := c.limits.timeoutMs.toNat_lt
        have three := Nat.mul_le_mul_right (2 ^ 63 - 1) long
        omega
    have left : c.engine.tick * (2 ^ 63 - 1) ≤ c.engine.tick * (UInt64.size - 1 - epoch.toNat) :=
      Nat.mul_le_mul_left _ (by omega)
    exact (deadline_of_add_ticks_lt ((counted half).mpr (covered.trans left))).2

theorem deadline_of_accepted_extremes :
    (({} : RuntimeSettings).withTimeout 5).validate = .ok () ∧
      7 < ({} : RuntimeSettings).deadline 7 ∧
      0 < (({} : RuntimeSettings).withTimeout 18446744073709551615).deadline 0 ∧
      (({} : RuntimeSettings).withTimeout 18446744073709551615).deadline 1 < 1 := by
  obtain ⟨accepted, -, safe⟩ := deadline_of_accepted {} rfl rfl
  obtain ⟨-, future, -⟩ :=
    deadline_of_accepted (({} : RuntimeSettings).withTimeout 18446744073709551615) rfl rfl
  obtain ⟨-, -, later⟩ := (future 0 (by decide)).1 (by decide)
  obtain ⟨-, passed⟩ := (future 1 (by decide)).2 (by decide)
  exact ⟨(accepted 5).mpr (by decide), safe (.inl (by decide)) 7 (by decide), later, passed⟩

/-- A store can hold a time limit that is accepted and whose deadline has passed once the clock has
begun to run. -/
theorem deadline_passed_of_greatest_timeout :
    ∃ c, ofStore (.ofTable (.ofList [("plwasm.timeout_ms", "18446744073709551615")])) = .ok c ∧
      c.validate = .ok () ∧ c.engine.epochInterruption ∧
      2 ^ 64 - 1 < (1 : UInt64).toNat + c.ticks.toNat ∧ c.deadline 1 = 0 :=
  ⟨({} : RuntimeSettings).withTimeout 18446744073709551615, by decide +kernel, rfl, rfl,
    by decide, by decide⟩

end RuntimeSettings

end GuestRoutines
