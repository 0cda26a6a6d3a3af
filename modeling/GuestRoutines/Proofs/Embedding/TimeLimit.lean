import GuestRoutines.Proofs.Embedding.Deadline
import Mathlib.Order.Bounds.Basic

/-!
# The time limit in ticks

A call is given a whole number of ticks of the engine's clock. That number is the least one, zero
apart, whose ticks cover the time limit, when a tick is as long as the clock makes it: both sides
take an interval of zero for one millisecond. It is computed in 64 bits for every time limit and
every interval without an overflow.

## Main definitions

* `Checked.add`, `Checked.div`, `Checked.mod` — arithmetic in 64 bits that is refused where its
  result would not be exact
* `deadlineTicks?` — the time limit in ticks, by checked steps

## Main results

* `deadlineTicks?_eq_some` — no step is refused
* `isLeast_deadlineTicks` — the number of ticks is the least cover of the time limit
* `deadlineTicks_mono`, `deadlineTicks_anti` — longer limits need more ticks, and longer ticks fewer
* `EngineSettings.ticks_cover_limit` — all of it, by the interval of the clock
-/

namespace GuestRoutines

/-! ### Checked steps -/

namespace Checked

/-- A sum that fits 64 bits. -/
def add (a b : UInt64) : Option UInt64 :=
  if a.toNat + b.toNat < UInt64.size then some (a + b) else none

/-- A quotient by a divisor that is not zero. -/
def div (a b : UInt64) : Option UInt64 := if b = 0 then none else some (a / b)

/-- A remainder by a divisor that is not zero. -/
def mod (a b : UInt64) : Option UInt64 := if b = 0 then none else some (a % b)

variable {a b : UInt64}

theorem add_eq_some (fits : a.toNat + b.toNat < UInt64.size) : add a b = some (a + b) :=
  if_pos fits

theorem div_eq_some (nonzero : b ≠ 0) : div a b = some (a / b) := if_neg nonzero

theorem mod_eq_some (nonzero : b ≠ 0) : mod a b = some (a % b) := if_neg nonzero

end Checked

/-- The time limit in ticks, as `deadlineTicks` computes it, unless a step overflows or divides by
zero. -/
def deadlineTicks? (timeoutMs tickMs : UInt64) : Option UInt64 := do
  let tick := max tickMs 1
  let whole ← Checked.div timeoutMs tick
  let rest ← Checked.mod timeoutMs tick
  let cover ← if rest = 0 then some whole else Checked.add whole 1
  return max cover 1

theorem max_one_ne_zero (k : UInt64) : max k 1 ≠ 0 := by
  intro zero
  have one : (max k 1).toNat = max k.toNat 1 := toNat_max k 1
  rw [zero] at one
  have none : (0 : UInt64).toNat = 0 := rfl
  omega

/-- The computation of the ticks never overflows and never divides by zero. -/
theorem deadlineTicks?_eq_some (t k : UInt64) : deadlineTicks? t k = some (deadlineTicks t k) := by
  have nonzero := max_one_ne_zero k
  simp only [deadlineTicks?, deadlineTicks, Checked.div_eq_some nonzero,
    Checked.mod_eq_some nonzero, Option.bind_eq_bind, Option.bind_some]
  split
  · rfl
  · next remains =>
    -- The quotient is smaller than the time limit, which fits 64 bits itself.
    have smaller : t.toNat / (max k 1).toNat < t.toNat := by
      refine div_lt_of_mod_ne_zero fun none => remains (UInt64.toNat_inj.mp ?_)
      rw [UInt64.toNat_mod, none]
      rfl
    have fits : (t / max k 1).toNat + (1 : UInt64).toNat < UInt64.size := by
      rw [UInt64.toNat_div]
      exact Nat.lt_of_le_of_lt smaller t.toNat_lt
    rw [Checked.add_eq_some fits]
    rfl

/-! ### Covers -/

/-- The ticks are the fewest, zero apart, that cover the time limit. -/
theorem isLeast_deadlineTicks (t k : UInt64) :
    IsLeast {n | 1 ≤ n ∧ t.toNat ≤ n * max k.toNat 1} (deadlineTicks t k).toNat := by
  refine ⟨⟨deadlineTicks_pos t k, ?_⟩, fun n ⟨positive, covers⟩ => ?_⟩
  · rw [Nat.mul_comm]
    exact (deadlineTicks_le_iff (deadlineTicks_pos t k)).mp (Nat.le_refl _)
  · rw [Nat.mul_comm] at covers
    exact (deadlineTicks_le_iff positive).mpr covers

/-- One tick less does not cover the time limit, unless there is only one. -/
theorem pred_deadlineTicks_mul_lt {t k : UInt64} (several : (deadlineTicks t k).toNat ≠ 1) :
    ((deadlineTicks t k).toNat - 1) * max k.toNat 1 < t.toNat := by
  have positive := deadlineTicks_pos t k
  refine Nat.lt_of_not_le fun covers => ?_
  have least := (isLeast_deadlineTicks t k).2 ⟨by omega, covers⟩
  omega

/-- A longer time limit has at least as many ticks. -/
theorem deadlineTicks_mono {t t' : UInt64} (longer : t ≤ t') (k : UInt64) :
    deadlineTicks t k ≤ deadlineTicks t' k := by
  obtain ⟨⟨positive, covers⟩, -⟩ := isLeast_deadlineTicks t' k
  have covers' : t.toNat ≤ (deadlineTicks t' k).toNat * max k.toNat 1 :=
    Nat.le_trans (UInt64.le_iff_toNat_le.mp longer) covers
  exact UInt64.le_iff_toNat_le.mpr ((isLeast_deadlineTicks t k).2 ⟨positive, covers'⟩)

/-- Longer ticks are at most as many. -/
theorem deadlineTicks_anti (t : UInt64) {k k' : UInt64} (longer : k ≤ k') :
    deadlineTicks t k' ≤ deadlineTicks t k := by
  obtain ⟨⟨positive, covers⟩, -⟩ := isLeast_deadlineTicks t k
  have longer' : max k.toNat 1 ≤ max k'.toNat 1 :=
    max_le_max_right 1 (UInt64.le_iff_toNat_le.mp longer)
  have covers' : t.toNat ≤ (deadlineTicks t k).toNat * max k'.toNat 1 :=
    Nat.le_trans covers (Nat.mul_le_mul_left _ longer')
  exact UInt64.le_iff_toNat_le.mpr ((isLeast_deadlineTicks t k').2 ⟨positive, covers'⟩)

/-- **The ticks of a call cover its time limit, and no fewer do.** This holds for every time limit
and every setting of the clock, an interval of zero included, and the interval of the clock is the
one that the clock itself goes by. -/
theorem EngineSettings.ticks_cover_limit (e : EngineSettings) (t : UInt64) :
    let ticks := deadlineTicks t e.epochTickMs
    deadlineTicks? t e.epochTickMs = some ticks ∧
    1 ≤ ticks.toNat ∧
    t.toNat ≤ ticks.toNat * e.tick ∧
    (ticks.toNat ≠ 1 → (ticks.toNat - 1) * e.tick < t.toNat) ∧
    IsLeast {n | 1 ≤ n ∧ t.toNat ≤ n * e.tick} ticks.toNat ∧
    (∀ t', t ≤ t' → ticks ≤ deadlineTicks t' e.epochTickMs) ∧
    (∀ tickMs, e.epochTickMs ≤ tickMs → deadlineTicks t tickMs ≤ ticks) := by
  intro ticks
  have least : IsLeast {n | 1 ≤ n ∧ t.toNat ≤ n * e.tick} ticks.toNat :=
    isLeast_deadlineTicks t e.epochTickMs
  exact ⟨deadlineTicks?_eq_some t e.epochTickMs, least.1.1, least.1.2,
    pred_deadlineTicks_mul_lt, least, fun t' longer => deadlineTicks_mono longer e.epochTickMs,
    fun tickMs longer => deadlineTicks_anti t longer⟩

/-- An interval of zero is one millisecond, and the greatest time limit can be rounded up. -/
example : deadlineTicks 1000 3 = 334 ∧ deadlineTicks 5 0 = 5 ∧ deadlineTicks 0 7 = 1 ∧
    deadlineTicks 18446744073709551615 2 = 9223372036854775808 := by decide

end GuestRoutines
