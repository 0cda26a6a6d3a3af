import GuestRoutines.Level.Mapping
import Mathlib.Logic.Basic

/-!
# What the checks of tables find

A table that a check accepts has no descent between neighbours, and demotes no level unless to the
top of its target scale. Of the three scales, only the host's goes on above the common one.

## Main results

* `checkTable_eq_ok_iff`, `LevelTables.check_eq_ok_iff` — what the checks have found
* `Severity.le_iff_rank`, `Severity.rank_le_hostTop` — the common scale beside the ranks
* `LevelMapping.ofTables_eq_ok_iff` — the tables of a mapping
-/

namespace GuestRoutines

open Scale

/-! ### One table -/

section Table

variable {α β : Type} [Scale α] [Scale β] [DecidableEq β] {table : α → β}

theorem demotion?_eq_none_iff {ls : List α} :
    demotion? table ls = none ↔ ∀ a ∈ ls, rank a ≤ rank (table a) ∨ table a = top := by
  rw [demotion?, List.find?_eq_none]
  refine forall₂_congr fun a _ => ?_
  simp only [decide_eq_true_eq, not_and_or, Nat.not_lt, not_not]

theorem checkTable_eq_ok_iff :
    checkTable table = .ok () ↔
      descent? table levels = none ∧
        ∀ a ∈ levels, rank a ≤ rank (table a) ∨ table a = top := by
  rw [← demotion?_eq_none_iff, checkTable]
  cases descent? table levels with
  | some neighbours => simp
  | none => cases demotion? table levels <;> simp

end Table

/-! ### The scales -/

theorem HostLevel.mem_levels (l : HostLevel) : l ∈ levels (α := HostLevel) := by
  cases l <;> decide

theorem Severity.mem_levels (s : Severity) : s ∈ levels (α := Severity) := by
  cases s <;> decide

theorem ManagedLevel.mem_levels (l : ManagedLevel) : l ∈ levels (α := ManagedLevel) := by
  cases l <;> decide

/-- Ranks tell severities apart as their places on the common scale do. -/
theorem Severity.le_iff_rank {s t : Severity} : s ≤ t ↔ rank s ≤ rank t := by
  cases s <;> cases t <;> decide

theorem Severity.rank_le_top (s : Severity) : rank s ≤ rank (top : Severity) := by
  cases s <;> decide

/-- The host's scale goes on above the common one. -/
theorem Severity.rank_le_hostTop (s : Severity) : rank s ≤ rank (top : HostLevel) := by
  cases s <;> decide

namespace LevelTables

theorem mapError_eq_ok_iff {ε ε' α : Type} {x : Except ε α} {f : ε → ε'} {a : α} :
    x.mapError f = .ok a ↔ x = .ok a := by
  cases x with
  | ok b =>
    constructor <;>
    · rintro ⟨⟩
      rfl
  | error e => exact ⟨nofun, nofun⟩

/-- The tables are checked one after the other, and each of them has to be sound. -/
theorem check_eq_ok_iff {t : LevelTables} :
    t.check = .ok () ↔
      checkTable t.hostToCommon = .ok () ∧ checkTable t.commonToHost = .ok () ∧
        checkTable t.managedToCommon = .ok () ∧ checkTable t.commonToManaged = .ok () := by
  have both {ε : Type} {x y : Except ε Unit} :
      (x >>= fun _ => y) = .ok () ↔ x = .ok () ∧ y = .ok () := by
    cases x <;> simp [bind, Except.bind]
  simp only [check, both, mapError_eq_ok_iff]

end LevelTables

/-! ### The four tables of a mapping -/

namespace LevelMapping

/-- The tables that are accepted as a mapping are the ones that a mapping can hold. -/
theorem ofTables_eq_ok_iff {t : LevelTables} {m : LevelMapping} :
    ofTables t = .ok m ↔ m.toLevelTables = t := by
  constructor
  · intro accepted
    unfold ofTables at accepted
    split at accepted <;> cases accepted
    rfl
  · rintro rfl
    unfold ofTables
    split
    · rfl
    · next flaw =>
      rw [m.safe] at flaw
      cases flaw

end LevelMapping

end GuestRoutines
