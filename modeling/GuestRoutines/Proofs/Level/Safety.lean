import GuestRoutines.Proofs.Level.Mapping
import Mathlib.Data.List.Chain

/-!
# Safe tables and what comes of them

A check looks at neighbouring levels only and excuses the top of the target scale, and yet the
tables that it accepts keep the order of any two levels. Safe tables can be put one after the other:
the order survives, and of the rank only what lies above the lower of the two tops is lost.

## Main definitions

* `Scale.Listed` — a scale whose list holds every level at its place
* `Ascends`, `Demotes` — what a table does to two levels, and to one
* `SafeTable`, `LevelTables.Safe` — safety, said of all pairs of levels
* `FirstFlaw`, `LevelTables.FirstError` — the flaw that is reported

## Main results

* `forall_ascends_iff` — neighbours in order are enough
* `checkTable_eq_ok_iff_safe`, `checkTable_eq_error_iff` — what a check accepts and reports
* `SafeTable.min_rank_le_comp` — the rank through two tables
* `LevelMapping.tables_safe_or_flawed` — all of it, for four tables
-/

namespace GuestRoutines

open Scale

/-! ### Listed scales -/

/-- A scale whose list holds every level, each at its place. -/
class Scale.Listed (α : Type) [Scale α] : Prop where
  mem_levels : ∀ a : α, a ∈ levels
  positions : (levels (α := α)).map position = List.range (levels (α := α)).length

instance : Scale.Listed Severity := ⟨Severity.mem_levels, by decide⟩

instance : Scale.Listed HostLevel := ⟨HostLevel.mem_levels, by decide⟩

instance : Scale.Listed ManagedLevel := ⟨ManagedLevel.mem_levels, by decide⟩

namespace Scale.Listed

variable {α : Type} [Scale α] [Listed α]

theorem position_getElem {i : Nat} (inside : i < (levels (α := α)).length) :
    position (levels (α := α))[i] = i := by
  have same := congrArg (fun places => places[i]?) (positions (α := α))
  simpa [inside] using same

/-- What holds of every two levels in the order of a list holds in the order of their places. -/
theorem rel_of_position_lt {R : α → α → Prop} (pairs : (levels (α := α)).Pairwise R) {a b : α}
    (below : position a < position b) : R a b := by
  obtain ⟨i, hi, rfl⟩ := List.mem_iff_getElem.mp (mem_levels a)
  obtain ⟨j, hj, rfl⟩ := List.mem_iff_getElem.mp (mem_levels b)
  rw [position_getElem hi, position_getElem hj] at below
  exact List.pairwise_iff_getElem.mp pairs i j hi hj below

/-- Two levels at one place are the same. -/
theorem eq_of_position_eq {a b : α} (same : position a = position b) : a = b := by
  obtain ⟨i, hi, rfl⟩ := List.mem_iff_getElem.mp (mem_levels a)
  obtain ⟨j, hj, rfl⟩ := List.mem_iff_getElem.mp (mem_levels b)
  rw [position_getElem hi, position_getElem hj] at same
  subst same
  rfl

/-- The levels stand in the order of their places. -/
theorem levels_pairwise : (levels (α := α)).Pairwise fun a b => position a < position b := by
  apply List.pairwise_map.mp
  rw [positions]
  exact List.pairwise_lt_range

end Scale.Listed

/-! ### Neighbours -/

section Neighbours

variable {α β : Type} [Scale β] {table : α → β} {ls : List α} {lower higher : α}

/-- A table does not send the second level below the first one. -/
def Ascends (table : α → β) (a b : α) : Prop := position (table a) ≤ position (table b)

theorem descent?_eq_none_iff : descent? table ls = none ↔ ls.IsChain (Ascends table) := by
  fun_induction descent? table ls with
  | case1 a b rest falls => simp [Ascends, falls]
  | case2 a b rest rises ih =>
    have upward : Ascends table a b := Nat.not_lt.mp rises
    rw [ih, List.isChain_cons_cons, and_iff_right upward]
  | case3 ls short =>
    match ls, short with
    | [], _ => simp
    | [a], _ => simp
    | a :: b :: rest, short => exact absurd rfl (short a b rest)

/-- The descent that is found is the first one: up to it all neighbours are in order. -/
theorem descent?_eq_some_iff :
    descent? table ls = some (lower, higher) ↔
      ∃ before rest, ls = before ++ lower :: higher :: rest ∧
        (before ++ [lower]).IsChain (Ascends table) ∧ ¬ Ascends table lower higher := by
  fun_induction descent? table ls with
  | case1 a b rest falls =>
    constructor
    · intro found
      obtain ⟨rfl, rfl⟩ := Prod.mk.inj (Option.some.inj found)
      exact ⟨[], rest, rfl, .singleton a, Nat.not_le.mpr falls⟩
    · rintro ⟨before, after, split, earlier, _⟩
      match before with
      | [] =>
        obtain ⟨rfl, tail⟩ := List.cons.inj split
        obtain ⟨rfl, _⟩ := List.cons.inj tail
        rfl
      | first :: before =>
        -- The two levels at the head would be neighbours in order, and they are not.
        obtain ⟨rfl, tail⟩ := List.cons.inj split
        have upward : Ascends table a b := by
          cases before with
          | nil =>
            obtain ⟨rfl, _⟩ := List.cons.inj tail
            exact (List.isChain_cons_cons.mp earlier).1
          | cons second before =>
            obtain ⟨rfl, _⟩ := List.cons.inj tail
            exact (List.isChain_cons_cons.mp earlier).1
        exact absurd upward (Nat.not_le.mpr falls)
  | case2 a b rest rises ih =>
    have upward : Ascends table a b := Nat.not_lt.mp rises
    rw [ih]
    constructor
    · rintro ⟨before, after, split, earlier, falls⟩
      refine ⟨a :: before, after, congrArg (a :: ·) split, ?_, falls⟩
      cases before with
      | nil =>
        obtain ⟨rfl, _⟩ := List.cons.inj split
        exact List.isChain_cons_cons.mpr ⟨upward, earlier⟩
      | cons second before =>
        obtain ⟨rfl, _⟩ := List.cons.inj split
        exact List.isChain_cons_cons.mpr ⟨upward, earlier⟩
    · rintro ⟨before, after, split, earlier, falls⟩
      match before with
      | [] =>
        obtain ⟨rfl, tail⟩ := List.cons.inj split
        obtain ⟨rfl, _⟩ := List.cons.inj tail
        exact absurd upward falls
      | first :: before =>
        exact ⟨before, after, (List.cons.inj split).2, earlier.tail, falls⟩
  | case3 ls short =>
    constructor
    · exact nofun
    · rintro ⟨before, after, rfl, _⟩
      match before, short with
      | [], short => exact absurd rfl (short _ _ _)
      | [a], short => exact absurd rfl (short _ _ _)
      | a :: b :: before, short => exact absurd rfl (short _ _ _)

end Neighbours

/-! ### One table -/

section Table

variable {α β : Type} [Scale α] [Scale β]

/-- A table sends a level to one of smaller rank, although the target scale goes on above it. -/
def Demotes (table : α → β) (a : α) : Prop := rank (table a) < rank a ∧ table a ≠ top

/-- A table is safe when it keeps the order of any two levels and demotes none. -/
structure SafeTable (table : α → β) : Prop where
  ascends : ∀ a b, position a ≤ position b → Ascends table a b
  reaches : ∀ a, rank a ≤ rank (table a) ∨ table a = top

/-- The flaw of a table that is reported: the first two neighbours that are sent in descending
order, and only without any such neighbours the first level that is demoted. -/
inductive FirstFlaw (table : α → β) : TableFlaw α β → Prop where
  | descends {before rest : List α} {a b : α} (split : levels = before ++ a :: b :: rest)
      (earlier : (before ++ [a]).IsChain (Ascends table)) (falls : ¬ Ascends table a b) :
      FirstFlaw table (.descends a b)
  | demotes {before rest : List α} {a : α} (split : levels = before ++ a :: rest)
      (ordered : ∀ a b, position a ≤ position b → Ascends table a b)
      (earlier : ∀ b ∈ before, ¬ Demotes table b) (lost : Demotes table a) :
      FirstFlaw table (.demotes a (table a))

variable {table : α → β}

/-- Neighbours in order are enough for the order of any two levels. -/
theorem forall_ascends_iff [Listed α] :
    (∀ a b, position a ≤ position b → Ascends table a b) ↔
      (levels (α := α)).IsChain (Ascends table) := by
  have trans : Trans (Ascends table) (Ascends table) (Ascends table) := ⟨Nat.le_trans⟩
  constructor
  · intro ordered
    apply List.Pairwise.isChain
    exact Listed.levels_pairwise.imp fun {a b} below => ordered a b (Nat.le_of_lt below)
  · intro neighbours a b upward
    rcases Nat.lt_or_eq_of_le upward with below | same
    · exact Listed.rel_of_position_lt (List.isChain_iff_pairwise.mp neighbours) below
    · rw [Listed.eq_of_position_eq same]
      exact Nat.le_refl _

theorem demotion?_eq_some_iff [DecidableEq β] {ls : List α} {a : α} :
    demotion? table ls = some a ↔
      ∃ before rest, ls = before ++ a :: rest ∧ (∀ b ∈ before, ¬ Demotes table b) ∧
        Demotes table a := by
  simp only [demotion?, List.find?_eq_some_iff_append, Demotes, decide_eq_true_eq,
    Bool.not_eq_true', decide_eq_false_iff_not]
  constructor
  · rintro ⟨lost, before, rest, split, earlier⟩
    exact ⟨before, rest, split, earlier, lost⟩
  · rintro ⟨before, rest, split, earlier, lost⟩
    exact ⟨lost, before, rest, split, earlier⟩

/-- The tables that a check accepts are the safe ones. -/
theorem checkTable_eq_ok_iff_safe [Listed α] [DecidableEq β] :
    checkTable table = .ok () ↔ SafeTable table := by
  rw [checkTable_eq_ok_iff, descent?_eq_none_iff, ← forall_ascends_iff]
  constructor
  · rintro ⟨ordered, kept⟩
    exact ⟨ordered, fun a => kept a (Listed.mem_levels a)⟩
  · intro safe
    exact ⟨safe.ascends, fun a _ => safe.reaches a⟩

/-- What a check reports of any other table is its first flaw. -/
theorem checkTable_eq_error_iff [Listed α] [DecidableEq β] {flaw : TableFlaw α β} :
    checkTable table = .error flaw ↔ FirstFlaw table flaw := by
  constructor
  · intro refused
    unfold checkTable at refused
    split at refused
    · next lower higher found =>
      obtain rfl := Except.error.inj refused
      obtain ⟨before, rest, split, earlier, falls⟩ := descent?_eq_some_iff.mp found
      exact .descends split earlier falls
    · next ordered =>
      split at refused
      · next a found =>
        obtain rfl := Except.error.inj refused
        obtain ⟨before, rest, split, earlier, lost⟩ := demotion?_eq_some_iff.mp found
        exact .demotes split (forall_ascends_iff.mpr (descent?_eq_none_iff.mp ordered)) earlier lost
      · cases refused
  · intro flawed
    cases flawed with
    | descends split earlier falls =>
      have found := descent?_eq_some_iff.mpr ⟨_, _, split, earlier, falls⟩
      rw [checkTable, found]
    | demotes split ordered earlier lost =>
      have none := descent?_eq_none_iff.mpr (forall_ascends_iff.mp ordered)
      have found := demotion?_eq_some_iff.mpr ⟨_, _, split, earlier, lost⟩
      rw [checkTable, none, found]

end Table

/-! ### Tables one after the other -/

namespace SafeTable

variable {α β γ : Type} [Scale α] [Scale β] [Scale γ] {table : α → β} {next : β → γ}

/-- A safe table loses of a rank only what lies above the target scale. -/
theorem min_rank_le (safe : SafeTable table) (a : α) :
    min (rank a) (rank (top : β)) ≤ rank (table a) := by
  rcases safe.reaches a with kept | last
  · exact Nat.le_trans (Nat.min_le_left ..) kept
  · rw [last]
    exact Nat.min_le_right ..

/-- Two safe tables lose of a rank only what lies above the lower of the two tops. -/
theorem min_rank_le_comp (first : SafeTable table) (second : SafeTable next) (a : α) :
    min (rank a) (min (rank (top : β)) (rank (top : γ))) ≤ rank (next (table a)) := by
  have through := first.min_rank_le a
  have out := second.min_rank_le (table a)
  omega

theorem ascends_comp (first : SafeTable table) (second : SafeTable next) {a b : α}
    (upward : position a ≤ position b) :
    position (next (table a)) ≤ position (next (table b)) :=
  second.ascends _ _ (first.ascends a b upward)

end SafeTable

/-! ### Four tables -/

namespace LevelTables

/-- All four tables are safe. -/
structure Safe (t : LevelTables) : Prop where
  hostToCommon : SafeTable t.hostToCommon
  commonToHost : SafeTable t.commonToHost
  managedToCommon : SafeTable t.managedToCommon
  commonToManaged : SafeTable t.commonToManaged

/-- The error that is reported: the first flaw of the first table that has one. -/
inductive FirstError (t : LevelTables) : TableError → Prop where
  | hostToCommon {flaw : TableFlaw HostLevel Severity} (flawed : FirstFlaw t.hostToCommon flaw) :
      FirstError t (.hostToCommon flaw)
  | commonToHost {flaw : TableFlaw Severity HostLevel} (first : SafeTable t.hostToCommon)
      (flawed : FirstFlaw t.commonToHost flaw) : FirstError t (.commonToHost flaw)
  | managedToCommon {flaw : TableFlaw ManagedLevel Severity} (first : SafeTable t.hostToCommon)
      (second : SafeTable t.commonToHost) (flawed : FirstFlaw t.managedToCommon flaw) :
      FirstError t (.managedToCommon flaw)
  | commonToManaged {flaw : TableFlaw Severity ManagedLevel} (first : SafeTable t.hostToCommon)
      (second : SafeTable t.commonToHost) (third : SafeTable t.managedToCommon)
      (flawed : FirstFlaw t.commonToManaged flaw) : FirstError t (.commonToManaged flaw)

variable {t : LevelTables} {e : TableError}

theorem check_eq_ok_iff_safe : t.check = .ok () ↔ t.Safe := by
  simp only [check_eq_ok_iff, checkTable_eq_ok_iff_safe]
  constructor
  · rintro ⟨first, second, third, fourth⟩
    exact ⟨first, second, third, fourth⟩
  · rintro ⟨first, second, third, fourth⟩
    exact ⟨first, second, third, fourth⟩

theorem mapError_eq_error_iff {ε ε' α : Type} {x : Except ε α} {f : ε → ε'} {e : ε'} :
    x.mapError f = .error e ↔ ∃ flaw, x = .error flaw ∧ e = f flaw := by
  cases x with
  | ok a => simp [Except.mapError]
  | error flaw => simp [Except.mapError, eq_comm]

theorem check_eq_error_iff : t.check = .error e ↔ t.FirstError e := by
  have either {ε : Type} {x y : Except ε Unit} {e : ε} :
      (x >>= fun _ => y) = .error e ↔ x = .error e ∨ x = .ok () ∧ y = .error e := by
    cases x <;> simp [bind, Except.bind]
  simp only [check, either, mapError_eq_error_iff, mapError_eq_ok_iff, checkTable_eq_ok_iff_safe,
    checkTable_eq_error_iff]
  constructor
  · rintro (⟨_, flawed, rfl⟩ | ⟨first, ⟨_, flawed, rfl⟩ | ⟨second, ⟨_, flawed, rfl⟩ |
      ⟨third, _, flawed, rfl⟩⟩⟩)
    · exact .hostToCommon flawed
    · exact .commonToHost first flawed
    · exact .managedToCommon first second flawed
    · exact .commonToManaged first second third flawed
  · intro error
    cases error with
    | hostToCommon flawed => exact .inl ⟨_, flawed, rfl⟩
    | commonToHost first flawed => exact .inr ⟨first, .inl ⟨_, flawed, rfl⟩⟩
    | managedToCommon first second flawed =>
      exact .inr ⟨first, .inr ⟨second, .inl ⟨_, flawed, rfl⟩⟩⟩
    | commonToManaged first second third flawed =>
      exact .inr ⟨first, .inr ⟨second, .inr ⟨third, _, flawed, rfl⟩⟩⟩

end LevelTables

/-! ### The tables of a mapping -/

namespace LevelMapping

theorem ofTables_eq_error_iff {t : LevelTables} {e : TableError} :
    ofTables t = .error e ↔ t.FirstError e := by
  rw [← LevelTables.check_eq_error_iff]
  unfold ofTables
  split
  · next sound => simp [sound]
  · next flaw => simp [flaw]

variable (t : LevelMapping)

theorem safeTables : t.toLevelTables.Safe := LevelTables.check_eq_ok_iff_safe.mp t.safe

/-- A host level keeps its rank on the common scale, as far as that goes. -/
theorem rank_hostToCommon (l : HostLevel) :
    min (rank l) (rank HostLevel.fatal) ≤ rank (t.hostToCommon l) :=
  t.safeTables.hostToCommon.min_rank_le l

/-- A severity keeps its rank on the host's scale. -/
theorem rank_commonToHost (s : Severity) : rank s ≤ rank (t.commonToHost s) := by
  have kept := t.safeTables.commonToHost.min_rank_le s
  rwa [Nat.min_eq_left s.rank_le_hostTop] at kept

/-- A severity that was written at a host level is reached again by reading that level back. -/
theorem le_hostToCommon_commonToHost (s : Severity) : s ≤ t.hostToCommon (t.commonToHost s) := by
  have through := t.safeTables.commonToHost.min_rank_le_comp t.safeTables.hostToCommon s
  have kept := s.rank_le_hostTop
  have last := s.rank_le_top
  rw [Severity.le_iff_rank]
  omega

/-- A guest's level is not lost on the host's scale, which goes on above both others. -/
theorem rank_le_hostLevel (l : ManagedLevel) : rank l ≤ rank (t.hostLevel l) := by
  have through := t.safeTables.managedToCommon.min_rank_le_comp t.safeTables.commonToHost l
  have common : rank l ≤ rank (top : Severity) := by cases l <;> decide
  have host : rank l ≤ rank (top : HostLevel) := Nat.le_trans common (Severity.rank_le_hostTop _)
  rw [hostLevel]
  omega

/-- **The tables that are accepted are the safe ones, and safety composes.** Of four tables, the
first flaw of the first one that is not safe is reported. Accepted tables keep the order of levels
from guest to host and from host to guest, and lose of a rank only what lies above the scales that
a level passes through. -/
theorem tables_safe_or_flawed (tables : LevelTables) :
    ((∃ t, ofTables tables = .ok t) ↔ tables.Safe) ∧
    (∀ e, ofTables tables = .error e ↔ tables.FirstError e) ∧
    ∀ t, ofTables tables = .ok t → t.toLevelTables = tables ∧
      -- From the guest to the host.
      (∀ a b, position a ≤ position b → position (t.hostLevel a) ≤ position (t.hostLevel b)) ∧
      (∀ l, rank l ≤ rank (t.hostLevel l)) ∧
      -- From the host to the guest.
      (∀ a b, position a ≤ position b →
        position (t.commonToManaged (t.hostToCommon a)) ≤
          position (t.commonToManaged (t.hostToCommon b))) ∧
      (∀ l, min (rank l) (rank (top : ManagedLevel)) ≤
        rank (t.commonToManaged (t.hostToCommon l))) ∧
      -- From the host to the common scale and back.
      ∀ l, min (rank l) (rank Severity.fatal) ≤ rank (t.commonToHost (t.hostToCommon l)) := by
  refine ⟨⟨?_, ?_⟩, fun e => ofTables_eq_error_iff, ?_⟩
  · rintro ⟨t, accepted⟩
    obtain rfl := ofTables_eq_ok_iff.mp accepted
    exact t.safeTables
  · intro safe
    exact ⟨⟨tables, LevelTables.check_eq_ok_iff_safe.mpr safe⟩, ofTables_eq_ok_iff.mpr rfl⟩
  · intro t accepted
    have safe := t.safeTables
    refine ⟨ofTables_eq_ok_iff.mp accepted, ?_, t.rank_le_hostLevel, ?_, ?_, ?_⟩
    · intro a b upward
      exact safe.managedToCommon.ascends_comp safe.commonToHost upward
    · intro a b upward
      exact safe.hostToCommon.ascends_comp safe.commonToManaged upward
    · -- The common scale and the guest's end at the same rank.
      exact safe.hostToCommon.min_rank_le_comp safe.commonToManaged
    · intro l
      have through := safe.hostToCommon.min_rank_le_comp safe.commonToHost l
      have host := Severity.rank_le_hostTop .fatal
      have last : rank (top : Severity) = rank Severity.fatal := rfl
      omega

end LevelMapping

end GuestRoutines
