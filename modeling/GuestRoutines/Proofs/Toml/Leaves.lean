import GuestRoutines.Toml.Value
import Mathlib.Data.List.Basic

/-!
# The leaves of a table

The members of a table that are tables again are walked in the same way, and what is left are the
leaves, each under the names that lead to it. The members of a table are walked in their order. If
that is the order of their names at each level, the leaves come in the order of their paths.

## Main definitions

* `Toml.leavesOf` — the leaves of a table
* `Toml.Ordered` — in a table and in all those below it the names are in order

## Main results

* `Toml.mem_leavesOf` — a leaf is a member, or a leaf of a member
* `Toml.Ordered.leaves_increase` — the paths of the leaves are in order
-/

namespace GuestRoutines.Toml

mutual

/-- The leaves of a value, under the names that lead to them. -/
def Value.leaves : Value → List (List String × Value)
  | .table ms => leavesOf ms
  | v => [([], v)]

/-- The leaves of the members of a table, one member after the other. -/
def leavesOf : List (String × Value) → List (List String × Value)
  | [] => []
  | (name, v) :: rest => v.leaves.map (fun l => (name :: l.1, l.2)) ++ leavesOf rest

end

/-- The names of a table are in order and all different, and so are those of the tables in it. -/
inductive Ordered : Members → Prop where
  | intro {ms : Members} (names : (ms.map (·.1)).Pairwise (· < ·))
      (inner : ∀ name within, (name, .table within) ∈ ms → Ordered within) : Ordered ms

variable {ms : Members} {l : List String × Value}

theorem leavesOf_eq_flatMap (ms : Members) :
    leavesOf ms = ms.flatMap fun m => m.2.leaves.map fun l => (m.1 :: l.1, l.2) := by
  induction ms with
  | nil => simp [leavesOf]
  | cons m ms ih => simp [leavesOf, ih]

theorem Value.leaves_cases (v : Value) :
    (∃ within, v = .table within ∧ v.leaves = leavesOf within) ∨ v.leaves = [([], v)] := by
  cases v with
  | table within => exact .inl ⟨within, rfl, by rw [leaves]⟩
  | _ => exact .inr (by simp [leaves])

/-- A leaf of a table is a leaf of one of its members, under the name of that member. -/
theorem mem_leavesOf :
    l ∈ leavesOf ms ↔
      ∃ name v path, (name, v) ∈ ms ∧ (path, l.2) ∈ v.leaves ∧ l.1 = name :: path := by
  rw [leavesOf_eq_flatMap, List.mem_flatMap]
  constructor
  · rintro ⟨⟨name, v⟩, member, found⟩
    obtain ⟨⟨path, leaf⟩, below, rfl⟩ := List.mem_map.mp found
    exact ⟨name, v, path, member, below, rfl⟩
  · rintro ⟨name, v, path, member, below, same⟩
    exact ⟨(name, v), member, List.mem_map.mpr ⟨_, below, Prod.ext same.symm rfl⟩⟩

/-- Every leaf of a table has a name. -/
theorem path_ne_nil (leaf : l ∈ leavesOf ms) : l.1 ≠ [] := by
  obtain ⟨name, v, path, -, -, same⟩ := mem_leavesOf.mp leaf
  rw [same]
  exact List.cons_ne_nil name path

/-- The paths of the leaves are in order if the names are. -/
theorem Ordered.leaves_increase (h : Ordered ms) : (leavesOf ms).Pairwise fun a b => a.1 < b.1 := by
  induction h with
  | @intro ms names inner ih =>
    rw [leavesOf_eq_flatMap, List.pairwise_flatMap]
    constructor
    · rintro ⟨name, v⟩ member
      rw [List.pairwise_map]
      rcases v.leaves_cases with ⟨within, rfl, leaves⟩ | leaf
      · rw [leaves]
        refine (ih name within member).imp fun {a b} before => ?_
        exact List.cons_lt_cons_iff.mpr (.inr ⟨rfl, before⟩)
      · rw [leaf]
        exact List.pairwise_singleton _ _
    · -- The first names decide between the leaves of two members.
      rw [List.pairwise_map] at names
      refine names.imp fun {m m'} before => ?_
      intro a left b right
      obtain ⟨l, -, rfl⟩ := List.mem_map.mp left
      obtain ⟨l', -, rfl⟩ := List.mem_map.mp right
      exact List.cons_lt_cons_iff.mpr (.inl before)

end GuestRoutines.Toml
