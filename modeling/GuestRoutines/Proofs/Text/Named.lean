import Mathlib.Data.List.Nodup

/-!
# Lists of named entries

Catalogs and tables are lists of entries with a name each. An entry is found by its name, and a
list can be put in the order of the names.

## Main results

* `lookup_filter_ne` — what is found when the entries of a name are dropped
* `mem_map_fst_iff_lookup`, `mem_of_lookup`, `lookup_of_mem` — what is found is in the list
* `pairwise_mergeSort` — sorting by names that are all different
-/

namespace GuestRoutines

variable {α : Type} {l : List (String × α)}

theorem lookup_filter_ne (name other : String) :
    (l.filter (·.1 != name)).lookup other = if other = name then none else l.lookup other := by
  induction l with
  | nil => simp
  | cons entry l ih =>
    obtain ⟨key, a⟩ := entry
    by_cases dropped : key = name
    · -- The entry is of the name itself, so it tells nothing of any other name.
      subst dropped
      rw [List.filter_cons_of_neg (by simp), ih, List.lookup_cons]
      by_cases same : other = key
      · simp [same]
      · simp [same, beq_eq_false_iff_ne.mpr same]
    · rw [List.filter_cons_of_pos (by simpa using dropped), List.lookup_cons, List.lookup_cons, ih]
      by_cases same : other = key
      · simp [same, dropped]
      · simp [beq_eq_false_iff_ne.mpr same]

theorem map_fst_filter_ne (name : String) :
    (l.filter (·.1 != name)).map (·.1) = (l.map (·.1)).filter (· != name) := by
  rw [List.filter_map]
  rfl

theorem mem_map_fst_iff_lookup {name : String} :
    name ∈ l.map (·.1) ↔ (l.lookup name).isSome := by
  rw [List.lookup_isSome_iff, List.mem_map]
  constructor
  · rintro ⟨entry, member, rfl⟩
    exact ⟨entry, member, beq_self_eq_true _⟩
  · rintro ⟨entry, member, same⟩
    exact ⟨entry, member, (eq_of_beq same).symm⟩

/-- What is found under a name is an entry of that name. -/
theorem mem_of_lookup {name : String} {a : α} (found : l.lookup name = some a) : (name, a) ∈ l := by
  obtain ⟨before, after, rfl, -⟩ := List.lookup_eq_some_iff.mp found
  simp

theorem lookup_of_mem {name : String} {a : α} (once : (l.map (·.1)).Nodup)
    (member : (name, a) ∈ l) : l.lookup name = some a := by
  obtain ⟨before, after, rfl⟩ := List.append_of_mem member
  refine List.lookup_eq_some_iff.mpr ⟨before, after, rfl, fun entry earlier => bne_iff_ne.mpr ?_⟩
  rw [List.map_append, List.nodup_append] at once
  exact (once.2.2 entry.1 (List.mem_map_of_mem earlier) name (by simp)).symm

/-- Sorted by names of which none stands twice, no two are at the same place of the order. -/
theorem pairwise_mergeSort (name : α → String) {as : List α} (once : (as.map name).Nodup) :
    ((as.mergeSort fun a b => decide (name a ≤ name b)).map name).Pairwise (· < ·) := by
  have trans (a b c : α) (ab : decide (name a ≤ name b) = true)
      (bc : decide (name b ≤ name c) = true) : decide (name a ≤ name c) = true :=
    decide_eq_true (String.le_trans (of_decide_eq_true ab) (of_decide_eq_true bc))
  have total (a b : α) : (decide (name a ≤ name b) || decide (name b ≤ name a)) = true := by
    simpa using String.le_total (name a) (name b)
  have sorted : ((as.mergeSort fun a b => decide (name a ≤ name b)).map name).Pairwise (· ≤ ·) := by
    refine List.pairwise_map.mpr ((List.pairwise_mergeSort trans total as).imp ?_)
    intro a b le
    exact of_decide_eq_true le
  have same := ((List.mergeSort_perm as fun a b => decide (name a ≤ name b)).map name).nodup_iff
  refine sorted.imp₂ (fun x y le ne => ?_) (same.mpr once)
  exact String.not_le.mp fun ge => ne (String.le_antisymm le ge)

end GuestRoutines
