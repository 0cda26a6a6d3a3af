import GuestRoutines.Json.Record
import GuestRoutines.Proofs.Json.Numeral
import GuestRoutines.Proofs.Text.Named

/-!
# Records with fields left out

Of an object that holds all fields of a record some may be left out and other members put in, and
the order does not matter. Each field that is still there is read as it was, and each other field as
its default.

## Main definitions

* `Json.Edited` — the members that become of some fields
* `Json.Fields.Gives` — values give the fields that were kept

## Main results

* `Json.Edited.exists_gives`, `Json.Fields.get?_eq_some` — what is read of each field
* `Json.asUInt64?_ofInt`, `Json.asUInt32?_ofInt` — numbers are read as they are written
-/

namespace GuestRoutines.Json

/-- The members that become of some fields: those of them that are kept and others that are no
fields, in any order. -/
def Edited (kept : String → Bool) (fields members : List (String × Json)) : Prop :=
  ∃ others, (∀ m ∈ others, m.1 ∉ fields.map (·.1)) ∧
    members.Perm (fields.filter (fun m => kept m.1) ++ others)

/-- Some values give each field that was kept, and no other. -/
def Fields.Gives (f : Fields) (kept : String → Bool) (fields : List (String × Json)) : Prop :=
  ∀ m ∈ fields, f.entries.lookup m.1 = if kept m.1 then some m.2 else none

variable {names : List String} {kept : String → Bool} {fields members : List (String × Json)}
  {name : String} {v : Json}

theorem knownMembers_map_some (names : List String) (members : List (String × Json)) :
    knownMembers names (members.map fun m => (some m.1, m.2)) =
      members.filter fun m => m.1 ∈ names := by
  rw [knownMembers, List.filterMap_map, ← List.filterMap_eq_filter]
  congr
  funext m
  by_cases known : m.1 ∈ names <;> simp [Option.guard, known]

namespace Edited

/-- The members that are fields are those that were kept. -/
theorem filter_perm (edited : Edited kept fields members) :
    (members.filter fun m => m.1 ∈ fields.map (·.1)).Perm (fields.filter fun m => kept m.1) := by
  obtain ⟨others, foreign, same⟩ := edited
  refine (same.filter _).trans (List.Perm.of_eq ?_)
  have none_of_others : others.filter (fun m => m.1 ∈ fields.map (·.1)) = [] :=
    List.filter_eq_nil_iff.mpr fun m member => by simpa using foreign m member
  have all_of_fields : (fields.filter fun m => kept m.1).filter (fun m => m.1 ∈ fields.map (·.1)) =
      fields.filter fun m => kept m.1 :=
    List.filter_eq_self.mpr fun m member =>
      decide_eq_true (List.mem_map_of_mem (List.mem_of_mem_filter member))
  rw [List.filter_append, none_of_others, all_of_fields, List.append_nil]

/-- The values that are read give each field that was kept, and no other. -/
theorem exists_gives (edited : Edited kept fields members) (named : fields.map (·.1) = names)
    (distinct : names.Nodup) :
    ∃ f, (ofMembers members).fields? names = some f ∧ f.Gives kept fields := by
  subst named
  -- Fields that are kept are distinct, and so are the same fields in another order.
  have perm := edited.filter_perm
  have distinct_kept : ((fields.filter fun m => kept m.1).map (·.1)).Nodup :=
    distinct.sublist (List.filter_sublist.map _)
  have distinct_known := (perm.map (·.1)).nodup_iff.mpr distinct_kept
  refine ⟨⟨members.filter fun m => m.1 ∈ fields.map (·.1)⟩, ?_, fun m member => ?_⟩
  · rw [ofMembers, fields?, knownMembers_map_some]
    exact if_pos ⟨by simp, distinct_known⟩
  · split
    · next present =>
      exact lookup_of_mem distinct_known (perm.mem_iff.mpr (List.mem_filter.mpr ⟨member, present⟩))
    · next absent =>
      refine List.lookup_eq_none_iff.mpr fun m' known => bne_iff_ne.mpr fun same => ?_
      exact absent (same ▸ (List.mem_filter.mp (perm.mem_iff.mp known)).2)

/-- All fields are left as they are. -/
theorem refl (fields : List (String × Json)) : Edited (fun _ => true) fields fields :=
  ⟨[], nofun, by simp⟩

/-- All fields are left out. -/
theorem nil (fields : List (String × Json)) : Edited (fun _ => false) fields [] :=
  ⟨[], nofun, by simp⟩

end Edited

/-! ### Single fields -/

/-- A field is read as it was if it was kept, and is its default otherwise. -/
theorem Fields.get?_eq_some {f : Fields} {α : Type} {x : α} {there : Bool}
    {read : Json → Option α} (found : f.entries.lookup name = if there then some v else none)
    (reads : read v = some x) (default : α) :
    f.get? name default read = some (if there then x else default) := by
  rw [Fields.get?, found]
  cases there with
  | true => exact reads
  | false => rfl

theorem asBool?_bool (b : Bool) : (bool b).asBool? = some b := rfl

theorem asBounded?_ofInt {bound n : Nat} (within : n < bound) (word : bound ≤ wordBound) :
    (ofInt n).asBounded? bound = some n := by
  have least : Int64.minValue.toInt ≤ n := Int.le_trans (by decide) (Int.natCast_nonneg n)
  have scalar := Numeral.scalar?_ofInt least (Int.ofNat_lt.mpr (Nat.lt_of_lt_of_le within word))
  simp only [asBounded?, ofInt, scalar]
  rw [if_pos (by omega), Int.toNat_natCast]

theorem asUInt64?_ofInt (n : UInt64) : (ofInt n.toNat).asUInt64? = some n := by
  rw [asUInt64?, asBounded?_ofInt n.toNat_lt (Nat.le_refl _), Option.map_some, UInt64.ofNat_toNat]

theorem asUInt32?_ofInt (n : UInt32) : (ofInt n.toNat).asUInt32? = some n := by
  rw [asUInt32?, asBounded?_ofInt n.toNat_lt (by decide), Option.map_some, UInt32.ofNat_toNat]

end GuestRoutines.Json
