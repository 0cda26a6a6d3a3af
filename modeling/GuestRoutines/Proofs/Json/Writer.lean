import GuestRoutines.Proofs.Json.Reader
import Mathlib.Data.List.Forall2

/-!
# What is written is read back

The compact text of a value spells the value, if all its texts are there and the digits of its
numerals could have been read.

## Main definitions

* `Json.IsWritable` — a value that has a text

## Main results

* `Json.IsWritable.spells_compact` — the compact text spells the value
-/

namespace GuestRoutines.Json

mutual

/-- Every text of the value is there, and its numerals are well formed. -/
def IsWritable : Json → Prop
  | null | bool _ => True
  | number n => n.IsWellFormed
  | text s => s.isSome
  | array items => AreWritable items
  | object members => MembersWritable members

/-- Every value of a list is writable. -/
def AreWritable : List Json → Prop
  | [] => True
  | v :: vs => v.IsWritable ∧ AreWritable vs

/-- Every key of a list of members is there, and every value writable. -/
def MembersWritable : List (Option String × Json) → Prop
  | [] => True
  | (k, v) :: ms => k.isSome ∧ v.IsWritable ∧ MembersWritable ms

end

/-- Parts with commas between them are written in their tokens with commas between them. -/
theorem written_intercalate {parts : List (List Char)} {tss : List (List Token)}
    (written : List.Forall₂ Written parts tss) :
    Written ([','].intercalate parts) (List.intercalate [.comma] tss) := by
  induction written with
  | nil => exact .nil nofun
  | cons first others ih =>
    cases others with
    | nil => simpa using first
    | cons second others =>
      rw [List.intercalate_cons_cons, List.intercalate_cons_cons]
      exact (first.append Token.Spells.comma.written).append ih

theorem quoted_quoteOption {s : Option String} (there : s.isSome) :
    Quoted (quoteOption s).toList s := by
  obtain ⟨s, rfl⟩ := Option.isSome_iff_exists.mp there
  exact quoted_quote s

mutual

theorem IsWritable.written {v : Json} (writable : v.IsWritable) :
    Written v.compact.toList v.tokens := by
  cases v with
  | null => exact Token.Spells.null.written
  | bool b =>
    have written := (Token.Spells.bool b).written
    cases b <;> exact written
  | number n => exact (Token.Spells.number writable.spells_text).written
  | text s => exact (Token.Spells.text (quoted_quoteOption writable)).written
  | array items =>
    have written := written_intercalate (AreWritable.written writable)
    have inner := written.append Token.Spells.arrayClose.written
    simpa [compact, tokens] using Token.Spells.arrayOpen.written.append inner
  | object members =>
    have written := written_intercalate (MembersWritable.written writable)
    have inner := written.append Token.Spells.objectClose.written
    simpa [compact, tokens] using Token.Spells.objectOpen.written.append inner

theorem AreWritable.written {items : List Json} (writable : AreWritable items) :
    List.Forall₂ Written ((compactItems items).map String.toList) (itemTokens items) := by
  cases items with
  | nil => exact .nil
  | cons v vs => exact .cons (IsWritable.written writable.1) (AreWritable.written writable.2)

theorem MembersWritable.written {members : List (Option String × Json)}
    (writable : MembersWritable members) :
    List.Forall₂ Written ((compactMembers members).map String.toList) (memberTokens members) := by
  cases members with
  | nil => exact .nil
  | cons m ms =>
    obtain ⟨k, v⟩ := m
    obtain ⟨there, writable, others⟩ := writable
    have key := (Token.Spells.text (quoted_quoteOption there)).written
    have member := (key.append Token.Spells.colon.written).append (IsWritable.written writable)
    refine .cons ?_ (MembersWritable.written others)
    simpa using member

end

/-- The compact text of a value spells it. -/
theorem IsWritable.spells_compact {v : Json} (writable : v.IsWritable) : Spells v.compact v :=
  writable.written

/-- An object is writable if the values of its members are. -/
theorem isWritable_ofMembers {members : List (String × Json)}
    (writable : ∀ m ∈ members, m.2.IsWritable) : (ofMembers members).IsWritable := by
  rw [ofMembers, IsWritable]
  induction members with
  | nil => trivial
  | cons m members ih =>
    obtain ⟨first, others⟩ := List.forall_mem_cons.mp writable
    exact ⟨rfl, first, ih others⟩

theorem isWritable_ofInt (n : Int) : (ofInt n).IsWritable := Numeral.isWellFormed_ofInt n

end GuestRoutines.Json
