import GuestRoutines.Routine.Id
import GuestRoutines.Text.Blank
import Mathlib.Data.List.TakeWhile

/-!
# The grammar of identifiers

An identifier is one name, or two names with a point between them. The reader cuts a text at its
first point and knows nothing else of the grammar, and yet it takes the identifiers and no other
text. An identifier of two equal names has two spellings, of which the shorter one is written.

## Main definitions

* `Name.Letter`, `IsName` — the letters of names, and names
* `RoutineId.Spells` — a text spells an identifier

## Main results

* `Name.isValid_iff` — the check of names
* `RoutineId.parse_eq_some_iff`, `RoutineId.Spells.unique` — what is read, and that a text spells
  one identifier at most
* `RoutineId.Spells.display_spells` — what is written spells the identifier
* `RoutineId.reads_grammar` — all of it, for every text
-/

namespace GuestRoutines

/-! ### Names -/

/-- The letters of names: those of ASCII, its digits, the underscore and the hyphen. -/
def Name.Letter (c : Char) : Prop :=
  ('A' ≤ c ∧ c ≤ 'Z') ∨ ('a' ≤ c ∧ c ≤ 'z') ∨ ('0' ≤ c ∧ c ≤ '9') ∨ c = '_' ∨ c = '-'

/-- A name is a run of letters that is not empty. -/
structure IsName (s : String) : Prop where
  nonempty : s ≠ ""
  letters : ∀ c ∈ s.toList, Name.Letter c

namespace Name

variable {c : Char} {s : String}

theorem isLetter_iff : isLetter c = true ↔ Letter c := by
  delta isLetter Char.isAlphanum Char.isAlpha Char.isUpper Char.isLower Char.isDigit
  simp only [Letter, Char.le_def, ge_iff_le, Bool.or_eq_true, Bool.and_eq_true, decide_eq_true_eq,
    beq_iff_eq, or_assoc]

/-- The check of a name finds out whether it is one. -/
theorem isValid_iff : isValid s = true ↔ IsName s := by
  simp only [isValid, Bool.and_eq_true, decide_eq_true_eq, List.all_eq_true, isLetter_iff]
  exact ⟨fun h => ⟨h.1, h.2⟩, fun h => ⟨h.1, h.2⟩⟩

theorem Letter.ranges (h : Letter c) :
    (65 ≤ c.toNat ∧ c.toNat ≤ 90) ∨ (97 ≤ c.toNat ∧ c.toNat ≤ 122) ∨
      (48 ≤ c.toNat ∧ c.toNat ≤ 57) ∨ c.toNat = 95 ∨ c.toNat = 45 := by
  rcases h with ⟨lo, hi⟩ | ⟨lo, hi⟩ | ⟨lo, hi⟩ | rfl | rfl
  · exact .inl ⟨lo, hi⟩
  · exact .inr (.inl ⟨lo, hi⟩)
  · exact .inr (.inr (.inl ⟨lo, hi⟩))
  · exact .inr (.inr (.inr (.inl rfl)))
  · exact .inr (.inr (.inr (.inr rfl)))

theorem Letter.ne_point (h : Letter c) : c ≠ '.' := by
  rintro rfl
  have ranges := h.ranges
  simp at ranges

theorem Letter.ne_slash (h : Letter c) : c ≠ '/' := by
  rintro rfl
  have ranges := h.ranges
  simp at ranges

/-- No letter is blank. -/
theorem Letter.not_blank (h : Letter c) : Text.isBlank c = false := by
  have ranges := h.ranges
  simp only [Text.isBlank, Text.blankRanges, List.any_cons, List.any_nil, Bool.or_eq_false_iff,
    Bool.and_eq_false_iff, decide_eq_false_iff_not, and_true]
  omega

end Name

theorem IsName.pointless {s : String} (h : IsName s) : '.' ∉ s.toList :=
  fun point => (h.letters '.' point).ne_point rfl

/-! ### Texts cut at a point -/

namespace RoutineId

variable {s s' : String} {id id' : RoutineId}

theorem parts_of_pointless (pointless : '.' ∉ s.toList) : parts s = (s, s) := by
  have all : s.toList.dropWhile (· != '.') = [] := by
    rw [List.dropWhile_eq_nil_iff]
    intro c member
    simpa using ne_of_mem_of_not_mem member pointless
  simp only [parts, all]

/-- A text with a point is cut there if none comes before it. -/
theorem parts_append_point {first second : String} (pointless : '.' ∉ first.toList) :
    parts (first ++ "." ++ second) = (first, second) := by
  have before : ∀ c ∈ first.toList, (c != '.') = true := by
    intro c member
    simpa using ne_of_mem_of_not_mem member pointless
  have cut : (first ++ "." ++ second).toList = first.toList ++ '.' :: second.toList := by simp
  simp only [parts, cut, List.takeWhile_append_of_pos before, List.dropWhile_append_of_pos before]
  simp

/-- A text has no point, or a first one. -/
theorem pointless_or_cut (s : String) :
    '.' ∉ s.toList ∨ ∃ first second, '.' ∉ first.toList ∧ s = first ++ "." ++ second := by
  by_cases point : '.' ∈ s.toList
  · obtain ⟨before, after, split, pointless⟩ := List.eq_append_cons_of_mem point
    refine .inr ⟨.ofList before, .ofList after, by simpa using pointless, ?_⟩
    apply String.toList_injective
    simpa using split
  · exact .inl point

/-! ### The grammar -/

/-- A text spells an identifier: as one name that stands for both parts, or as the two of them with
a point between. -/
inductive Spells : String → RoutineId → Prop where
  | bare {name : String} (named : IsName name) : Spells name ⟨name, name⟩
  | qualified {module exportName : String} (first : IsName module) (second : IsName exportName) :
      Spells (module ++ "." ++ exportName) ⟨module, exportName⟩

theorem parse_of_parts {first second : String} (cut : parts s = (first, second)) :
    parse s = some id ↔ (IsName first ∧ IsName second) ∧ id = ⟨first, second⟩ := by
  simp only [parse, cut, Name.isValid_iff, Option.ite_none_right_eq_some, Option.some.injEq]
  rw [eq_comm (a := id)]

/-- Reading accepts exactly the texts that spell an identifier. -/
theorem parse_eq_some_iff : parse s = some id ↔ Spells s id := by
  constructor
  · intro read
    rcases pointless_or_cut s with pointless | ⟨first, second, pointless, rfl⟩
    · obtain ⟨⟨named, -⟩, rfl⟩ := (parse_of_parts (parts_of_pointless pointless)).mp read
      exact .bare named
    · obtain ⟨⟨named, named'⟩, rfl⟩ := (parse_of_parts (parts_append_point pointless)).mp read
      exact .qualified named named'
  · intro spelled
    cases spelled with
    | bare named =>
      exact (parse_of_parts (parts_of_pointless named.pointless)).mpr ⟨⟨named, named⟩, rfl⟩
    | qualified first second =>
      exact (parse_of_parts (parts_append_point first.pointless)).mpr ⟨⟨first, second⟩, rfl⟩

theorem parse_eq_none_iff : parse s = none ↔ ∀ id, ¬ Spells s id := by
  simp only [← parse_eq_some_iff, Option.eq_none_iff_forall_ne_some, ne_eq]

namespace Spells

/-- A text spells one identifier at most. -/
theorem unique (h : Spells s id) (h' : Spells s id') : id = id' :=
  Option.some.inj ((parse_eq_some_iff.mpr h).symm.trans (parse_eq_some_iff.mpr h'))

theorem names (h : Spells s id) : IsName id.module ∧ IsName id.exportName := by
  cases h with
  | bare named => exact ⟨named, named⟩
  | qualified first second => exact ⟨first, second⟩

/-- An identifier is spelled with letters, and with a point between its parts. -/
theorem letter_or_point (h : Spells s id) {c : Char} (member : c ∈ s.toList) :
    Name.Letter c ∨ c = '.' := by
  cases h with
  | bare named => exact .inl (named.letters c member)
  | qualified first second =>
    simp only [String.toList_append, List.mem_append] at member
    rcases member with (before | point) | after
    · exact .inl (first.letters c before)
    · exact .inr (by simpa using point)
    · exact .inl (second.letters c after)

theorem count_point_le (h : Spells s id) : s.toList.count '.' ≤ 1 := by
  cases h with
  | bare named => simp [List.count_eq_zero.mpr named.pointless]
  | qualified first second =>
    simp [List.count_eq_zero.mpr first.pointless, List.count_eq_zero.mpr second.pointless]

/-- Equal names are written once. -/
theorem display_of_twice {name : String} (h : Spells (name ++ "." ++ name) id) :
    id.display = name := by
  have pointless : '.' ∉ name.toList := by
    intro point
    have few := h.count_point_le
    have some_point := List.count_pos_iff.mpr point
    simp at few
    omega
  obtain ⟨-, rfl⟩ := (parse_of_parts (parts_append_point pointless)).mp (parse_eq_some_iff.mpr h)
  exact if_pos rfl

/-- Any other identifier is written as it was spelled. -/
theorem display_of_once (h : Spells s id) (once : ∀ name, s ≠ name ++ "." ++ name) :
    id.display = s := by
  cases h with
  | bare named => exact if_pos rfl
  | @qualified module exportName first second =>
    refine if_neg ?_
    rintro (rfl : module = exportName)
    exact once module rfl

/-- What is written spells the identifier. -/
theorem display_spells (h : Spells s id) : Spells id.display id := by
  obtain ⟨module, exportName⟩ := id
  obtain ⟨first, second⟩ := h.names
  unfold display
  split
  · next same =>
    obtain rfl : module = exportName := same
    exact .bare first
  · exact .qualified first second

end Spells

/-- Neither part of an identifier is empty. -/
theorem parse_of_empty_part (t : String) :
    parse "" = none ∧ parse ("." ++ t) = none ∧ parse (t ++ ".") = none := by
  have unnamed : ¬ IsName "" := fun named => named.nonempty rfl
  have first : parse ("" ++ "." ++ t) = none := by
    rw [Option.eq_none_iff_forall_ne_some]
    intro id read
    exact unnamed ((parse_of_parts (parts_append_point (by simp))).mp read).1.1
  refine ⟨rfl, by simpa using first, ?_⟩
  rw [Option.eq_none_iff_forall_ne_some]
  intro id read
  by_cases point : '.' ∈ t.toList
  · -- With the one at the end there are two points.
    have few := (parse_eq_some_iff.mp read).count_point_le
    have some_point := List.count_pos_iff.mpr point
    simp at few
    omega
  · have cut : parts (t ++ "." ++ "") = (t, "") := parts_append_point point
    rw [String.append_empty] at cut
    exact unnamed ((parse_of_parts cut).mp read).1.2

/-- **Reading accepts the grammar and nothing else, and writing is canonical.** A text is read as
the identifier that it spells. Two points, an empty part, a blank or a character beyond ASCII make it
no identifier. What is written is read back as the same identifier. It is the text that was read,
but for equal names, which are written once, so that identifiers are told apart by how they are
written. -/
theorem reads_grammar (s : String) :
    (∀ id, parse s = some id ↔ Spells s id) ∧
    -- What is refused.
    (2 ≤ s.toList.count '.' → parse s = none) ∧
    (∀ t, s = "" ∨ s = "." ++ t ∨ s = t ++ "." → parse s = none) ∧
    (∀ c ∈ s.toList, Text.isBlank c = true ∨ 128 ≤ c.toNat → parse s = none) ∧
    -- What is written.
    ∀ id, parse s = some id →
      parse id.display = some id ∧
      (∀ name, s = name ++ "." ++ name → id.display = name) ∧
      ((∀ name, s ≠ name ++ "." ++ name) → id.display = s) ∧
      ∀ s' id', parse s' = some id' → (id = id' ↔ id.display = id'.display) := by
  refine ⟨fun id => parse_eq_some_iff, fun many => ?_, ?_, fun c member odd => ?_,
    fun id read => ?_⟩
  · refine parse_eq_none_iff.mpr fun id spelled => ?_
    have few := spelled.count_point_le
    omega
  · rintro t (rfl | rfl | rfl)
    · exact (parse_of_empty_part t).1
    · exact (parse_of_empty_part t).2.1
    · exact (parse_of_empty_part t).2.2
  · refine parse_eq_none_iff.mpr fun id spelled => ?_
    rcases spelled.letter_or_point member with letter | rfl
    · have ranges := letter.ranges
      rcases odd with blank | beyond
      · simp [letter.not_blank] at blank
      · omega
    · revert odd
      decide
  · have spelled := parse_eq_some_iff.mp read
    have back : parse id.display = some id := parse_eq_some_iff.mpr spelled.display_spells
    refine ⟨back, ?_, spelled.display_of_once, fun s' id' read' => ⟨congrArg display, ?_⟩⟩
    · rintro name rfl
      exact spelled.display_of_twice
    · -- Two identifiers that are written alike are both read back from that text.
      intro same
      have back' := (parse_eq_some_iff.mp read').display_spells
      rw [← same] at back'
      exact spelled.display_spells.unique back'

end RoutineId

end GuestRoutines
