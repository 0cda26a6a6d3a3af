import GuestRoutines.Proofs.Number.Decimal
import Mathlib.Data.List.TakeWhile

/-!
# The grammar of bounded unsigned numbers

A text spells a number as a run of digits, with a plus sign before it or without one. The reader
goes from the left and stops at the first thing that is wrong: at a digit with which the number
comes to the bound, or at a character that is no digit. Nothing that stands behind that place
matters.

## Main definitions

* `Unsigned.IsRun` — a run of digits
* `Unsigned.Spells` — a text spells a number
* `Unsigned.Overflows` — the digits at the start of a text come to the bound

## Main results

* `Unsigned.parse_eq_ok_iff` — what is read
* `Unsigned.parse_eq_empty_iff`, `Unsigned.parse_eq_tooLarge_iff`,
  `Unsigned.parse_eq_invalidDigit_iff` — what is reported of any other text
-/

namespace GuestRoutines.Unsigned

/-- A run of digits, of which there is at least one. -/
structure IsRun (ds : List Char) : Prop where
  nonempty : ds ≠ []
  digits : ∀ c ∈ ds, c.isDigit

/-- A text spells the number that its digits denote. -/
inductive Spells : List Char → Nat → Prop where
  | bare {ds : List Char} (run : IsRun ds) : Spells ds (Nat.ofDigitChars 10 ds 0)
  | signed {ds : List Char} (run : IsRun ds) : Spells ('+' :: ds) (Nat.ofDigitChars 10 ds 0)

/-- The digits at the start of a text denote a number that is not below the bound, whatever comes
after them. -/
inductive Overflows (bound : Nat) : List Char → Prop where
  | bare {ds : List Char} (run : IsRun ds) (past : bound ≤ Nat.ofDigitChars 10 ds 0)
      (rest : List Char) : Overflows bound (ds ++ rest)
  | signed {ds : List Char} (run : IsRun ds) (past : bound ≤ Nat.ofDigitChars 10 ds 0)
      (rest : List Char) : Overflows bound ('+' :: (ds ++ rest))

/-- The text behind a plus sign, if it begins with one. -/
def unsigned : List Char → List Char
  | '+' :: cs => cs
  | cs => cs

variable {bound n m : Nat} {cs ds rest : List Char}

/-! ### Signs -/

theorem unsigned_of_ne (other : ∀ rest, cs ≠ '+' :: rest) : unsigned cs = cs := by
  unfold unsigned
  split
  · next rest => exact absurd rfl (other rest)
  · rfl

theorem IsRun.unsigned_append (run : IsRun ds) (rest : List Char) :
    unsigned (ds ++ rest) = ds ++ rest := by
  apply unsigned_of_ne
  intro others same
  cases ds with
  | nil => exact run.nonempty rfl
  | cons d ds =>
    have digit := run.digits d List.mem_cons_self
    obtain rfl : d = '+' := (List.cons.inj same).1
    cases digit

theorem spells_iff :
    Spells cs n ↔ IsRun (unsigned cs) ∧ Nat.ofDigitChars 10 (unsigned cs) 0 = n := by
  constructor
  · rintro (run | run)
    · -- A run of digits does not begin with a sign.
      have same := run.unsigned_append []
      rw [List.append_nil] at same
      rw [same]
      exact ⟨run, rfl⟩
    · exact ⟨run, rfl⟩
  · rintro ⟨run, rfl⟩
    by_cases sign : ∃ rest, cs = '+' :: rest
    · obtain ⟨rest, rfl⟩ := sign
      exact .signed run
    · have same := unsigned_of_ne (not_exists.mp sign)
      rw [same] at run ⊢
      exact .bare run

theorem overflows_iff :
    Overflows bound cs ↔
      ∃ ds rest, IsRun ds ∧ bound ≤ Nat.ofDigitChars 10 ds 0 ∧ unsigned cs = ds ++ rest := by
  constructor
  · rintro (⟨run, past, rest⟩ | ⟨run, past, rest⟩)
    · exact ⟨_, rest, run, past, run.unsigned_append rest⟩
    · exact ⟨_, rest, run, past, rfl⟩
  · rintro ⟨ds, rest, run, past, split⟩
    by_cases sign : ∃ rest, cs = '+' :: rest
    · obtain ⟨others, rfl⟩ := sign
      obtain rfl : others = ds ++ rest := split
      exact .signed run past rest
    · rw [unsigned_of_ne (not_exists.mp sign)] at split
      exact split ▸ .bare run past rest

/-- A text that is not empty and not a lone sign is read as its digits. -/
theorem parse_eq (bound : Nat) (cs : List Char) :
    parse bound cs =
      if cs = [] then .error .empty
      else if unsigned cs = [] then .error .invalidDigit
      else scan bound 0 (unsigned cs) := by
  unfold parse
  split
  · rfl
  · rfl
  · next ds other =>
    have nonempty : ds ≠ [] := by
      rintro rfl
      exact other rfl
    simp [unsigned, nonempty]
  · next empty lone other =>
    have same : unsigned cs = cs := unsigned_of_ne fun rest => other rest
    have nonempty : cs ≠ [] := empty
    rw [same, if_neg nonempty, if_neg nonempty]

/-! ### Digits -/

/-- What reading comes to is decided by the longest run of digits at the start. -/
theorem scan_eq (below : n < bound) (cs : List Char) :
    scan bound n cs =
      if Nat.ofDigitChars 10 (cs.takeWhile Char.isDigit) n < bound then
        if cs.all Char.isDigit then .ok (Nat.ofDigitChars 10 cs n) else .error .invalidDigit
      else .error .tooLarge := by
  have digits : ∀ c ∈ cs.takeWhile Char.isDigit, c.isDigit := fun _ => List.mem_takeWhile_imp
  have scanned := scan_append digits below (cs.dropWhile Char.isDigit)
  rw [List.takeWhile_append_dropWhile] at scanned
  rw [scanned]
  refine if_congr Iff.rfl ?_ rfl
  -- Behind the run stands nothing, or a character that is no digit.
  cases after : cs.dropWhile Char.isDigit with
  | nil =>
    have all : ∀ c ∈ cs, c.isDigit := List.dropWhile_eq_nil_iff.mp after
    rw [if_pos (List.all_eq_true.mpr all), List.takeWhile_eq_self_iff.mpr all]
    rfl
  | cons c others =>
    have other : c.isDigit = false := by
      have first := List.head?_dropWhile_not Char.isDigit cs
      rwa [after] at first
    have some_other : ¬ cs.all Char.isDigit := by
      intro all
      rw [List.dropWhile_eq_nil_iff.mpr (List.all_eq_true.mp all)] at after
      cases after
    rw [if_neg some_other, scan, other]
    rfl

theorem scan_eq_ok_iff (below : n < bound) :
    scan bound n cs = .ok m ↔
      (∀ c ∈ cs, c.isDigit) ∧ Nat.ofDigitChars 10 cs n = m ∧ m < bound := by
  constructor
  · intro read
    rw [scan_eq below] at read
    split at read
    · next fits =>
      split at read
      · next all =>
        obtain rfl := Except.ok.inj read
        rw [List.all_eq_true] at all
        rw [List.takeWhile_eq_self_iff.mpr all] at fits
        exact ⟨all, rfl, fits⟩
      · cases read
    · cases read
  · rintro ⟨all, rfl, fits⟩
    rw [scan_of_digits all below, if_pos fits]

theorem scan_eq_tooLarge_iff (below : n < bound) :
    scan bound n cs = .error .tooLarge ↔
      ∃ ds rest, (∀ c ∈ ds, c.isDigit) ∧ bound ≤ Nat.ofDigitChars 10 ds n ∧ cs = ds ++ rest := by
  constructor
  · intro read
    rw [scan_eq below] at read
    split at read
    · split at read <;> cases read
    · next past =>
      exact ⟨_, _, fun _ => List.mem_takeWhile_imp, Nat.not_lt.mp past,
        List.takeWhile_append_dropWhile.symm⟩
  · rintro ⟨ds, rest, digits, past, rfl⟩
    rw [scan_append digits below, if_neg (Nat.not_lt.mpr past)]

theorem scan_ne_empty (below : n < bound) : scan bound n cs ≠ .error .empty := by
  rw [scan_eq below]
  split
  · split <;> exact nofun
  · exact nofun

/-! ### Numbers -/

/-- A text is read as the number that it spells, if that is below the bound. -/
theorem parse_eq_ok_iff (positive : 0 < bound) :
    parse bound cs = .ok n ↔ Spells cs n ∧ n < bound := by
  rw [parse_eq, spells_iff]
  split
  · next empty =>
    subst empty
    exact ⟨nofun, fun h => absurd rfl h.1.1.nonempty⟩
  · split
    · next lone => exact ⟨nofun, fun h => absurd lone h.1.1.nonempty⟩
    · next some_rest =>
      rw [scan_eq_ok_iff positive]
      constructor
      · rintro ⟨digits, denotes, fits⟩
        exact ⟨⟨⟨some_rest, digits⟩, denotes⟩, fits⟩
      · rintro ⟨⟨run, denotes⟩, fits⟩
        exact ⟨run.digits, denotes, fits⟩

theorem parse_eq_empty_iff (positive : 0 < bound) : parse bound cs = .error .empty ↔ cs = [] := by
  rw [parse_eq]
  split
  · next empty => exact ⟨fun _ => empty, fun _ => rfl⟩
  · next nonempty =>
    refine ⟨fun read => ?_, fun empty => absurd empty nonempty⟩
    split at read
    · cases read
    · exact absurd read (scan_ne_empty positive)

/-- The number is too large if it is so at some digit, even if a character that is no digit comes
later. -/
theorem parse_eq_tooLarge_iff (positive : 0 < bound) :
    parse bound cs = .error .tooLarge ↔ Overflows bound cs := by
  rw [parse_eq, overflows_iff]
  split
  · next empty =>
    subst empty
    refine ⟨nofun, ?_⟩
    rintro ⟨ds, rest, run, -, split⟩
    exact absurd (List.append_eq_nil_iff.mp split.symm).1 run.nonempty
  · split
    · next lone =>
      refine ⟨nofun, ?_⟩
      rintro ⟨ds, rest, run, -, split⟩
      exact absurd (List.append_eq_nil_iff.mp (lone ▸ split.symm)).1 run.nonempty
    · rw [scan_eq_tooLarge_iff positive]
      constructor
      · rintro ⟨ds, rest, digits, past, split⟩
        -- No digits at all denote zero, which is below the bound.
        have nonempty : ds ≠ [] := by
          rintro rfl
          exact absurd past (Nat.not_le.mpr positive)
        exact ⟨ds, rest, ⟨nonempty, digits⟩, past, split⟩
      · rintro ⟨ds, rest, run, past, split⟩
        exact ⟨ds, rest, run.digits, past, split⟩

/-- Whatever else is wrong is a character that is no digit, or that there is no digit. -/
theorem parse_eq_invalidDigit_iff (positive : 0 < bound) :
    parse bound cs = .error .invalidDigit ↔
      cs ≠ [] ∧ (∀ n < bound, ¬ Spells cs n) ∧ ¬ Overflows bound cs := by
  rw [← parse_eq_tooLarge_iff positive, Ne, ← parse_eq_empty_iff positive]
  constructor
  · intro read
    refine ⟨by rw [read]; exact nofun, fun n fits spelled => ?_, by rw [read]; exact nofun⟩
    rw [(parse_eq_ok_iff positive).mpr ⟨spelled, fits⟩] at read
    cases read
  · rintro ⟨nonempty, unspelled, fits⟩
    cases read : parse bound cs with
    | ok n =>
      obtain ⟨spelled, below⟩ := (parse_eq_ok_iff positive).mp read
      exact absurd spelled (unspelled n below)
    | error fault =>
      cases fault with
      | empty => exact absurd read nonempty
      | tooLarge => exact absurd read fits
      | invalidDigit => rfl

end GuestRoutines.Unsigned
