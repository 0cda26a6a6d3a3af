import GuestRoutines.Text.Blank
import Mathlib.Data.List.TakeWhile

/-!
# Texts without their outer blanks

Trimming takes away the blanks at both ends of a text, and nothing from between them: a character
that is no blank keeps everything behind it from being trimmed from the start, and everything before
it from being trimmed from the end.

## Main definitions

* `Text.Trims` — a text is another one with blanks around it

## Main results

* `Text.trims_iff` — trimming gives this text, and there is no other
* `Text.trimStart_append_cons`, `Text.trimEnd_append_cons` — a character that is no blank
-/

namespace GuestRoutines.Text

variable {cs core before after rest : List Char} {c : Char}

/-! ### One end -/

/-- Nothing behind a character that is no blank is trimmed from the start. -/
theorem trimStart_append_cons (unblank : isBlank c = false) (cs rest : List Char) :
    trimStart (cs ++ c :: rest) = trimStart cs ++ c :: rest := by
  have stops : (c :: rest).dropWhile isBlank = c :: rest :=
    List.dropWhile_cons_of_neg (by simp [unblank])
  simp only [trimStart, List.dropWhile_append, stops]
  split
  · next empty => rw [List.isEmpty_iff.mp empty, List.nil_append]
  · rfl

theorem trimEnd_eq_reverse (cs : List Char) : trimEnd cs = (trimStart cs.reverse).reverse := rfl

/-- Nothing before a character that is no blank is trimmed from the end. -/
theorem trimEnd_append_cons (unblank : isBlank c = false) (cs rest : List Char) :
    trimEnd (rest ++ c :: cs) = rest ++ c :: trimEnd cs := by
  have backwards : (rest ++ c :: cs).reverse = cs.reverse ++ c :: rest.reverse := by simp
  rw [trimEnd_eq_reverse, backwards, trimStart_append_cons unblank, trimEnd_eq_reverse]
  simp

theorem trimStart_append_of_blank (blank : ∀ c ∈ before, isBlank c = true) (cs : List Char) :
    trimStart (before ++ cs) = trimStart cs :=
  List.dropWhile_append_of_pos blank

theorem trimEnd_append_of_blank (blank : ∀ c ∈ after, isBlank c = true) (cs : List Char) :
    trimEnd (cs ++ after) = trimEnd cs := by
  have backwards : ∀ c ∈ after.reverse, isBlank c = true := by simpa using blank
  rw [trimEnd_eq_reverse, List.reverse_append, trimStart_append_of_blank backwards,
    trimEnd_eq_reverse]

theorem trimStart_eq_self (first : ∀ c ∈ cs.head?, isBlank c = false) : trimStart cs = cs := by
  cases cs with
  | nil => rfl
  | cons c cs => exact trimStart_append_cons (first c rfl) [] cs

theorem trimEnd_eq_self (last : ∀ c ∈ cs.getLast?, isBlank c = false) : trimEnd cs = cs := by
  have first : ∀ c ∈ cs.reverse.head?, isBlank c = false := by simpa using last
  rw [trimEnd_eq_reverse, trimStart_eq_self first, List.reverse_reverse]

/-- A text without blanks is not trimmed. -/
theorem trimChars_eq_self (unblank : ∀ c ∈ cs, isBlank c = false) : trimChars cs = cs := by
  have start : trimStart cs = cs :=
    trimStart_eq_self fun c head => unblank c (List.mem_of_head? head)
  rw [trimChars, start, trimEnd_eq_self fun c last => unblank c (List.mem_of_getLast? last)]

theorem trimStart_eq_nil (blank : ∀ c ∈ cs, isBlank c = true) : trimStart cs = [] :=
  List.dropWhile_eq_nil_iff.mpr blank

/-! ### Both ends -/

/-- A text stands between blanks, and neither of its ends is blank. -/
structure Trims (cs core : List Char) : Prop where
  around : ∃ before after, (∀ c ∈ before, isBlank c = true) ∧ (∀ c ∈ after, isBlank c = true) ∧
    cs = before ++ core ++ after
  first : ∀ c ∈ core.head?, isBlank c = false
  last : ∀ c ∈ core.getLast?, isBlank c = false

/-- A text is cut into the blanks at its start and the rest. -/
theorem exists_trimStart (cs : List Char) :
    ∃ before, (∀ c ∈ before, isBlank c = true) ∧ cs = before ++ trimStart cs ∧
      ∀ c ∈ (trimStart cs).head?, isBlank c = false := by
  refine ⟨cs.takeWhile isBlank, fun _ => List.mem_takeWhile_imp,
    List.takeWhile_append_dropWhile.symm, fun c head => ?_⟩
  have stops := List.head?_dropWhile_not isBlank cs
  rw [trimStart, Option.mem_def] at head
  rwa [head] at stops

theorem exists_trimEnd (cs : List Char) :
    ∃ after, (∀ c ∈ after, isBlank c = true) ∧ cs = trimEnd cs ++ after ∧
      ∀ c ∈ (trimEnd cs).getLast?, isBlank c = false := by
  obtain ⟨before, blank, split, first⟩ := exists_trimStart cs.reverse
  refine ⟨before.reverse, by simpa using blank, ?_, by simpa [trimEnd_eq_reverse] using first⟩
  rw [trimEnd_eq_reverse, ← List.reverse_append, ← split, List.reverse_reverse]

/-- Trimming gives the text that stands between the outer blanks, and there is no other. -/
theorem trims_iff : Trims cs core ↔ trimChars cs = core := by
  constructor
  · rintro ⟨⟨before, after, blankBefore, blankAfter, rfl⟩, first, last⟩
    cases core with
    | nil =>
      rw [List.append_nil, trimChars, trimStart_append_of_blank blankBefore,
        trimStart_eq_nil blankAfter]
      rfl
    | cons c core =>
      -- The text goes on to its end with a character that is no blank.
      rw [List.append_assoc, trimChars, trimStart_append_of_blank blankBefore,
        trimStart_eq_self (by simpa using first), trimEnd_append_of_blank blankAfter,
        trimEnd_eq_self last]
  · rintro rfl
    obtain ⟨before, blankBefore, start, first⟩ := exists_trimStart cs
    obtain ⟨after, blankAfter, rest, last⟩ := exists_trimEnd (trimStart cs)
    refine ⟨⟨before, after, blankBefore, blankAfter, ?_⟩, fun c head => ?_, last⟩
    · rw [List.append_assoc, trimChars, ← rest, ← start]
    · -- What stands at the start of a part stands at the start of the whole.
      refine first c ?_
      rw [rest, List.head?_append, trimChars] at *
      simp [Option.mem_def.mp head]

end GuestRoutines.Text
