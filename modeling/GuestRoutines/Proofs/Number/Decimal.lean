import GuestRoutines.Number.Unsigned
import GuestRoutines.Proofs.Text.Trimming
import GuestRoutines.Value.Basic

/-!
# Numbers as texts and back

A whole number is written in decimal digits, and a bounded unsigned number is read from them. What
has been written is read as the same number if it is below the bound. Nothing that is written for a
number is lost when the text is trimmed.

## Main results

* `Digits.ofDigitChars_ofNat` — the digits of a number denote it
* `Unsigned.parse_ofNat`, `Unsigned.parse_of_not_isDigit` — reading digits, and anything else
* `HostValue.toList_intText_of_nonneg`, `HostValue.toList_intText_of_neg` — the text of a number
* `HostValue.eq_of_intText_eq` — a run of digits is the text of the number that it denotes only
-/

namespace GuestRoutines

/-! ### Runs of digits -/

namespace Digits

variable {c : Char}

theorem isDigit_of_mem_ofNat {n : Nat} (member : c ∈ ofNat n) : c.isDigit :=
  Nat.isDigit_of_mem_toDigits (by decide) (by decide) member

theorem ofDigitChars_ofNat (n : Nat) : Nat.ofDigitChars 10 (ofNat n) 0 = n :=
  Nat.ofDigitChars_toDigits (by decide) (by decide)

theorem toNat_of_isDigit (digit : c.isDigit) : 48 ≤ c.toNat ∧ c.toNat ≤ 57 := by
  simpa [Char.isDigit, UInt32.le_iff_toNat_le] using digit

/-- A digit is found in none of the ranges of blanks. -/
theorem isBlank_of_isDigit (digit : c.isDigit) : Text.isBlank c = false := by
  have range := toNat_of_isDigit digit
  simp only [Text.isBlank, Text.blankRanges, List.any_cons, List.any_nil, Bool.or_eq_false_iff,
    Bool.and_eq_false_iff, decide_eq_false_iff_not, and_true]
  omega

/-- A digit has no other case. -/
theorem toLower_of_isDigit (digit : c.isDigit) : c.toLower = c := by
  have range := toNat_of_isDigit digit
  unfold Char.toLower
  split
  · next capital =>
    -- The capitals lie above all digits.
    have above : 65 ≤ c.toNat ∧ c.toNat ≤ 90 := by simpa [UInt32.le_iff_toNat_le] using capital
    omega
  · rfl

end Digits

/-! ### Reading bounded numbers -/

namespace Unsigned

variable {bound n : Nat} {c : Char} {ds : List Char}

theorem le_ofDigitChars (ds : List Char) (n : Nat) : n ≤ Nat.ofDigitChars 10 ds n := by
  induction ds generalizing n with
  | nil => exact Nat.le_refl n
  | cons d ds ih =>
    have longer := ih (10 * n + (d.toNat - '0'.toNat))
    rw [Nat.ofDigitChars_cons]
    omega

/-- Digits at the start of a text are read one after the other. The number only grows, so that it
reaches the bound at some digit exactly if it does at the last one of them. -/
theorem scan_append (digits : ∀ c ∈ ds, c.isDigit) (below : n < bound) (rest : List Char) :
    scan bound n (ds ++ rest) =
      if Nat.ofDigitChars 10 ds n < bound then scan bound (Nat.ofDigitChars 10 ds n) rest
      else .error .tooLarge := by
  induction ds generalizing n with
  | nil => simp [below]
  | cons d ds ih =>
    have digit : d.isDigit := digits d List.mem_cons_self
    have others : ∀ c ∈ ds, c.isDigit := fun c member => digits c (List.mem_cons_of_mem d member)
    have next : n * 10 + Digits.valueOf d = 10 * n + (d.toNat - '0'.toNat) := by
      rw [Digits.valueOf, Nat.mul_comm]
    rw [List.cons_append, scan, if_pos digit, next, Nat.ofDigitChars_cons]
    dsimp only
    by_cases fits : 10 * n + (d.toNat - '0'.toNat) < bound
    · rw [if_pos fits]
      exact ih others fits
    · have grown := le_ofDigitChars ds (10 * n + (d.toNat - '0'.toNat))
      have past : ¬ Nat.ofDigitChars 10 ds (10 * n + (d.toNat - '0'.toNat)) < bound := by omega
      rw [if_neg fits, if_neg past]

/-- A run of digits denotes its number, if that is below the bound. -/
theorem scan_of_digits (digits : ∀ c ∈ ds, c.isDigit) (below : n < bound) :
    scan bound n ds =
      if Nat.ofDigitChars 10 ds n < bound then .ok (Nat.ofDigitChars 10 ds n)
      else .error .tooLarge := by
  have scanned := scan_append digits below []
  rwa [List.append_nil] at scanned

/-- A text that begins with neither a digit nor a plus sign is refused. -/
theorem parse_of_not_isDigit (bound : Nat) (other : c.isDigit = false) (unsigned : c ≠ '+') :
    parse bound (c :: ds) = .error .invalidDigit := by
  have refused : scan bound 0 (c :: ds) = .error .invalidDigit := by
    rw [scan, other]
    rfl
  unfold parse
  split
  · next short => cases short
  · next same => exact absurd (List.cons.inj same).1 unsigned
  · next same => exact absurd (List.cons.inj same).1 unsigned
  · exact refused

/-- The digits of a number are read as the number, if it is below the bound. -/
theorem parse_ofNat (positive : 0 < bound) (n : Nat) :
    parse bound (Digits.ofNat n) = if n < bound then .ok n else .error .tooLarge := by
  have digits : ∀ c ∈ Digits.ofNat n, c.isDigit := fun _ => Digits.isDigit_of_mem_ofNat
  have scanned := scan_of_digits digits positive
  rw [Digits.ofDigitChars_ofNat] at scanned
  have unsigned (ds : List Char) : Digits.ofNat n ≠ '+' :: ds := by
    intro signed
    have sign := digits '+' (signed ▸ List.mem_cons_self)
    cases sign
  unfold parse
  split
  · next none => exact absurd none Nat.toDigits_ne_nil
  · next signed => exact absurd signed (unsigned [])
  · next ds _ signed => exact absurd signed (unsigned ds)
  · exact scanned

end Unsigned

/-! ### Texts of numbers -/

namespace HostValue

variable {n : Int} {c : Char}

theorem toList_intText_of_nonneg (nonneg : 0 ≤ n) :
    (intText n).toList = Digits.ofNat n.toNat := by
  have positive : ¬ n < 0 := by omega
  have same : n.natAbs = n.toNat := by omega
  simp [intText, positive, same]

theorem toList_intText_of_neg (negative : n < 0) :
    (intText n).toList = '-' :: Digits.ofNat n.natAbs := by
  simp [intText, negative]

/-- Nothing is written of a number but digits and a minus sign. -/
theorem of_mem_intText (member : c ∈ (intText n).toList) : c.isDigit ∨ c = '-' := by
  by_cases negative : n < 0
  · rw [toList_intText_of_neg negative] at member
    rcases List.mem_cons.mp member with sign | digit
    · exact .inr sign
    · exact .inl (Digits.isDigit_of_mem_ofNat digit)
  · rw [toList_intText_of_nonneg (by omega)] at member
    exact .inl (Digits.isDigit_of_mem_ofNat member)

/-- A run of digits is the text of the number that it denotes only. -/
theorem eq_of_intText_eq {s : String} (digits : s.toList.all Char.isDigit = true)
    (same : intText n = s) : n = Nat.ofDigitChars 10 s.toList 0 := by
  subst same
  by_cases negative : n < 0
  · rw [toList_intText_of_neg negative] at digits
    cases digits
  · have nonneg : 0 ≤ n := by omega
    rw [toList_intText_of_nonneg nonneg, Digits.ofDigitChars_ofNat, Int.toNat_of_nonneg nonneg]

/-- The text of a number is not trimmed. -/
theorem trimChars_intText (n : Int) : Text.trimChars (intText n).toList = (intText n).toList := by
  apply Text.trimChars_eq_self
  intro c member
  rcases of_mem_intText member with digit | rfl
  · exact Digits.isBlank_of_isDigit digit
  · decide

end HostValue

end GuestRoutines
