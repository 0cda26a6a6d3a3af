import GuestRoutines.Proofs.Number.Unsigned
import GuestRoutines.Proofs.Settings.Reading
import GuestRoutines.Proofs.Text.Trimming

/-!
# Settings that are numbers

A number is read from a setting without its outer blanks and without its underscores. What is left
must spell a number of 64 bits; anything else is refused, and the refusal tells what is wrong. A
number of 32 bits is one of 64 bits that is small enough.

## Main results

* `Setting.asUInt64_eq_ok_iff`, `Setting.asUInt64_eq_error_iff` — numbers of 64 bits
* `Setting.asUInt32_eq_ok_iff` — numbers of 32 bits
* `Setting.asUInt64_of_written` — a number with zeros, underscores and blanks added to it
* `Setting.numbers_follow_grammar` — all of it, for every setting
-/

namespace GuestRoutines

namespace Digits

/-- Zeros in front of digits are of no account. -/
theorem ofDigitChars_zeros (zeros : Nat) (ds : List Char) :
    Nat.ofDigitChars 10 (List.replicate zeros '0' ++ ds) 0 = Nat.ofDigitChars 10 ds 0 := by
  induction zeros with
  | zero => rfl
  | succ zeros ih =>
    rw [List.replicate_succ, List.cons_append, Nat.ofDigitChars_cons]
    exact ih

/-- The digits of a number behind some zeros are a run of digits. -/
theorem isRun_zeros (zeros n : Nat) : Unsigned.IsRun (List.replicate zeros '0' ++ ofNat n) := by
  refine ⟨by simp [ofNat], fun c member => ?_⟩
  rcases List.mem_append.mp member with zero | digit
  · rw [List.eq_of_mem_replicate zero]
    rfl
  · exact isDigit_of_mem_ofNat digit

end Digits

namespace Setting

variable {s : Setting} {n : UInt64}

/-! ### Reading -/

theorem asUInt64_eq_ok_iff : s.asUInt64 = .ok n ↔ Unsigned.Spells s.digits n.toNat := by
  have read : s.asUInt64 = .ok n ↔ Unsigned.parse UInt64.size s.digits = .ok n.toNat := by
    unfold asUInt64
    cases parsed : Unsigned.parse UInt64.size s.digits with
    | ok m =>
      have below := ((Unsigned.parse_eq_ok_iff (by decide)).mp parsed).2
      have same : (UInt64.ofNat m).toNat = m := UInt64.toNat_ofNat_of_lt below
      simp only [Except.ok.injEq, ← UInt64.toNat_inj, same]
    | error fault => simp [refuse]
  rw [read, Unsigned.parse_eq_ok_iff (by decide)]
  exact ⟨And.left, fun spelled => ⟨spelled, n.toNat_lt⟩⟩

theorem asUInt64_eq_error_iff {fault : Unsigned.Fault} :
    s.asUInt64 = .error (.invalid s.key (.notUnsigned fault)) ↔
      Unsigned.parse UInt64.size s.digits = .error fault := by
  unfold asUInt64
  cases Unsigned.parse UInt64.size s.digits with
  | ok m => simp
  | error fault => simp [refuse]

theorem asUInt32_of_error {error : StartupError} (refused : s.asUInt64 = .error error) :
    s.asUInt32 = .error error := by
  rw [asUInt32, refused]
  rfl

theorem asUInt32_of_ok (read : s.asUInt64 = .ok n) :
    s.asUInt32 =
      if n.toNat < UInt32.size then .ok (.ofNat n.toNat)
      else .error (.invalid s.key (.outOfRange n.toNat)) := by
  rw [asUInt32, read]
  rfl

theorem asUInt32_eq_ok_iff {n : UInt32} : s.asUInt32 = .ok n ↔ s.asUInt64 = .ok n.toUInt64 := by
  cases read : s.asUInt64 with
  | error error => simp [asUInt32_of_error read]
  | ok m =>
    rw [asUInt32_of_ok read]
    constructor
    · intro short
      split at short
      · next fits =>
        obtain rfl := Except.ok.inj short
        have same : (UInt32.ofNat m.toNat).toNat = m.toNat := UInt32.toNat_ofNat_of_lt fits
        rw [Except.ok.injEq, ← UInt64.toNat_inj, UInt32.toNat_toUInt64, same]
      · cases short
    · intro long
      obtain rfl := Except.ok.inj long
      have fits : n.toUInt64.toNat < UInt32.size := n.toNat_lt
      rw [if_pos fits, UInt32.toNat_toUInt64, UInt32.ofNat_toNat]

/-! ### Writing -/

/-- A number is read whatever zeros, underscores and outer blanks are added to it. -/
theorem asUInt64_of_written {zeros : Nat} {written before after : List Char} (key : String)
    (digits : written.filter (· != '_') = List.replicate zeros '0' ++ Digits.ofNat n.toNat)
    (blankBefore : ∀ c ∈ before, Text.isBlank c = true)
    (blankAfter : ∀ c ∈ after, Text.isBlank c = true) :
    asUInt64 ⟨key, .ofList (before ++ written ++ after)⟩ = .ok n := by
  have run := Digits.isRun_zeros zeros n.toNat
  -- Blanks are neither underscores nor digits.
  have unblank : ∀ c ∈ written, Text.isBlank c = false := by
    intro c member
    by_cases underscore : c = '_'
    · rw [underscore]
      decide
    · have kept : c ∈ written.filter (· != '_') := by simp [member, underscore]
      exact Digits.isBlank_of_isDigit (run.digits c (digits ▸ kept))
  have trimmed : Text.Trims (before ++ written ++ after) written :=
    { around := ⟨before, after, blankBefore, blankAfter, rfl⟩
      first := fun c head => unblank c (List.mem_of_head? head)
      last := fun c last => unblank c (List.mem_of_getLast? last) }
  rw [asUInt64_eq_ok_iff, Setting.digits, String.toList_ofList, Text.trims_iff.mp trimmed, digits]
  have spelled := Unsigned.Spells.bare run
  rwa [Digits.ofDigitChars_zeros, Digits.ofDigitChars_ofNat] at spelled

/-- **A setting is read as a number exactly if it spells one, and as that number.** Outer blanks and
all underscores are taken away first. What does not spell a number of 64 bits is refused: as empty,
as too large if its digits are so before anything else is wrong, and otherwise for a character that
is no digit. A number of 32 bits is one of 64 bits that fits. -/
theorem numbers_follow_grammar (s : Setting) :
    ∃ core, Text.Trims s.raw.toList core ∧
      let t := core.filter (· != '_')
      (∀ n : UInt64, s.asUInt64 = .ok n ↔ Unsigned.Spells t n.toNat) ∧
      (s.asUInt64 = .error (.invalid s.key (.notUnsigned .empty)) ↔ t = []) ∧
      (s.asUInt64 = .error (.invalid s.key (.notUnsigned .tooLarge)) ↔
        Unsigned.Overflows UInt64.size t) ∧
      (s.asUInt64 = .error (.invalid s.key (.notUnsigned .invalidDigit)) ↔
        t ≠ [] ∧ (∀ n < UInt64.size, ¬ Unsigned.Spells t n) ∧ ¬ Unsigned.Overflows UInt64.size t) ∧
      -- Numbers of 32 bits.
      (∀ n : UInt32, s.asUInt32 = .ok n ↔ s.asUInt64 = .ok n.toUInt64) ∧
      (∀ n : UInt64, s.asUInt64 = .ok n → UInt32.size ≤ n.toNat →
        s.asUInt32 = .error (.invalid s.key (.outOfRange n.toNat))) ∧
      (∀ error, s.asUInt64 = .error error → s.asUInt32 = .error error) ∧
      -- Numbers as they may be written.
      ∀ (n : UInt64) (zeros : Nat) (written before after : List Char),
        written.filter (· != '_') = List.replicate zeros '0' ++ Digits.ofNat n.toNat →
        (∀ c ∈ before ++ after, Text.isBlank c = true) →
        asUInt64 ⟨s.key, .ofList (before ++ written ++ after)⟩ = .ok n := by
  refine ⟨_, Text.trims_iff.mpr rfl, fun n => asUInt64_eq_ok_iff, ?_, ?_, ?_,
    fun n => asUInt32_eq_ok_iff, fun n read past => ?_, fun error => asUInt32_of_error,
    fun n zeros written before after digits blank => ?_⟩
  · exact asUInt64_eq_error_iff.trans (Unsigned.parse_eq_empty_iff (by decide))
  · exact asUInt64_eq_error_iff.trans (Unsigned.parse_eq_tooLarge_iff (by decide))
  · exact asUInt64_eq_error_iff.trans (Unsigned.parse_eq_invalidDigit_iff (by decide))
  · rw [asUInt32_of_ok read, if_neg (Nat.not_lt.mpr past)]
  · rw [List.forall_mem_append] at blank
    exact asUInt64_of_written s.key digits blank.1 blank.2

/-- The greatest number of 64 bits with zeros, underscores and blanks of two kinds. -/
theorem numbers_follow_grammar_greatest :
    asUInt64 ⟨"plwasm.max_fuel", "\u2003_0018_446744073709551615__\n"⟩ =
      .ok 18446744073709551615 := by
  obtain ⟨core, -, -, -, -, -, -, -, -, written⟩ := numbers_follow_grammar ⟨"plwasm.max_fuel", ""⟩
  have blank : ∀ c ∈ ['\u2003'] ++ ['\n'], Text.isBlank c = true :=
    List.forall_mem_cons.mpr ⟨by decide, List.forall_mem_singleton.mpr (by decide)⟩
  exact written 18446744073709551615 2 "_0018_446744073709551615__".toList ['\u2003'] ['\n']
    (by decide) blank

end Setting

end GuestRoutines
