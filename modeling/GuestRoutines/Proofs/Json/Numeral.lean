import GuestRoutines.Json.Token
import GuestRoutines.Json.Writer
import GuestRoutines.Proofs.Number.Unsigned
import Mathlib.Data.List.Induction

/-!
# The grammar of numerals

A numeral is written as a whole part without leading zeros, and after it a fraction and an exponent
where it has them. The reader takes as much as it can, so that it reads a numeral completely when
what follows does not go on with it. A whole number has one numeral only.

## Main definitions

* `Json.IsWhole`, `Json.FractionText`, `Json.ExponentText` — the parts of a numeral
* `Json.Numeral.Spells` — a text spells a numeral
* `Json.Numeral.Ends` — a text does not go on with a numeral

## Main results

* `Json.Numeral.spells_of_numeral?`, `Json.Numeral.numeral?_append` — what is read, and that it is
* `Json.Numeral.scalar?_ofInt`, `Json.Numeral.Spells.eq_ofInt_of_scalar?` — the one numeral of a
  whole number
* `Json.Numeral.IsWellFormed.spells_text` — what is written
-/

namespace GuestRoutines

/-! ### Runs of digits -/

namespace Digits

variable {ds rest cs : List Char}

theorem value_eq (ds : List Char) : value ds = Nat.ofDigitChars 10 ds 0 := by
  simp only [value, valueOf, Nat.ofDigitChars_eq_foldl, Nat.mul_comm]

theorem value_ofNat (n : Nat) : value (ofNat n) = n := by
  rw [value_eq, ofDigitChars_ofNat]

theorem isRun_ofNat (n : Nat) : Unsigned.IsRun (ofNat n) :=
  ⟨Nat.toDigits_ne_nil, fun _ => isDigit_of_mem_ofNat⟩

/-- A run is cut off completely from what does not begin with a digit. -/
theorem span_append (digits : ∀ c ∈ ds, c.isDigit) (stop : ∀ c ∈ rest.head?, c.isDigit = false) :
    span (ds ++ rest) = (ds, rest) := by
  have none_taken : rest.takeWhile Char.isDigit = [] := by
    cases rest with
    | nil => rfl
    | cons c rest => exact List.takeWhile_cons_of_neg (by simp [stop c rfl])
  have none_dropped : rest.dropWhile Char.isDigit = rest := by
    cases rest with
    | nil => rfl
    | cons c rest => exact List.dropWhile_cons_of_neg (by simp [stop c rfl])
  rw [span, List.takeWhile_append_of_pos digits, List.dropWhile_append_of_pos digits, none_taken,
    none_dropped, List.append_nil]

/-- What is cut off is a run, unless it is empty. -/
theorem isRun_span (some_digit : (span cs).1 ≠ []) :
    Unsigned.IsRun (span cs).1 ∧ cs = (span cs).1 ++ (span cs).2 :=
  ⟨⟨some_digit, fun _ => List.mem_takeWhile_imp⟩, List.takeWhile_append_dropWhile.symm⟩

theorem digitChar_valueOf {c : Char} (digit : c.isDigit) : Nat.digitChar (valueOf c) = c := by
  have table : ∀ k < 10, Nat.digitChar k = Char.ofNat (48 + k) := by decide
  have range := toNat_of_isDigit digit
  have place : valueOf c = c.toNat - 48 := rfl
  have same : 48 + (c.toNat - 48) = c.toNat := by omega
  rw [place, table _ (by omega), same, Char.ofNat_toNat]

/-- Digits that do not begin with a zero are those of the number that they denote. -/
theorem ofNat_value (run : Unsigned.IsRun ds) (first : ds.head? ≠ some '0') :
    ofNat (value ds) = ds ∧ 0 < value ds := by
  induction ds using List.reverseRecOn with
  | nil => exact absurd rfl run.nonempty
  | append_singleton ds c ih =>
    have digit : c.isDigit := run.digits c (by simp)
    have range := toNat_of_isDigit digit
    have small : valueOf c < 10 := by
      have place : valueOf c = c.toNat - 48 := rfl
      omega
    have step : value (ds ++ [c]) = value ds * 10 + valueOf c := by
      rw [value, List.foldl_append]
      rfl
    rw [step]
    by_cases alone : ds = []
    · subst alone
      have positive : valueOf c ≠ 0 := by
        intro zero
        have same := digitChar_valueOf digit
        rw [zero] at same
        exact first (congrArg some same.symm)
      have single : value [] * 10 + valueOf c = valueOf c := by simp [value]
      rw [single, ofNat, Nat.toDigits_of_lt_base small, digitChar_valueOf digit]
      exact ⟨rfl, by omega⟩
    · -- The digits before the last one are those of a tenth of the number.
      have shorter : Unsigned.IsRun ds := ⟨alone, fun d member => run.digits d (by simp [member])⟩
      have first : ds.head? ≠ some '0' := by
        obtain ⟨d, ds, rfl⟩ := List.exists_cons_of_ne_nil alone
        exact first
      obtain ⟨same, positive⟩ := ih shorter first
      refine ⟨?_, by omega⟩
      have tenth : (value ds * 10 + valueOf c) / 10 = value ds := by omega
      have unit : (value ds * 10 + valueOf c) % 10 = valueOf c := by omega
      rw [ofNat, Nat.toDigits_of_base_le (by decide) (by omega), tenth, unit,
        digitChar_valueOf digit]
      exact congrArg (· ++ [c]) same

/-- The digits of a number begin with a zero only if it is zero. -/
theorem head?_ofNat {n : Nat} (positive : 0 < n) : (ofNat n).head? ≠ some '0' := by
  induction n using Nat.strongRecOn with
  | ind n ih =>
    by_cases small : n < 10
    · rw [ofNat, Nat.toDigits_of_lt_base small]
      intro zero
      have none_left : n = 0 := by simpa using zero
      omega
    · have first := ih (n / 10) (by omega) (by omega)
      rw [ofNat] at first ⊢
      rw [Nat.toDigits_of_base_le (by decide) (by omega)]
      have some_digit : Nat.toDigits 10 (n / 10) ≠ [] := Nat.toDigits_ne_nil
      obtain ⟨d, ds, cut⟩ := List.exists_cons_of_ne_nil some_digit
      rw [cut] at first ⊢
      exact first

end Digits

namespace Json

/-! ### The parts of a numeral -/

open Unsigned (IsRun)

/-- The digits before the point: a zero alone, or a run that does not begin with one. -/
inductive IsWhole : List Char → Prop where
  | zero : IsWhole ['0']
  | run {ds : List Char} (run : IsRun ds) (first : ds.head? ≠ some '0') : IsWhole ds

/-- How the digits after the point are written: behind a point if there are any. -/
inductive FractionText : List Char → List Char → Prop where
  | absent : FractionText [] []
  | present {ds : List Char} (run : IsRun ds) : FractionText ('.' :: ds) ds

/-- How the sign of an exponent is written; a plus sign may be left out. -/
inductive SignText : List Char → Bool → Prop where
  | none : SignText [] false
  | plus : SignText ['+'] false
  | minus : SignText ['-'] true

/-- How an exponent is written. -/
inductive ExponentText : List Char → Option Int → Prop where
  | absent : ExponentText [] none
  | present {mark : Char} {sign ds : List Char} {negative : Bool} (marks : mark = 'e' ∨ mark = 'E')
      (signed : SignText sign negative) (run : IsRun ds) :
      ExponentText (mark :: (sign ++ ds))
        (some (if negative then -(Digits.value ds : Int) else Digits.value ds))

/-- The minus sign of a numeral, if it has one. -/
def minusText (negative : Bool) : List Char := if negative then ['-'] else []

namespace Numeral

/-- A text spells a numeral: its parts stand one after the other. -/
inductive Spells : List Char → Numeral → Prop where
  | parts {negative : Bool} {whole fraction f e : List Char} {exponent : Option Int}
      (digits : IsWhole whole) (point : FractionText f fraction)
      (power : ExponentText e exponent) :
      Spells (minusText negative ++ whole ++ f ++ e) ⟨negative, whole, fraction, exponent⟩

/-- A text does not begin with anything that could go on with a numeral. -/
def Ends (rest : List Char) : Prop :=
  ∀ c ∈ rest.head?, c.isDigit = false ∧ c ≠ '.' ∧ c ≠ 'e' ∧ c ≠ 'E'

end Numeral

variable {cs rest w ds : List Char}

theorem IsWhole.ofNat_value (digits : IsWhole ds) : Digits.ofNat (Digits.value ds) = ds := by
  cases digits with
  | zero => rfl
  | run run first => exact (Digits.ofNat_value run first).1

theorem isWhole_ofNat (k : Nat) : IsWhole (Digits.ofNat k) := by
  rcases Nat.eq_zero_or_pos k with rfl | positive
  · exact .zero
  · exact .run (Digits.isRun_ofNat k) (Digits.head?_ofNat positive)

/-! ### Reading the parts -/

theorem isWhole_of_whole? (read : whole? cs = some (ds, rest)) : IsWhole ds ∧ cs = ds ++ rest := by
  unfold whole? at read
  split at read
  · obtain ⟨rfl, rfl⟩ := Prod.mk.inj (Option.some.inj read)
    exact ⟨.zero, rfl⟩
  · next other =>
    simp only [Option.ite_none_left_eq_some, Option.some.injEq, Prod.mk.injEq] at read
    obtain ⟨some_digit, rfl, rfl⟩ := read
    obtain ⟨run, cut⟩ := Digits.isRun_span some_digit
    refine ⟨.run run fun zero => ?_, cut⟩
    obtain ⟨ds, zeros⟩ := List.head?_eq_some_iff.mp zero
    rw [zeros] at cut
    exact other _ cut

theorem whole?_append (whole : IsWhole ds) (stop : ∀ c ∈ rest.head?, c.isDigit = false) :
    whole? (ds ++ rest) = some (ds, rest) := by
  cases whole with
  | zero => rfl
  | run run first =>
    have cut := Digits.span_append run.digits stop
    unfold whole?
    split
    · next others same =>
      -- The run would begin with the zero.
      obtain ⟨d, ds, rfl⟩ := List.exists_cons_of_ne_nil run.nonempty
      obtain ⟨rfl, -⟩ := List.cons.inj same
      exact absurd rfl first
    · simp [cut, run.nonempty]

theorem fractionText_of_fraction? (read : fraction? cs = some (ds, rest)) :
    ∃ f, FractionText f ds ∧ cs = f ++ rest := by
  unfold fraction? at read
  split at read
  · simp only [Option.ite_none_left_eq_some, Option.some.injEq, Prod.mk.injEq] at read
    obtain ⟨some_digit, rfl, rfl⟩ := read
    obtain ⟨run, cut⟩ := Digits.isRun_span some_digit
    exact ⟨_, .present run, congrArg ('.' :: ·) cut⟩
  · obtain ⟨rfl, rfl⟩ := Prod.mk.inj (Option.some.inj read)
    exact ⟨[], .absent, rfl⟩

theorem fraction?_append {f : List Char} (point : FractionText f ds)
    (stop : ∀ c ∈ rest.head?, c.isDigit = false ∧ c ≠ '.') :
    fraction? (f ++ rest) = some (ds, rest) := by
  cases point with
  | absent =>
    unfold fraction?
    split
    · next same => exact absurd rfl (stop '.' (by rw [← List.nil_append rest, same]; rfl)).2
    · rfl
  | present run =>
    have cut := Digits.span_append run.digits fun c head => (stop c head).1
    simp [fraction?, cut, run.nonempty]

theorem signText_sign (cs : List Char) :
    ∃ sign, SignText sign (Digits.sign cs).1 ∧ cs = sign ++ (Digits.sign cs).2 := by
  unfold Digits.sign
  split
  · exact ⟨_, .minus, rfl⟩
  · exact ⟨_, .plus, rfl⟩
  · exact ⟨_, .none, rfl⟩

theorem sign_append {sign : List Char} {negative : Bool} (signed : SignText sign negative)
    (run : IsRun ds) : Digits.sign (sign ++ (ds ++ rest)) = (negative, ds ++ rest) := by
  cases signed with
  | plus => rfl
  | minus => rfl
  | none =>
    -- A run begins with a digit and so with no sign.
    obtain ⟨d, ds, rfl⟩ := List.exists_cons_of_ne_nil run.nonempty
    have digit := run.digits d List.mem_cons_self
    unfold Digits.sign
    split
    · next same =>
      obtain ⟨rfl, -⟩ := List.cons.inj same
      cases digit
    · next same =>
      obtain ⟨rfl, -⟩ := List.cons.inj same
      cases digit
    · rfl

theorem exponentText_of_exponent? {exponent : Option Int}
    (read : exponent? cs = some (exponent, rest)) :
    ∃ e, ExponentText e exponent ∧ cs = e ++ rest := by
  cases cs with
  | nil =>
    obtain ⟨rfl, rfl⟩ := Prod.mk.inj (Option.some.inj read)
    exact ⟨[], .absent, rfl⟩
  | cons c cs =>
    by_cases marks : c = 'e' ∨ c = 'E'
    · obtain ⟨sign, signed, cut⟩ := signText_sign cs
      simp only [exponent?, if_pos marks, Option.ite_none_left_eq_some, Option.some.injEq,
        Prod.mk.injEq] at read
      obtain ⟨some_digit, rfl, rfl⟩ := read
      obtain ⟨run, cut'⟩ := Digits.isRun_span some_digit
      refine ⟨_, .present marks signed run, ?_⟩
      rw [List.cons_append, List.append_assoc, ← cut', ← cut]
    · rw [exponent?, if_neg marks] at read
      obtain ⟨rfl, rfl⟩ := Prod.mk.inj (Option.some.inj read)
      exact ⟨[], .absent, rfl⟩

theorem exponent?_append {e : List Char} {exponent : Option Int} (power : ExponentText e exponent)
    (ends : Numeral.Ends rest) : exponent? (e ++ rest) = some (exponent, rest) := by
  cases power with
  | absent =>
    cases rest with
    | nil => rfl
    | cons c rest => exact if_neg (not_or.mpr (ends c rfl).2.2)
  | present marks signed run =>
    have cut := Digits.span_append run.digits fun c head => (ends c head).1
    simp [exponent?, marks, sign_append signed run, cut, run.nonempty]

namespace Numeral

variable {n : Numeral}

/-! ### Reading a numeral -/

/-- What is read is spelled by what is taken from the text. -/
theorem spells_of_numeral? (read : numeral? cs = some (n, rest)) :
    ∃ w, Spells w n ∧ cs = w ++ rest := by
  obtain ⟨negative, cs', signed, cut⟩ :
      ∃ negative cs', numeralSign cs = (negative, cs') ∧ cs = minusText negative ++ cs' := by
    unfold numeralSign
    split
    · exact ⟨true, _, rfl, rfl⟩
    · exact ⟨false, _, rfl, rfl⟩
  simp only [numeral?, signed, Option.bind_eq_bind, Option.bind_eq_some_iff, Option.pure_def,
    Option.some.injEq, Prod.mk.injEq, Prod.exists] at read
  obtain ⟨whole, cs₁, readWhole, fraction, cs₂, readFraction, exponent, cs₃, readExponent, rfl,
    rfl⟩ := read
  obtain ⟨digits, cut₁⟩ := isWhole_of_whole? readWhole
  obtain ⟨f, point, cut₂⟩ := fractionText_of_fraction? readFraction
  obtain ⟨e, power, cut₃⟩ := exponentText_of_exponent? readExponent
  refine ⟨_, .parts digits point power, ?_⟩
  rw [cut, cut₁, cut₂, cut₃]
  simp only [List.append_assoc]

/-- The whole part begins with a digit and not with a sign. -/
theorem numeralSign_append {negative : Bool} (digits : IsWhole ds) :
    numeralSign (minusText negative ++ (ds ++ rest)) = (negative, ds ++ rest) := by
  cases negative with
  | true => rfl
  | false =>
    have run : IsRun ds := by
      cases digits with
      | zero => exact ⟨nofun, by simp⟩
      | run run => exact run
    obtain ⟨d, ds, rfl⟩ := List.exists_cons_of_ne_nil run.nonempty
    have digit := run.digits d List.mem_cons_self
    unfold numeralSign
    split
    · next same =>
      obtain ⟨rfl, -⟩ := List.cons.inj same
      cases digit
    · rfl

/-- A numeral is read completely if what follows does not go on with it. -/
theorem numeral?_append (spelled : Spells w n) (ends : Ends rest) :
    numeral? (w ++ rest) = some (n, rest) := by
  cases spelled with
  | @parts negative whole fraction f e exponent digits point power =>
    -- Neither the exponent nor what follows it begins with a digit or a point.
    have afterFraction : ∀ c ∈ (e ++ rest).head?, c.isDigit = false ∧ c ≠ '.' := by
      cases power with
      | absent => exact fun c head => ⟨(ends c head).1, (ends c head).2.1⟩
      | present marks =>
        intro c head
        obtain rfl := Option.some.inj head
        rcases marks with rfl | rfl <;> decide
    have afterWhole : ∀ c ∈ (f ++ (e ++ rest)).head?, c.isDigit = false := by
      cases point with
      | absent => exact fun c head => (afterFraction c head).1
      | present =>
        intro c head
        obtain rfl := Option.some.inj head
        rfl
    simp only [List.append_assoc, numeral?, numeralSign_append digits,
      whole?_append digits afterWhole, fraction?_append point afterFraction,
      exponent?_append power ends, Option.bind_eq_bind, Option.bind_some, Option.pure_def]

/-- No numeral goes on with a digit behind a leading zero. -/
theorem not_leading_zero {negative : Bool} {d : Char} {after : List Char} (digit : d.isDigit)
    (spelled : Spells w n) (ends : Ends after) :
    w ++ after ≠ minusText negative ++ '0' :: d :: rest := by
  intro same
  have point : d ≠ '.' := by rintro rfl; cases digit
  have lower : d ≠ 'e' := by rintro rfl; cases digit
  have upper : d ≠ 'E' := by rintro rfl; cases digit
  have read := numeral?_append spelled ends
  have stopped : numeral? (minusText negative ++ '0' :: d :: rest) =
      some (⟨negative, ['0'], [], none⟩, d :: rest) := by
    cases negative <;>
      simp [numeral?, numeralSign, minusText, whole?, fraction?, exponent?, point, lower, upper]
  rw [same, stopped, Option.some.injEq, Prod.mk.injEq] at read
  obtain ⟨-, rfl⟩ := read
  exact absurd digit (by simp [(ends d rfl).1])

/-! ### Whole numbers -/

theorem scalar?_ofInt {k : Int} (lower : Int64.minValue.toInt ≤ k) (upper : k < wordBound) :
    (ofInt k).scalar? = some (.int k) := by
  have bound : wordBound = 18446744073709551616 := rfl
  have least : Int64.minValue.toInt = -9223372036854775808 := rfl
  rw [bound] at upper
  rw [least] at lower
  have fits : k.natAbs < wordBound := by omega
  by_cases negative : k < 0
  · have same : -(k.natAbs : Int) = k := by omega
    have within : k.natAbs ≠ 0 ∧ Int64.minValue.toInt ≤ k := by omega
    simp only [scalar?, ofInt, Digits.value_ofNat, fits, and_self, if_true, negative, decide_true,
      Bool.not_true, Bool.false_eq_true, if_false, same]
    exact if_pos within
  · have same : (k.natAbs : Int) = k := by omega
    simp only [scalar?, ofInt, Digits.value_ofNat, fits, and_self, if_true, negative, decide_false,
      Bool.not_false, same]

/-- A spelled numeral stands for a whole number only if it is the one numeral of that number. -/
theorem Spells.eq_ofInt_of_scalar? {k : Int} (spelled : Spells w n)
    (scalar : n.scalar? = some (.int k)) :
    n = ofInt k ∧ Int64.minValue.toInt ≤ k ∧ k < wordBound := by
  cases spelled with
  | @parts negative whole fraction f e exponent digits point power =>
    have same := digits.ofNat_value
    have bound : wordBound = 18446744073709551616 := rfl
    have least : Int64.minValue.toInt = -9223372036854775808 := rfl
    unfold scalar? at scalar
    dsimp only at scalar
    split at scalar
    · next integral =>
      obtain ⟨rfl, rfl, fits⟩ := integral
      cases negative with
      | false =>
        obtain rfl : (Digits.value whole : Int) = k := by simpa using scalar
        have positive : ¬ (Digits.value whole : Int) < 0 := by omega
        refine ⟨?_, by omega, by omega⟩
        simp [ofInt, positive, same]
      | true =>
        -- Minus zero is a float, as is what does not fit 64 bits with its sign.
        simp only [Bool.not_true, Bool.false_eq_true, if_false] at scalar
        split at scalar
        · next within =>
          obtain rfl : -(Digits.value whole : Int) = k := by simpa using scalar
          have positive : 0 < Digits.value whole := by omega
          refine ⟨?_, within.2, by omega⟩
          simp [ofInt, positive, same]
        · simp at scalar
    · simp at scalar

/-! ### Writing a numeral -/

/-- A numeral all of whose parts can be written. -/
structure IsWellFormed (n : Numeral) : Prop where
  whole : IsWhole n.whole
  fraction : ∀ c ∈ n.fraction, c.isDigit

theorem isWellFormed_ofInt (k : Int) : (ofInt k).IsWellFormed :=
  ⟨isWhole_ofNat k.natAbs, by simp [ofInt]⟩

/-- An exponent is written with its sign. -/
theorem exponentText_of_int (e : Int) :
    ExponentText ('e' :: ([if e < 0 then '-' else '+'] ++ Digits.ofNat e.natAbs)) (some e) := by
  have run := Digits.isRun_ofNat e.natAbs
  have value : (Digits.value (Digits.ofNat e.natAbs) : Int) = e.natAbs := by
    rw [Digits.value_ofNat]
  by_cases negative : e < 0
  · have same : -(Digits.value (Digits.ofNat e.natAbs) : Int) = e := by omega
    have power := ExponentText.present (.inl rfl) .minus run
    rw [if_pos rfl, same] at power
    rwa [if_pos negative]
  · have same : (Digits.value (Digits.ofNat e.natAbs) : Int) = e := by omega
    have power := ExponentText.present (.inl rfl) .plus run
    rw [if_neg (by decide), same] at power
    rwa [if_neg negative]

/-- The text of a numeral spells it. -/
theorem IsWellFormed.spells_text (formed : n.IsWellFormed) : Spells n.text.toList n := by
  obtain ⟨negative, whole, fraction, exponent⟩ := n
  obtain ⟨f, point, written⟩ : ∃ f, FractionText f fraction ∧
      (if fraction = [] then "" else "." ++ String.ofList fraction).toList = f := by
    by_cases absent : fraction = []
    · exact ⟨[], absent ▸ .absent, by simp [absent]⟩
    · exact ⟨_, .present ⟨absent, formed.fraction⟩, by simp [absent]⟩
  have spelled {e : List Char} (power : ExponentText e exponent) :
      Spells (minusText negative ++ whole ++ f ++ e) ⟨negative, whole, fraction, exponent⟩ :=
    .parts formed.whole point power
  have sign : (if negative then "-" else "").toList = minusText negative := by
    cases negative <;> rfl
  cases exponent with
  | none => simpa [text, sign, written] using spelled .absent
  | some e =>
    have mark : (if e < 0 then "e-" else "e+").toList = ['e', if e < 0 then '-' else '+'] := by
      split <;> rfl
    simpa [text, sign, written, mark] using spelled (exponentText_of_int e)

end Numeral

end Json

end GuestRoutines
