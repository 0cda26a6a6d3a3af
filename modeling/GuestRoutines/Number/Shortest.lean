import GuestRoutines.Number.Binary64
import GuestRoutines.Number.Digits

/-!
# Shortest decimal texts of binary64 numbers

A finite number is written with the fewest decimal digits that read back as the number, and among
those with the nearest ones; of two that are equally near, the format decides. The reals that read
back as a number form an interval around it whose ends belong to it when the significand is even.
Each decimal grid is tried from the coarsest on, and of a grid only the two neighbours of the number
can lie in the interval nearest to it.

## Main definitions

* `Binary64.shortest?` — the digits and their exponent
* `TieRule` — which of two equally near points is taken
* `DecimalLayout` — where a format places the point, how it writes exponents and settles ties
* `Binary64.text` — a finite number in a layout
-/

namespace GuestRoutines

/-- Which of two equally near points of a grid is taken. -/
inductive TieRule where
  /-- The one whose last digit is even. -/
  | even
  /-- The one of greater magnitude. -/
  | upper
  deriving DecidableEq, Repr

/-- The lower one of two neighbours is taken on a tie. -/
def TieRule.takesLower (t : TieRule) (lower : Nat) : Bool := t == .even && lower % 2 == 0

/-- Digits with an exponent: `digits · 10 ^ exponent`. -/
structure Decimal where
  digits : Nat
  exponent : Int
  deriving DecidableEq, Repr

namespace Binary64

/-- The interval of reals that read back as a number, on an integer scale where the number itself
is `4 · significand`: its low end, the number, its high end, and whether the ends belong to it. -/
structure Neighbourhood where
  low : Nat
  centre : Nat
  high : Nat
  closed : Bool
  deriving Repr

/-- The neighbourhood of a finite number. Below a power of two the gap is half as wide. -/
def neighbourhood (x : Binary64) : Neighbourhood where
  low := 4 * x.significand - if x.fraction = 0 ∧ 1 < x.biased then 1 else 2
  centre := 4 * x.significand
  high := 4 * x.significand + 2
  closed := x.significand % 2 == 0

/-- The point `k · a / b` of a decimal grid lies in the neighbourhood. -/
def Neighbourhood.holds (i : Neighbourhood) (a b k : Nat) : Bool :=
  if i.closed then decide (i.low * b ≤ k * a ∧ k * a ≤ i.high * b)
  else decide (i.low * b < k * a ∧ k * a < i.high * b)

/-- The step of the grid `10 ^ g` over the unit of a number's neighbourhood, as a quotient. -/
def gridStep (x : Binary64) (g : Int) : Nat × Nat :=
  let s := x.scale - 2
  (Digits.place g.toNat <<< (-s).toNat, Digits.place (-g).toNat <<< s.toNat)

/-- The point of the grid `10 ^ g` that reads back as the number, if there is one; of two, the
nearer, and on a tie the one that the rule takes. -/
def onGrid? (tie : TieRule) (x : Binary64) (g : Int) : Option Decimal :=
  let (a, b) := x.gridStep g
  let i := x.neighbourhood
  let below := i.centre * b / a
  let above := below + 1
  let lowGap := i.centre * b - below * a
  let highGap := above * a - i.centre * b
  match i.holds a b below && below != 0, i.holds a b above with
  | true, true =>
    some ⟨if lowGap < highGap ∨ (lowGap = highGap ∧ tie.takesLower below) then below else above, g⟩
  | true, false => some ⟨below, g⟩
  | false, true => some ⟨above, g⟩
  | false, false => none

/-- An exponent `p` with `10 ^ p` at most the number and `10 ^ (p + 3)` above it. -/
def roughLog10 (x : Binary64) : Int := (x.scale + x.significand.log2) * 30103 / 100000

/-- The fewest digits that read back as a number that is finite and not zero. -/
def shortest? (tie : TieRule) (x : Binary64) : Option Decimal :=
  if x.significand = 0 then none
  else (List.range 20).findSome? fun (n : Nat) => x.onGrid? tie (x.roughLog10 + 2 - n)

/-- The digits without the zeros at their end. -/
def trimZeros (ds : List Char) : List Char := (ds.reverse.dropWhile (· == '0')).reverse

end Binary64

/-- How a format writes a finite number. -/
structure DecimalLayout where
  /-- The exponent of the first digit for which the number is written without an exponent. -/
  positional : Int → Bool
  /-- What follows a whole number written without an exponent. -/
  wholeMark : String
  /-- Which of two equally near texts is written. -/
  tie : TieRule

namespace DecimalLayout

/-- Never an exponent, and nothing after a whole number; a tie goes away from zero. -/
def plain : DecimalLayout := ⟨fun _ => true, "", .upper⟩

/-- Exponents from `-5` to `15` are written out, and a whole number keeps one decimal; a tie goes to
the even digit. -/
def data : DecimalLayout := ⟨fun e => decide (-5 ≤ e ∧ e ≤ 15), ".0", .even⟩

/-- Digits written without an exponent; the first one stands for `10 ^ lead`. -/
def writeOut (l : DecimalLayout) (ds : List Char) (lead : Int) : String :=
  if lead < 0 then
    "0." ++ String.ofList (List.replicate (-lead - 1).toNat '0' ++ ds)
  else
    let whole := lead.toNat + 1
    if ds.length ≤ whole then
      String.ofList (ds ++ List.replicate (whole - ds.length) '0') ++ l.wholeMark
    else String.ofList (ds.take whole) ++ "." ++ String.ofList (ds.drop whole)

/-- Digits written with an exponent, which always has a sign. -/
def writeScaled (ds : List Char) (lead : Int) : String :=
  let point := match ds with
    | [] => ""
    | [d] => String.singleton d
    | d :: rest => String.singleton d ++ "." ++ String.ofList rest
  point ++ (if lead < 0 then "e-" else "e+") ++ String.ofList (Digits.ofNat lead.natAbs)

end DecimalLayout

namespace Binary64

/-- A finite number in a layout. -/
def text (l : DecimalLayout) (x : Binary64) : String :=
  let sign := if x.negative then "-" else ""
  match x.shortest? l.tie with
  | none => sign ++ "0" ++ l.wholeMark
  | some d =>
    let all := Digits.ofNat d.digits
    let lead : Int := d.exponent + (all.length - 1 : Nat)
    let ds := trimZeros all
    sign ++ if l.positional lead then l.writeOut ds lead else DecimalLayout.writeScaled ds lead

/-- The text of a number for people: never an exponent, and words for what is not finite. -/
def display (x : Binary64) : String :=
  if x.isNaN then "NaN"
  else if x.isInfinite then if x.negative then "-inf" else "inf"
  else x.text .plain

end Binary64

end GuestRoutines
