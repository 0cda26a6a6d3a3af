import GuestRoutines.Number.Digits

/-!
# Binary64 numbers

A double-precision number is its 64 bits. All arithmetic on it goes through exact natural numbers:
a finite number is a significand times a power of two, and a quotient of two natural numbers is
rounded to the nearest such number, a tie going to the even significand.

## Main definitions

* `Binary64` — a number by its bits
* `Binary64.significand`, `Binary64.scale` — a finite number as `significand · 2 ^ scale`
* `Binary64.ofRatio` — the number nearest to a quotient
* `Binary64.ofDecimal` — the number nearest to a decimal with an exponent
-/

namespace GuestRoutines

/-- A double-precision number, given by its bits: sign, eleven bits of exponent, fifty-two bits of
fraction. -/
structure Binary64 where
  bits : UInt64
  deriving DecidableEq, Repr, Inhabited

namespace Binary64

/-- The lowest bit of the exponent, which is also the leading one of a normal significand. -/
def unitBit : Nat := 1 <<< 52

/-- The bit of the sign. -/
def signBit : Nat := 1 <<< 63

/-- The bits of the infinite magnitude: a full exponent and no fraction. -/
def infiniteBits : Nat := 2047 * unitBit

/-- The sign bit is set. -/
def negative (x : Binary64) : Bool := decide (signBit ≤ x.bits.toNat)

/-- The bits without the sign. -/
def magnitudeBits (x : Binary64) : Nat := x.bits.toNat % signBit

/-- The exponent as it is stored. -/
def biased (x : Binary64) : Nat := x.magnitudeBits / unitBit

/-- The fraction as it is stored. -/
def fraction (x : Binary64) : Nat := x.magnitudeBits % unitBit

def isNaN (x : Binary64) : Bool := decide (infiniteBits < x.magnitudeBits)

def isInfinite (x : Binary64) : Bool := x.magnitudeBits == infiniteBits

def isZero (x : Binary64) : Bool := x.magnitudeBits == 0

/-- The whole significand: a normal number has a leading one before its fraction. -/
def significand (x : Binary64) : Nat :=
  if x.biased = 0 then x.fraction else unitBit + x.fraction

/-- The power of two by which the significand is scaled. -/
def scale (x : Binary64) : Int := (max x.biased 1 : Nat) - 1075

/-- The number with the given sign and magnitude. -/
def ofMagnitude (negative : Bool) (magnitude : Nat) : Binary64 :=
  ⟨UInt64.ofNat (if negative then signBit + magnitude else magnitude)⟩

/-- The infinity of a sign. -/
def infinity (negative : Bool) : Binary64 := ofMagnitude negative infiniteBits

/-- The zero of a sign. -/
def zero (negative : Bool) : Binary64 := ofMagnitude negative 0

/-- The quiet number that is none. -/
def nan (negative : Bool) : Binary64 := ofMagnitude negative (infiniteBits + unitBit / 2)

/-- A quotient rounded to the nearest natural number, a tie to the even one. -/
def divNearest (n d : Nat) : Nat :=
  let q := n / d
  let r := n % d
  if 2 * r < d ∨ (2 * r = d ∧ q % 2 = 0) then q else q + 1

/-- The exponent `k` with `2 ^ k ≤ n / d < 2 ^ (k + 1)`, for positive `n` and `d`. -/
def floorLog2 (n d : Nat) : Int :=
  let k : Int := (n.log2 : Int) - d.log2
  let reaches := if 0 ≤ k then d <<< k.toNat ≤ n else d ≤ n <<< (-k).toNat
  if reaches then k else k - 1

/-- The magnitude bits of the number nearest to `n / d`, a tie to the even significand. Quotients
too large for a finite number become infinite. -/
def magnitudeOfRatio (n d : Nat) : Nat :=
  if n = 0 then 0 else
    let e := max (floorLog2 n d - 52) (-1074)
    let q := if 0 ≤ e then divNearest n (d <<< e.toNat) else divNearest (n <<< (-e).toNat) d
    let m := if q < unitBit then q else (e + 1074).toNat * unitBit + q
    min m infiniteBits

/-- The number nearest to `n / d`, with the given sign. -/
def ofRatio (negative : Bool) (n d : Nat) : Binary64 := ofMagnitude negative (magnitudeOfRatio n d)

/-- The number nearest to `m · 10 ^ e`, with the given sign. Exponents far outside the range of
finite numbers are settled by the count of digits of `m` alone. -/
def ofDecimal (negative : Bool) (m : Nat) (e : Int) : Binary64 :=
  if m = 0 then zero negative
  else
    let top := e + (Nat.toDigits 10 m).length
    if 310 < top then infinity negative
    else if top < -330 then zero negative
    else if 0 ≤ e then ofRatio negative (m * Digits.place e.toNat) 1
    else ofRatio negative m (Digits.place (-e).toNat)

/-- The product of a finite number and a power of two with a numerator and a denominator in natural
numbers: `x = numerator / denominator` for the magnitude of `x`. -/
def ratio (x : Binary64) : Nat × Nat :=
  if 0 ≤ x.scale then (x.significand <<< x.scale.toNat, 1)
  else (x.significand, 1 <<< (-x.scale).toNat)

/-- The rounded product of two finite magnitudes, with the given sign. -/
def mul (negative : Bool) (x y : Binary64) : Binary64 :=
  ofRatio negative (x.ratio.1 * y.ratio.1) (x.ratio.2 * y.ratio.2)

/-- The rounded quotient of two finite magnitudes, the second not zero, with the given sign. -/
def div (negative : Bool) (x y : Binary64) : Binary64 :=
  ofRatio negative (x.ratio.1 * y.ratio.2) (x.ratio.2 * y.ratio.1)

/-- The number with its sign turned. -/
def neg (x : Binary64) : Binary64 := ofMagnitude (!x.negative) x.magnitudeBits

end Binary64

end GuestRoutines
