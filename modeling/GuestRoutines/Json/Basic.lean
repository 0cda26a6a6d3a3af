import GuestRoutines.Number.Binary64
import GuestRoutines.Number.Digits

/-!
# JSON values

A JSON value keeps each number as it was written, because only the reader of a number knows which
range it must fit. A text is absent when its escapes name half of a surrogate pair: such a text may
be skipped but not used.

## Main definitions

* `Json`, `Json.Numeral` — values, and numbers as written
* `Json.Numeral.scalar?` — the integer or binary64 number that a numeral stands for
* `Json.depth` — how deeply arrays and objects are nested
* `Json.isSound` — a value all of which can be used
-/

namespace GuestRoutines

/-- A number as written: sign, digits before the point, digits after it, and a power of ten. -/
structure Json.Numeral where
  negative : Bool
  whole : List Char
  fraction : List Char := []
  exponent : Option Int := none
  deriving DecidableEq, Repr

/-- A JSON value. -/
inductive Json where
  | null
  | bool (b : Bool)
  | number (n : Json.Numeral)
  /-- A text, absent when an escape in it names half of a surrogate pair. -/
  | text (s : Option String)
  | array (items : List Json)
  | object (members : List (Option String × Json))
  deriving Repr

namespace Json

/-- The number that a numeral stands for: whole numbers up to 64 bits are exact. -/
inductive Scalar where
  | int (n : Int)
  | float (x : Binary64)
  deriving DecidableEq, Repr

/-- The bound of unsigned 64-bit numbers. -/
def wordBound : Nat := UInt64.size

/-- The power of ten by which `scaleByTen` multiplies or divides at a time. -/
def maxPowerOfTen : Nat := 308

/-- A magnitude times a power of ten, by one rounded multiplication or by rounded divisions of at
most `maxPowerOfTen` places each. A magnitude that would become infinite is refused. Three
divisions take every magnitude to zero. -/
def scaleByTen (x : Binary64) (e : Int) : Option Binary64 :=
  let power (k : Nat) : Binary64 := .ofRatio false (Digits.place k) 1
  if 0 ≤ e then
    if x.isZero then some x
    else if maxPowerOfTen < e.toNat then none
    else
      let y := Binary64.mul false x (power e.toNat)
      if y.isInfinite then none else some y
  else
    let rec divide : Nat → Binary64 → Nat → Binary64
      | 0, _, _ => .zero false
      | fuel + 1, y, k =>
        if k ≤ maxPowerOfTen then Binary64.div false y (power k)
        else if y.isZero then y
        else divide fuel (Binary64.div false y (power maxPowerOfTen)) (k - maxPowerOfTen)
    some (divide 4 x e.natAbs)

/-- The digits of a numeral that fit 64 bits, taken from the left, and how many follow them. -/
def leadingWord : Nat → List Char → Nat × Nat
  | n, [] => (n, 0)
  | n, d :: ds =>
    let m := n * 10 + Digits.valueOf d
    if m < wordBound then leadingWord m ds else (n, ds.length + 1)

namespace Numeral

/-- The digits before the point fit 64 bits. -/
def fits (n : Numeral) : Bool := decide (Digits.value n.whole < wordBound)

/-- The magnitude of a numeral as a binary64 number: as many leading digits as fit 64 bits, rounded,
and then scaled by the power of ten that remains. Digits that do not fit are dropped. A number
that would become infinite is refused. -/
def float? (n : Numeral) : Option Binary64 :=
  let (word, dropped) := leadingWord 0 n.whole
  let (word', dropped') := leadingWord word n.fraction
  let places : Int := dropped - (n.fraction.length - dropped' : Nat)
  let e := n.exponent.getD 0
  if Int32.maxValue.toInt < e.natAbs then
    if word' ≠ 0 ∧ 0 ≤ e then none else some (.zero false)
  else scaleByTen (.ofRatio false word' 1) (places + e)

/-- What a numeral stands for. A numeral without point and exponent is a whole number if it fits 64
bits, signed when negative; minus zero is no whole number. -/
def scalar? (n : Numeral) : Option Scalar :=
  let signed (x : Binary64) : Binary64 := if n.negative then x.neg else x
  let m := Digits.value n.whole
  if n.fraction = [] ∧ n.exponent = none ∧ m < wordBound then
    if !n.negative then some (.int m)
    else if m ≠ 0 ∧ Int64.minValue.toInt ≤ -m then some (.int (-m))
    else some (.float (signed (.ofRatio false m 1)))
  else n.float?.map fun x => .float (signed x)

/-- The whole number, as its shortest numeral. -/
def ofInt (n : Int) : Numeral := { negative := decide (n < 0), whole := Digits.ofNat n.natAbs }

end Numeral

mutual

/-- How deeply arrays and objects are nested; a value that holds none has depth zero. -/
def depth : Json → Nat
  | array items => depthOfItems items + 1
  | object members => depthOfMembers members + 1
  | _ => 0

/-- The greatest depth in a list of values. -/
def depthOfItems : List Json → Nat
  | [] => 0
  | v :: vs => max v.depth (depthOfItems vs)

/-- The greatest depth in a list of members. -/
def depthOfMembers : List (Option String × Json) → Nat
  | [] => 0
  | (_, v) :: ms => max v.depth (depthOfMembers ms)

end

mutual

/-- Every text of the value is whole and every number is in range. -/
def isWhole : Json → Bool
  | number n => n.scalar?.isSome
  | text s => s.isSome
  | array items => areWhole items
  | object members => membersWhole members
  | _ => true

/-- Every value of a list is whole. -/
def areWhole : List Json → Bool
  | [] => true
  | v :: vs => v.isWhole && areWhole vs

/-- Every key and every value of a list of members is whole. -/
def membersWhole : List (Option String × Json) → Bool
  | [] => true
  | (k, v) :: ms => k.isSome && v.isWhole && membersWhole ms

end

/-- The deepest nesting of a value that is read as a whole. -/
def maxDepth : Nat := 127

/-- A value all of which can be used: nested within bounds, with whole texts and numbers in
range. -/
def isSound (v : Json) : Bool := decide (v.depth ≤ maxDepth) && v.isWhole

/-- The number as a JSON value. -/
def ofInt (n : Int) : Json := number (.ofInt n)

/-- The text as a JSON value. -/
def ofText (s : String) : Json := text (some s)

/-- The object with the given members. -/
def ofMembers (members : List (String × Json)) : Json :=
  object (members.map fun m => (some m.1, m.2))

end Json

end GuestRoutines
