/-!
# Runs of decimal digits

Every format of this library writes whole numbers as runs of ASCII digits. A run stands for the
number that it denotes in base ten; leading zeros are of no account.

## Main definitions

* `Digits.value`, `Digits.place` — the number that a run denotes, and the worth of a place
* `Digits.ofNat` — the shortest run that denotes a number
* `Digits.span` — the longest run at the start of a text, and what follows it
* `Digits.sign` — the sign at the start of a text, and what follows it
-/

namespace GuestRoutines.Digits

/-- What one ASCII digit stands for. -/
def valueOf (c : Char) : Nat := c.toNat - '0'.toNat

/-- The number that a run of digits denotes in base ten. -/
def value (ds : List Char) : Nat := ds.foldl (fun n c => n * 10 + valueOf c) 0

/-- What a one is worth that `n` digits follow: ten to the power of `n`. -/
def place (n : Nat) : Nat := Nat.pow 10 n

/-- The digits of a number, without leading zeros. -/
def ofNat (n : Nat) : List Char := Nat.toDigits 10 n

/-- The longest run of digits at the start of a text, and what follows it. -/
def span (cs : List Char) : List Char × List Char :=
  (cs.takeWhile Char.isDigit, cs.dropWhile Char.isDigit)

/-- The sign at the start of a text, negative or not, and what follows it. -/
def sign : List Char → Bool × List Char
  | '-' :: cs => (true, cs)
  | '+' :: cs => (false, cs)
  | cs => (false, cs)

/-- The digits of a number, preceded by zeros up to a given width. -/
def padded (width n : Nat) : List Char :=
  List.replicate (width - (ofNat n).length) '0' ++ ofNat n

end GuestRoutines.Digits
