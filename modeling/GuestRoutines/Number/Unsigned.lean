import GuestRoutines.Number.Digits

/-!
# Bounded unsigned numbers

A bounded unsigned number is written as an optional plus sign and at least one digit. The digits are
read from the left, and the first thing that goes wrong is reported: a number beyond the bound
before a later character that is no digit.

## Main definitions

* `Unsigned.Fault` — why a text is no bounded number
* `Unsigned.parse` — the number that a text denotes
-/

namespace GuestRoutines.Unsigned

/-- Why a text is no bounded unsigned number. -/
inductive Fault where
  | empty
  | invalidDigit
  | tooLarge
  deriving DecidableEq, Repr

/-- The fault in words. -/
def Fault.message : Fault → String
  | empty => "cannot parse integer from empty string"
  | invalidDigit => "invalid digit found in string"
  | tooLarge => "number too large to fit in target type"

/-- The digits of a text appended to a number that has been read. -/
def scan (bound : Nat) : Nat → List Char → Except Fault Nat
  | n, [] => .ok n
  | n, c :: cs =>
    if c.isDigit then
      let m := n * 10 + Digits.valueOf c
      if m < bound then scan bound m cs else .error .tooLarge
    else .error .invalidDigit

/-- The number below the bound that a text denotes. -/
def parse (bound : Nat) : List Char → Except Fault Nat
  | [] => .error .empty
  | ['+'] => .error .invalidDigit
  | '+' :: ds => scan bound 0 ds
  | ds => scan bound 0 ds

end GuestRoutines.Unsigned
