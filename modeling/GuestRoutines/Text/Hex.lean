/-!
# Hexadecimal digits

## Main definitions

* `Text.hexDigit`, `Text.hexValue?` — a digit for a number and back
* `Text.hex` — bytes, two digits for each
-/

namespace GuestRoutines.Text

/-- A hexadecimal digit in small letters. -/
def hexDigit (n : Nat) : Char := (Nat.toDigits 16 (n % 16)).headD '0'

/-- What a hexadecimal digit of either case stands for. -/
def hexValue? (c : Char) : Option Nat :=
  if c.isDigit then some (c.toNat - '0'.toNat)
  else if 'a' ≤ c ∧ c ≤ 'f' then some (c.toNat - 'a'.toNat + 10)
  else if 'A' ≤ c ∧ c ≤ 'F' then some (c.toNat - 'A'.toNat + 10)
  else none

/-- The number that hexadecimal digits denote. -/
def hexNumber? (cs : List Char) : Option Nat :=
  cs.foldlM (fun n c => (hexValue? c).map (n * 16 + ·)) 0

/-- Bytes in hexadecimal, two small digits for each. -/
def hex (b : ByteArray) : String :=
  String.ofList (b.data.toList.flatMap fun x => [hexDigit (x.toNat / 16), hexDigit x.toNat])

end GuestRoutines.Text
