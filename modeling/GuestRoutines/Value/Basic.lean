import GuestRoutines.Number.Shortest
import GuestRoutines.Text.Bytes
import GuestRoutines.Text.Hex
import GuestRoutines.Text.Utf8

/-!
# Values of the host

A host value crosses into a guest as bytes: raw bytes as they are, every other value as its text,
and the null value as the absence of bytes. What a guest returns is a text if the bytes are valid
UTF-8, and bytes otherwise.

## Main definitions

* `HostValue` — the values
* `HostValue.display` — a value for people
* `HostValue.toArgument`, `HostValue.ofResult` — the way into a guest and back
-/

namespace GuestRoutines

/-- A value of the host. -/
inductive HostValue where
  | null
  | bool (b : Bool)
  | int (n : Int64)
  | float (x : Binary64)
  | text (s : String)
  | bytes (b : ByteArray)
  deriving DecidableEq

namespace HostValue

def isNull : HostValue → Bool
  | null => true
  | _ => false

/-- A whole number in decimal digits, with a minus sign if it is negative. -/
def intText (n : Int) : String :=
  (if n < 0 then "-" else "") ++ String.ofList (Digits.ofNat n.natAbs)

/-- The word for a truth value. -/
def boolText (b : Bool) : String := if b then "true" else "false"

/-- The value for people. -/
def display : HostValue → String
  | null => "NULL"
  | bool b => boolText b
  | int n => intText n.toInt
  | float x => x.display
  | text s => s
  | bytes b => "\\x" ++ Text.hex b

/-- The bytes by which a guest sees the value; it does not see the null value. -/
def toArgument : HostValue → Option ByteArray
  | null => none
  | bool b => some (boolText b).toUTF8
  | int n => some (intText n.toInt).toUTF8
  | float x => some x.display.toUTF8
  | text s => some s.toUTF8
  | bytes b => some b

/-- The value of what a guest returned, null if it returned nothing. -/
def ofResult : Option ByteArray → HostValue
  | none => null
  | some b =>
    match Text.ofBytes? b with
    | some s => text s
    | none => bytes b

end HostValue

end GuestRoutines
