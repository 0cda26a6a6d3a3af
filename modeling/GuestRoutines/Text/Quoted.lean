import GuestRoutines.Text.Unshown

/-!
# Quoted texts in diagnostics

Diagnostics put texts between double quotes. Quotes, backslashes and the usual control characters
have short escapes, and every other character that does not show on its own is written by its
number.

## Main definitions

* `Text.quoted` — a text in double quotes
-/

namespace GuestRoutines.Text

/-- The number of a character between braces, in small hexadecimal digits. -/
def numbered (c : Char) : List Char :=
  ['\\', 'u', '\x7b'] ++ Nat.toDigits 16 c.toNat ++ ['\x7d']

/-- One character of a quoted text. -/
def quotedChar (c : Char) : List Char :=
  if c = '\x00' then ['\\', '0']
  else if c = '\t' then ['\\', 't']
  else if c = '\n' then ['\\', 'n']
  else if c = '\r' then ['\\', 'r']
  else if c = '"' then ['\\', '"']
  else if c = '\\' then ['\\', '\\']
  else if c.toNat < 0x20 ∨ (0x7F ≤ c.toNat ∧ c.toNat < 0xA0) ∨ isUnshown c then numbered c
  else [c]

/-- A text in double quotes. -/
def quoted (s : String) : String :=
  String.ofList ('"' :: (s.toList.flatMap quotedChar ++ ['"']))

end GuestRoutines.Text
