/-!
# Decoding bytes as text

Bytes that are valid UTF-8 are the text that they encode. Where a text is needed whatever the bytes
are, each stretch that cannot begin a character is replaced by one replacement character; a stretch
is as long as it could still be the start of a character.

## Main definitions

* `Text.ofBytes?` — the text that bytes encode
* `Text.ofBytesLossy` — the text with replacements
-/

namespace GuestRoutines.Text

/-- The text that bytes encode, if they are valid UTF-8. -/
def ofBytes? (b : ByteArray) : Option String := String.fromUTF8? b

/-- What stands for a stretch of bytes that encodes no character. -/
def replacement : Char := '\uFFFD'

/-- What a first byte calls for: the bits it gives to the character, the range of the second byte,
and how many bytes follow in all. -/
structure Lead where
  bits : Nat
  low : Nat
  high : Nat
  followers : Nat
  deriving Repr

/-- The demands of a first byte that begins a character of more than one byte. The narrower ranges
keep out overlong forms, surrogates and numbers beyond the last code point. -/
def lead? (a : Nat) : Option Lead :=
  if 0xC2 ≤ a ∧ a ≤ 0xDF then some ⟨a - 0xC0, 0x80, 0xBF, 1⟩
  else if a = 0xE0 then some ⟨0, 0xA0, 0xBF, 2⟩
  else if a = 0xED then some ⟨0xD, 0x80, 0x9F, 2⟩
  else if 0xE1 ≤ a ∧ a ≤ 0xEF then some ⟨a - 0xE0, 0x80, 0xBF, 2⟩
  else if a = 0xF0 then some ⟨0, 0x90, 0xBF, 3⟩
  else if 0xF1 ≤ a ∧ a ≤ 0xF3 then some ⟨a - 0xF0, 0x80, 0xBF, 3⟩
  else if a = 0xF4 then some ⟨4, 0x80, 0x8F, 3⟩
  else none

/-- The character built from a first byte's bits and the bytes that follow it, and how many of those
belong to it. The first one must lie in the given range and the others be continuation bytes; at the
first that does not fit, the stretch so far is replaced. -/
def follow (bits low high : Nat) : Nat → List UInt8 → Char × Nat
  | 0, _ => (Char.ofNat bits, 0)
  | _ + 1, [] => (replacement, 0)
  | n + 1, b :: rest =>
    if low ≤ b.toNat ∧ b.toNat ≤ high then
      let (c, k) := follow (bits * 64 + (b.toNat - 0x80)) 0x80 0xBF n rest
      (c, k + 1)
    else (replacement, 0)

/-- The first character of bytes that begin with `a`, and how many more bytes it takes. -/
def firstChar (a : UInt8) (rest : List UInt8) : Char × Nat :=
  if a.toNat < 0x80 then (Char.ofNat a.toNat, 0)
  else
    match lead? a.toNat with
    | some l => follow l.bits l.low l.high l.followers rest
    | none => (replacement, 0)

/-- The characters of bytes, with replacements. -/
def lossyChars : List UInt8 → List Char
  | [] => []
  | a :: rest =>
    let (c, k) := firstChar a rest
    c :: lossyChars (rest.drop k)
termination_by bs => bs.length
decreasing_by simp only [List.length_drop, List.length_cons]; omega

/-- The text of bytes, with replacements. -/
def ofBytesLossy (b : ByteArray) : String := String.ofList (lossyChars b.data.toList)

end GuestRoutines.Text
