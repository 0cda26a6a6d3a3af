import GuestRoutines.Text.Hex

/-!
# Fingerprints of module sources

A module is known by a keyed hash of its source with an all-zero key: one round for every eight
bytes and three rounds at the end, over the length of the source in eight bytes followed by the
source itself.

## Main definitions

* `Fingerprint.hash` — the hash of a run of bytes
* `Fingerprint.ofSource` — the fingerprint, in sixteen hexadecimal digits
-/

namespace GuestRoutines.Fingerprint

/-- The four words of the state. -/
structure State where
  a : UInt64
  b : UInt64
  c : UInt64
  d : UInt64
  deriving DecidableEq, Repr

/-- The state for the all-zero key. -/
def start : State :=
  ⟨0x736f6d6570736575, 0x646f72616e646f6d, 0x6c7967656e657261, 0x7465646279746573⟩

/-- A word turned to the left. -/
def turn (x : UInt64) (n : UInt64) : UInt64 := (x <<< n) ||| (x >>> (64 - n))

/-- One round. -/
def State.round (s : State) : State :=
  let a := s.a + s.b
  let b := turn s.b 13 ^^^ a
  let a := turn a 32
  let c := s.c + s.d
  let d := turn s.d 16 ^^^ c
  let a := a + d
  let d := turn d 21 ^^^ a
  let c := c + b
  let b := turn b 17 ^^^ c
  let c := turn c 32
  ⟨a, b, c, d⟩

/-- One word taken in. -/
def State.absorb (s : State) (w : UInt64) : State :=
  let s := { s with d := s.d ^^^ w }.round
  { s with a := s.a ^^^ w }

/-- The word of at most eight bytes, the lowest byte first. -/
def word (bytes : List UInt8) : UInt64 := bytes.foldr (fun x w => w <<< 8 ||| x.toUInt64) 0

/-- Whole words taken in, eight bytes each, and the bytes that are left. -/
def absorbAll (s : State) : List UInt8 → State × List UInt8
  | x0 :: x1 :: x2 :: x3 :: x4 :: x5 :: x6 :: x7 :: rest =>
    absorbAll (s.absorb (word [x0, x1, x2, x3, x4, x5, x6, x7])) rest
  | rest => (s, rest)

/-- The hash of a run of bytes. The last word holds the bytes that are left and the length. -/
def hash (bytes : List UInt8) : UInt64 :=
  let (s, rest) := absorbAll start bytes
  let s := s.absorb (word rest ||| (UInt64.ofNat bytes.length <<< 56))
  let s := { s with c := s.c ^^^ 0xff }.round.round.round
  s.a ^^^ s.b ^^^ s.c ^^^ s.d

/-- The eight bytes of a length, the lowest first. -/
def lengthBytes (n : Nat) : List UInt8 := (List.range 8).map fun i => UInt8.ofNat (n >>> (8 * i))

/-- Sixteen hexadecimal digits of a word. -/
def digits (w : UInt64) : String :=
  String.ofList ((List.range 16).map fun i => Text.hexDigit (w.toNat >>> (4 * (15 - i))))

/-- The fingerprint of a source. -/
def ofSource (source : ByteArray) : String :=
  digits (hash (lengthBytes source.size ++ source.data.toList))

end GuestRoutines.Fingerprint
