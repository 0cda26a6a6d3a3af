import GuestRoutines.Number.Binary64
import GuestRoutines.Number.Digits
import GuestRoutines.Text.Hex

/-!
# Numbers in TOML

Whole numbers have 64 bits and may be written in base ten, sixteen, eight or two. Other numbers are
binary64 numbers. A single underscore may stand between any two digits.

## Main definitions

* `Toml.digits?` — a run of digits with underscores between them
* `Toml.int?` — the whole number at the start of a text
* `Toml.float?` — the binary64 number at the start of a text
-/

namespace GuestRoutines.Toml

/-- The digits at the start of a text, without the underscores between two of them, and what follows
them. -/
def grouped (isDigit : Char → Bool) : List Char → List Char × List Char
  | [] => ([], [])
  | c :: rest =>
    if isDigit c then
      let (ds, after) := grouped isDigit rest
      (c :: ds, after)
    else
      match c, rest with
      | '_', d :: _ => if isDigit d then grouped isDigit rest else ([], c :: rest)
      | _, _ => ([], c :: rest)

/-- A run of at least one digit, in which a single underscore may stand between two digits, and what
follows it. -/
def digits? (isDigit : Char → Bool) : List Char → Option (List Char × List Char)
  | [] => none
  | c :: rest => if isDigit c then some (grouped isDigit (c :: rest)) else none

/-- The digits before a point: a zero alone, or digits that do not begin with one. -/
def whole? : List Char → Option (List Char × List Char)
  | '0' :: rest => some (['0'], rest)
  | cs => digits? Char.isDigit cs

/-- The number that digits denote in a base of up to sixteen. -/
def valueIn (base : Nat) (ds : List Char) : Nat :=
  ds.foldl (fun n c => n * base + (Text.hexValue? c).getD 0) 0

/-- A digit of a base of up to sixteen. -/
def isDigitOf (base : Nat) (c : Char) : Bool := (Text.hexValue? c).any (· < base)

/-- A whole number of 64 bits. -/
def signed? (n : Int) : Option Int :=
  if Int64.minValue.toInt ≤ n ∧ n ≤ Int64.maxValue.toInt then some n else none

/-- A whole number without sign whose digits follow a mark of their base. -/
def based? (base : Nat) (cs : List Char) : Option (Int × List Char) := do
  let (ds, rest) ← digits? (isDigitOf base) cs
  let n ← signed? (valueIn base ds)
  return (n, rest)

/-- A whole number in base ten, perhaps with a sign. -/
def decimal? (cs : List Char) : Option (Int × List Char) := do
  let (negative, cs) := Digits.sign cs
  let (ds, rest) ← whole? cs
  let m : Int := Digits.value ds
  let n ← signed? (if negative then -m else m)
  return (n, rest)

/-- The whole number at the start of a text, and what follows it. -/
def int? : List Char → Option (Int × List Char)
  | '0' :: 'x' :: cs => based? 16 cs
  | '0' :: 'o' :: cs => based? 8 cs
  | '0' :: 'b' :: cs => based? 2 cs
  | cs => decimal? cs

/-- The exponent at the start of a text, and what follows it. -/
def exponent? : List Char → Option (Int × List Char)
  | c :: cs =>
    if c = 'e' ∨ c = 'E' then do
      let (negative, cs) := Digits.sign cs
      let (ds, rest) ← digits? Char.isDigit cs
      let m : Int := Digits.value ds
      return (if negative then -m else m, rest)
    else none
  | [] => none

/-- Decimals and exponent of a number, of which there must be at least one, and what follows
them. -/
def scale? : List Char → Option ((List Char × Int) × List Char)
  | '.' :: cs => do
    let (ds, rest) ← digits? Char.isDigit cs
    match exponent? rest with
    | some (e, rest) => return ((ds, e), rest)
    | none => return ((ds, 0), rest)
  | cs => (exponent? cs).map fun (e, rest) => (([], e), rest)

/-- The number at the start of a text that is one of the words for no finite number. -/
def special? (negative : Bool) : List Char → Option (Binary64 × List Char)
  | 'i' :: 'n' :: 'f' :: rest => some (.infinity negative, rest)
  | 'n' :: 'a' :: 'n' :: rest => some (.nan negative, rest)
  | _ => none

/-- A number with decimals or an exponent. One that is too large above is refused; one that is too
large below is infinite. -/
def scaled? (negative : Bool) (cs : List Char) : Option (Binary64 × List Char) := do
  let (whole, cs) ← whole? cs
  let ((decimals, e), rest) ← scale? cs
  let x := Binary64.ofDecimal negative (Digits.value (whole ++ decimals)) (e - decimals.length)
  if x = .infinity false then none else return (x, rest)

/-- The binary64 number at the start of a text, and what follows it. -/
def float? (cs : List Char) : Option (Binary64 × List Char) :=
  let (negative, cs) := Digits.sign cs
  scaled? negative cs <|> special? negative cs

end GuestRoutines.Toml
