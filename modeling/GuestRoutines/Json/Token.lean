import GuestRoutines.Json.Basic
import GuestRoutines.Text.Hex

/-!
# JSON tokens

A JSON text is first cut into tokens; blanks between tokens are skipped. A text that holds anything
but tokens and blanks has no token list.

## Main definitions

* `Json.Token` — the tokens
* `Json.text?`, `Json.numeral?` — one text or numeral at the start of the input
* `Json.tokens?` — the whole input in tokens
-/

namespace GuestRoutines.Json

/-- A token of a JSON text. -/
inductive Token where
  | arrayOpen | arrayClose | objectOpen | objectClose | colon | comma
  | null
  | bool (b : Bool)
  | number (n : Numeral)
  | text (s : Option String)
  deriving DecidableEq, Repr

/-- The characters that may stand between tokens. -/
def isGap (c : Char) : Bool := c == ' ' || c == '\n' || c == '\t' || c == '\r'

/-! ### Texts -/

/-- A part of a text: a character, or a 16-bit unit named by an escape. -/
inductive Piece where
  | char (c : Char)
  | unit (n : Nat)
  deriving DecidableEq, Repr

/-- The character that a one-letter escape stands for. -/
def escaped? : Char → Option Char
  | '"' => some '"'
  | '\\' => some '\\'
  | '/' => some '/'
  | 'b' => some '\x08'
  | 'f' => some '\x0c'
  | 'n' => some '\n'
  | 'r' => some '\r'
  | 't' => some '\t'
  | _ => none

/-- The pieces of a text up to its closing quote, and what follows it. Control characters must be
escaped. -/
def pieces? : List Char → Option (List Piece × List Char)
  | [] => none
  | '"' :: rest => some ([], rest)
  | '\\' :: 'u' :: a :: b :: c :: d :: rest =>
    match Text.hexNumber? [a, b, c, d], pieces? rest with
    | some n, some (ps, after) => some (.unit n :: ps, after)
    | _, _ => none
  | '\\' :: e :: rest =>
    match escaped? e, pieces? rest with
    | some c, some (ps, after) => some (.char c :: ps, after)
    | _, _ => none
  | c :: rest =>
    if c.toNat < 0x20 then none
    else (pieces? rest).map fun (ps, after) => (.char c :: ps, after)

/-- The first half of a surrogate pair. -/
def isLeading (n : Nat) : Bool := decide (0xD800 ≤ n ∧ n < 0xDC00)

/-- The second half of a surrogate pair. -/
def isTrailing (n : Nat) : Bool := decide (0xDC00 ≤ n ∧ n < 0xE000)

/-- The characters of a list of pieces. Two units that form a surrogate pair are one character, and
half of a pair is none. -/
def joinPieces? : List Piece → Option (List Char)
  | [] => some []
  | .char c :: rest => (joinPieces? rest).map (c :: ·)
  | .unit n :: .unit m :: rest =>
    if isLeading n then
      if isTrailing m then
        (joinPieces? rest).map (Char.ofNat (0x10000 + (n - 0xD800) * 0x400 + (m - 0xDC00)) :: ·)
      else none
    else if isTrailing n then none
    else (joinPieces? (.unit m :: rest)).map (Char.ofNat n :: ·)
  | .unit n :: rest =>
    if isLeading n || isTrailing n then none else (joinPieces? rest).map (Char.ofNat n :: ·)

/-- The text whose opening quote has been read, and what follows its closing quote. -/
def text? (cs : List Char) : Option (Option String × List Char) :=
  (pieces? cs).map fun (ps, after) => ((joinPieces? ps).map String.ofList, after)

/-! ### Numerals -/

/-- The digits before the point: a zero alone, or digits that do not begin with one. -/
def whole? : List Char → Option (List Char × List Char)
  | '0' :: rest => some (['0'], rest)
  | cs => let (ds, rest) := Digits.span cs; if ds = [] then none else some (ds, rest)

/-- The digits after a point, if one follows. -/
def fraction? : List Char → Option (List Char × List Char)
  | '.' :: cs => let (ds, rest) := Digits.span cs; if ds = [] then none else some (ds, rest)
  | cs => some ([], cs)

/-- The exponent, if one follows. -/
def exponent? : List Char → Option (Option Int × List Char)
  | c :: cs =>
    if c = 'e' ∨ c = 'E' then
      let (negative, cs) := Digits.sign cs
      let (ds, rest) := Digits.span cs
      let n : Int := Digits.value ds
      if ds = [] then none else some (some (if negative then -n else n), rest)
    else some (none, c :: cs)
  | [] => some (none, [])

/-- The sign of a numeral, and what follows it. -/
def numeralSign : List Char → Bool × List Char
  | '-' :: cs => (true, cs)
  | cs => (false, cs)

/-- The numeral at the start of a text, and what follows it. -/
def numeral? (cs : List Char) : Option (Numeral × List Char) := do
  let (negative, cs) := numeralSign cs
  let (whole, cs) ← whole? cs
  let (fraction, cs) ← fraction? cs
  let (exponent, cs) ← exponent? cs
  return ({ negative, whole, fraction, exponent }, cs)

/-! ### The whole input -/

/-- The text without the given characters at its start, if it starts with them. -/
def after? (wanted cs : List Char) : Option (List Char) :=
  if wanted.isPrefixOf cs then some (cs.drop wanted.length) else none

/-- The first token of a text that does not start with a gap, and what follows it. -/
def token? : List Char → Option (Token × List Char)
  | [] => none
  | '[' :: cs => some (.arrayOpen, cs)
  | ']' :: cs => some (.arrayClose, cs)
  | '{' :: cs => some (.objectOpen, cs)
  | '}' :: cs => some (.objectClose, cs)
  | ':' :: cs => some (.colon, cs)
  | ',' :: cs => some (.comma, cs)
  | '"' :: cs => (text? cs).map fun (s, rest) => (.text s, rest)
  | 'n' :: cs => (after? ['u', 'l', 'l'] cs).map ((.null, ·))
  | 't' :: cs => (after? ['r', 'u', 'e'] cs).map ((.bool true, ·))
  | 'f' :: cs => (after? ['a', 'l', 's', 'e'] cs).map ((.bool false, ·))
  | cs => (numeral? cs).map fun (n, rest) => (.number n, rest)

/-- The tokens of a text, cut off one by one. Each token is at least one character long, so as many
rounds as there are characters suffice. -/
def tokensWithin : Nat → List Char → Option (List Token)
  | _, [] => some []
  | 0, _ => none
  | rounds + 1, c :: cs =>
    if isGap c then tokensWithin rounds cs
    else
      match token? (c :: cs) with
      | none => none
      | some (t, rest) => (tokensWithin rounds rest).map (t :: ·)

/-- The tokens of a text. -/
def tokens? (cs : List Char) : Option (List Token) := tokensWithin cs.length cs

end GuestRoutines.Json
