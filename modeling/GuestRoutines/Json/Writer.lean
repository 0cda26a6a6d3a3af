import GuestRoutines.Json.Basic
import GuestRoutines.Number.Shortest
import GuestRoutines.Text.Hex

/-!
# Writing JSON

Texts are written with as few escapes as possible: quotes, backslashes and control characters only.
A value is written compactly or, for people, with every item and member on a line of its own.

## Main definitions

* `Json.quote` — a text in quotes
* `Json.Numeral.text` — a number as written
* `Json.compact`, `Json.pretty` — a value in its two forms
-/

namespace GuestRoutines.Json

/-- One character of a text, as it stands between quotes. -/
def escape (c : Char) : List Char :=
  if c = '"' then ['\\', '"']
  else if c = '\\' then ['\\', '\\']
  else if c = '\x08' then ['\\', 'b']
  else if c = '\x0c' then ['\\', 'f']
  else if c = '\n' then ['\\', 'n']
  else if c = '\r' then ['\\', 'r']
  else if c = '\t' then ['\\', 't']
  else if c.toNat < 0x20 then
    ['\\', 'u', '0', '0', Text.hexDigit (c.toNat / 16), Text.hexDigit c.toNat]
  else [c]

/-- A text in quotes. -/
def quoteChars (cs : List Char) : List Char := '"' :: (cs.flatMap escape ++ ['"'])

/-- A text in quotes. -/
def quote (s : String) : String := String.ofList (quoteChars s.toList)

/-- A number as written. The exponent always has a sign. -/
def Numeral.text (n : Numeral) : String :=
  let sign := if n.negative then "-" else ""
  let point := if n.fraction = [] then "" else "." ++ String.ofList n.fraction
  let power := match n.exponent with
    | none => ""
    | some e => (if e < 0 then "e-" else "e+") ++ String.ofList (Digits.ofNat e.natAbs)
  sign ++ String.ofList n.whole ++ point ++ power

/-- A text that may be absent; what is absent is written as the empty text. -/
def quoteOption (s : Option String) : String := quote (s.getD "")

mutual

/-- The value without any blanks. -/
def compact : Json → String
  | null => "null"
  | bool b => if b then "true" else "false"
  | number n => n.text
  | text s => quoteOption s
  | array items => "[" ++ ",".intercalate (compactItems items) ++ "]"
  | object members => "\x7b" ++ ",".intercalate (compactMembers members) ++ "\x7d"

/-- Each item of an array on its own. -/
def compactItems : List Json → List String
  | [] => []
  | v :: vs => v.compact :: compactItems vs

/-- Each member of an object on its own. -/
def compactMembers : List (Option String × Json) → List String
  | [] => []
  | (k, v) :: ms => (quoteOption k ++ ":" ++ v.compact) :: compactMembers ms

end

/-- A new line, indented by two blanks for each level. -/
def newLine (level : Nat) : String := "\n" ++ String.ofList (List.replicate (2 * level) ' ')

/-- Parts on lines of their own between brackets; no parts leave the brackets closed up. -/
def block (level : Nat) (left right : String) (parts : List String) : String :=
  if parts = [] then left ++ right
  else
    left ++ ",".intercalate (parts.map (newLine (level + 1) ++ ·)) ++ newLine level ++ right

mutual

/-- The value with every item and member on a line of its own, at a level of indentation. -/
def prettyAt (level : Nat) : Json → String
  | array items => block level "[" "]" (prettyItems (level + 1) items)
  | object members => block level "\x7b" "\x7d" (prettyMembers (level + 1) members)
  | null => "null"
  | bool b => if b then "true" else "false"
  | number n => n.text
  | text s => quoteOption s

/-- Each item of an array, at a level of indentation. -/
def prettyItems (level : Nat) : List Json → List String
  | [] => []
  | v :: vs => v.prettyAt level :: prettyItems level vs

/-- Each member of an object, at a level of indentation. -/
def prettyMembers (level : Nat) : List (Option String × Json) → List String
  | [] => []
  | (k, v) :: ms => (quoteOption k ++ ": " ++ v.prettyAt level) :: prettyMembers level ms

end

/-- The value with every item and member on a line of its own. -/
def pretty (v : Json) : String := v.prettyAt 0

end GuestRoutines.Json
