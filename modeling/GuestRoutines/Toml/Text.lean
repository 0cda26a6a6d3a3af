import GuestRoutines.Text.Hex

/-!
# Texts, names and gaps in TOML

A text stands between double quotes, where a backslash begins an escape, or between single quotes,
where every character stands for itself. Three quotes instead of one begin a text that may run over
several lines. A name is a word, or a text on one line.

## Main definitions

* `Toml.skipBlanks`, `Toml.skipGaps`, `Toml.endOfLine?` — what may stand between values
* `Toml.text?` — the text at the start of the input
* `Toml.keyPath?` — names with points between them
-/

namespace GuestRoutines.Toml

/-! ### Gaps -/

/-- A blank within a line. -/
def isBlank (c : Char) : Bool := c == ' ' || c == '\t'

/-- A character that may stand in comments and texts as it is: no control character but the tab. -/
def isPlain (c : Char) : Bool := c == '\t' || (decide (0x20 ≤ c.toNat) && c != '\x7f')

/-- The input without the blanks at its start. -/
def skipBlanks (cs : List Char) : List Char := cs.dropWhile isBlank

/-- What follows a line break at the start of the input. -/
def newline? : List Char → Option (List Char)
  | '\n' :: cs => some cs
  | '\r' :: '\n' :: cs => some cs
  | _ => none

/-- The input without a comment at its start. -/
def skipComment : List Char → List Char
  | '#' :: cs => cs.dropWhile isPlain
  | cs => cs

/-- What follows the line in which the input begins, if nothing but blanks and a comment is left of
that line. -/
def endOfLine? (cs : List Char) : Option (List Char) :=
  match skipComment (skipBlanks cs) with
  | [] => some []
  | cs => newline? cs

/-- The input without the blanks, line breaks and comments at its start; `commented` says that it
begins within a comment. -/
def skipGaps (commented : Bool) : List Char → List Char
  | [] => []
  | '\n' :: cs => skipGaps false cs
  | '\r' :: '\n' :: cs => skipGaps false cs
  | '#' :: cs => skipGaps true cs
  | c :: cs =>
    if (if commented then isPlain c else isBlank c) then skipGaps commented cs else c :: cs

/-- The input without the blanks and line breaks at its start. -/
def skipLines : List Char → List Char
  | '\r' :: '\n' :: cs => skipLines cs
  | c :: cs => if isBlank c || c == '\n' then skipLines cs else c :: cs
  | [] => []

/-! ### Texts -/

/-- The character whose number the next `n` hexadecimal digits denote, and what follows them. -/
def numbered? (n : Nat) (cs : List Char) : Option (Char × List Char) := do
  let ds := cs.take n
  let code ← Text.hexNumber? ds
  if ds.length = n ∧ code.isValidChar then return (Char.ofNat code, cs.drop n) else none

/-- The character that an escape stands for, and what follows it. -/
def escape? : List Char → Option (Char × List Char)
  | 'b' :: cs => some ('\x08', cs)
  | 't' :: cs => some ('\t', cs)
  | 'n' :: cs => some ('\n', cs)
  | 'f' :: cs => some ('\x0c', cs)
  | 'r' :: cs => some ('\r', cs)
  | '"' :: cs => some ('"', cs)
  | '\\' :: cs => some ('\\', cs)
  | 'u' :: cs => numbered? 4 cs
  | 'U' :: cs => numbered? 8 cs
  | _ => none

/-- The kind of a text: the quote it stands between, and whether it may run over several lines. -/
structure Quotation where
  quote : Char
  multiline : Bool
  deriving DecidableEq, Repr

namespace Quotation

/-- A backslash begins an escape. -/
def hasEscapes (q : Quotation) : Bool := q.quote == '"'

/-- How many quotes end a text. -/
def width (q : Quotation) : Nat := if q.multiline then 3 else 1

/-- The most quotes that may stand at the end of a text without being told apart from its end. -/
def spare (q : Quotation) : Nat := if q.multiline then 2 else 0

/-- The end of a text: the quotes that still belong to it, and what follows the quotes that end it.
Of more quotes than are needed, the last ones end the text. -/
def ending? (q : Quotation) (cs : List Char) : Option (List Char × List Char) :=
  let run := (cs.takeWhile (· == q.quote)).length
  if run < q.width then none
  else
    let own := min (run - q.width) q.spare
    some (List.replicate own q.quote, cs.drop (own + q.width))

/-- A part of a text before its end: the characters that it stands for, and what follows it. A
backslash at the end of a line joins the line with what comes next. -/
def part? (q : Quotation) (cs : List Char) : Option (List Char × List Char) :=
  match q.multiline, newline? cs with
  | true, some rest => some (['\n'], rest)
  | _, _ =>
    match cs with
    | [] => none
    | c :: rest =>
      if c = '\\' ∧ q.hasEscapes then
        match q.multiline, newline? (skipBlanks rest) with
        | true, some next => some ([], skipLines next)
        | _, _ => (escape? rest).map fun (x, after) => ([x], after)
      else if isPlain c then some ([c], rest)
      else none

/-- The characters of a text whose beginning has been read, and what follows its end. Every part is
at least one character long, so as many rounds as there are characters suffice. -/
def body? (q : Quotation) : Nat → List Char → Option (List Char × List Char)
  | 0, _ => none
  | rounds + 1, cs =>
    match q.ending? cs with
    | some found => some found
    | none =>
      match q.part? cs with
      | none => none
      | some (part, rest) => (q.body? rounds rest).map fun (s, after) => (part ++ s, after)

/-- The text whose opening quotes have been read, and what follows it. -/
def read? (q : Quotation) (cs : List Char) : Option (String × List Char) :=
  (q.body? (cs.length + 1) cs).map fun (s, rest) => (String.ofList s, rest)

end Quotation

/-- A text on one line, and what follows it. -/
def lineText? : List Char → Option (String × List Char)
  | '"' :: cs => (⟨'"', false⟩ : Quotation).read? cs
  | '\'' :: cs => (⟨'\'', false⟩ : Quotation).read? cs
  | _ => none

/-- A text, and what follows it. A line break at the very start of a text of several lines is left
out. -/
def text? : List Char → Option (String × List Char)
  | '"' :: '"' :: '"' :: cs => (⟨'"', true⟩ : Quotation).read? ((newline? cs).getD cs)
  | '\'' :: '\'' :: '\'' :: cs => (⟨'\'', true⟩ : Quotation).read? ((newline? cs).getD cs)
  | cs => lineText? cs

/-! ### Names -/

/-- Names with points between them: the last one, and those that lead to it. -/
structure KeyPath where
  parents : List String
  name : String
  deriving DecidableEq, Repr

/-- The deepest nesting of tables and arrays, and the most names in a path. -/
def maxDepth : Nat := 79

/-- A character of a name that needs no quotes. -/
def isWordChar (c : Char) : Bool := c.isAlphanum || c == '-' || c == '_'

/-- A name, and what follows it. -/
def name? (cs : List Char) : Option (String × List Char) :=
  match cs.takeWhile isWordChar with
  | [] => lineText? cs
  | word => some (String.ofList word, cs.dropWhile isWordChar)

/-- Names with points between them, and what follows them; blanks may stand around every name. -/
def names? : Nat → List Char → Option (List String × List Char)
  | 0, _ => none
  | rounds + 1, cs => do
    let (name, cs) ← name? (skipBlanks cs)
    match skipBlanks cs with
    | '.' :: cs =>
      let (others, rest) ← names? rounds cs
      return (name :: others, rest)
    | rest => return ([name], rest)

/-- A path of names, and what follows it. -/
def keyPath? (cs : List Char) : Option (KeyPath × List Char) := do
  let (names, rest) ← names? maxDepth cs
  let name ← names.getLast?
  return ({ parents := names.dropLast, name }, rest)

end GuestRoutines.Toml
