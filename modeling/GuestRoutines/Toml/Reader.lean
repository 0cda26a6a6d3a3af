import GuestRoutines.Toml.Draft
import GuestRoutines.Toml.Number

/-!
# Reading TOML

A document is read line by line. A line opens a table, opens an item of an array of tables, or puts
a value into the table that was opened last. Arrays may run over several lines.

## Main definitions

* `Toml.value?` — the value at the start of a text
* `Toml.Statement`, `Toml.statements?` — the lines of a document
* `Toml.parse?` — the table that a document stands for
-/

namespace GuestRoutines.Toml

/-! ### Values -/

/-- What reads a value at the start of a text. -/
abbrev ValueReader := List Char → Option (Value × List Char)

/-- A value that is no array and no table, and what follows it. -/
def scalar? : ValueReader
  | 't' :: 'r' :: 'u' :: 'e' :: rest => some (.bool true, rest)
  | 'f' :: 'a' :: 'l' :: 's' :: 'e' :: rest => some (.bool false, rest)
  | cs =>
    (text? cs).map (fun (s, rest) => (.text s, rest)) <|>
    (Moment.read? cs).map (fun (m, rest) => (.moment m, rest)) <|>
    (float? cs).map (fun (x, rest) => (.float x, rest)) <|>
    (int? cs).map (fun (n, rest) => (.int n, rest))

/-- The items of an array whose bracket has been read, and what follows the closing bracket. A comma
may stand after the last item. -/
def items? (read : ValueReader) : Nat → List Char → Option (List Value × List Char)
  | 0, _ => none
  | rounds + 1, cs =>
    match skipGaps false cs with
    | ']' :: rest => some ([], rest)
    | cs => do
      let (v, cs) ← read cs
      match skipGaps false cs with
      | ',' :: cs =>
        let (vs, rest) ← items? read rounds cs
        return (v :: vs, rest)
      | ']' :: rest => return ([v], rest)
      | _ => none

/-- A path of names, an equals sign and a value, and what follows them. -/
def pair? (read : ValueReader) (cs : List Char) : Option ((KeyPath × Value) × List Char) := do
  let (key, cs) ← keyPath? cs
  let cs ← char? '=' cs
  let (v, rest) ← read (skipBlanks cs)
  return ((key, v), rest)

/-- The members of a table on one line, of which there is at least one, and what follows the closing
brace. -/
def pairs? (read : ValueReader) : Nat → List Char → Option (List (KeyPath × Value) × List Char)
  | 0, _ => none
  | rounds + 1, cs => do
    let (p, cs) ← pair? read cs
    match skipBlanks cs with
    | ',' :: cs =>
      let (ps, rest) ← pairs? read rounds cs
      return (p :: ps, rest)
    | '}' :: rest => return ([p], rest)
    | _ => none

/-- The table on one line with the given members. -/
def tableOf? (ps : List (KeyPath × Value)) : Option Value := do
  let ms ← ps.foldlM (fun ms p => Drafts.insert p.1 p.2 .stated ms) []
  return (Draft.table .stated ms).finish

/-- A table on one line whose brace has been read, and what follows it. -/
def lineTable? (read : ValueReader) (cs : List Char) : Option (Value × List Char) :=
  match skipBlanks cs with
  | '}' :: rest => some (.table [], rest)
  | cs => do
    let (ps, rest) ← pairs? read (cs.length + 1) cs
    let v ← tableOf? ps
    return (v, rest)

/-- A value in which arrays and tables are nested at most so deep, and what follows it. -/
def value? : Nat → ValueReader
  | 0, cs => scalar? cs
  | depth + 1, cs =>
    match cs with
    | '[' :: cs =>
      (items? (value? depth) (cs.length + 1) cs).map fun (vs, rest) => (.array vs, rest)
    | '{' :: cs => lineTable? (value? depth) cs
    | cs => scalar? cs

/-! ### Documents -/

/-- What a line of a document says. -/
inductive Statement where
  | openTable (key : KeyPath)
  | openItem (key : KeyPath)
  | pair (key : KeyPath) (v : Value)
  deriving Repr

/-- The statement at the start of a text, and what follows it on its line. -/
def statement? : List Char → Option (Statement × List Char)
  | '[' :: '[' :: cs => do
    let (key, cs) ← keyPath? cs
    let cs ← char? ']' cs
    let rest ← char? ']' cs
    return (.openItem key, rest)
  | '[' :: cs => do
    let (key, cs) ← keyPath? cs
    let rest ← char? ']' cs
    return (.openTable key, rest)
  | cs => (pair? (value? maxDepth) cs).map fun ((key, v), rest) => (.pair key v, rest)

/-- The statements of a document. Every line is at least one character long, so as many rounds as
there are characters suffice. -/
def statements? : Nat → List Char → Option (List Statement)
  | 0, _ => none
  | rounds + 1, cs =>
    match skipBlanks cs with
    | [] => some []
    | c :: cs =>
      if c = '#' ∨ c = '\n' ∨ c = '\r' then (endOfLine? (c :: cs)).bind (statements? rounds)
      else do
        let (s, rest) ← statement? (c :: cs)
        let next ← endOfLine? rest
        let others ← statements? rounds next
        return s :: others

/-- A document of which some lines have been read: its members so far, and the path of the table
that was opened last. -/
structure Document where
  members : Drafts := []
  here : List String := []
  deriving Repr

/-- The document with one more statement, unless that is refused. -/
def Document.add (d : Document) : Statement → Option Document
  | .openTable key =>
    (d.members.openTable key).map fun members => { members, here := key.parents ++ [key.name] }
  | .openItem key =>
    (d.members.openItem key).map fun members => { members, here := key.parents ++ [key.name] }
  | .pair key v =>
    (d.members.descend .implied (Drafts.insert key v) d.here .stated).map fun members =>
      { d with members }

/-- The text without a byte order mark at its start. -/
def withoutMark : List Char → List Char
  | '\uFEFF' :: cs => cs
  | cs => cs

/-- The members of the table that a document stands for, in the order in which they were written. -/
def parse? (s : String) : Option Members := do
  let cs := withoutMark s.toList
  let lines ← statements? (cs.length + 1) cs
  let d ← lines.foldlM Document.add {}
  return Drafts.finish d.members

end GuestRoutines.Toml
