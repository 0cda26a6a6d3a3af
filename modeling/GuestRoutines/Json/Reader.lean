import GuestRoutines.Json.Token

/-!
# Reading JSON

The reader is a machine that takes one token at a time. It keeps the arrays and objects that are
still open and knows what may come next, so reading is a fold over the tokens.

## Main definitions

* `Json.Reader` — the state of the machine
* `Json.Reader.step` — one token taken
* `Json.ofTokens?`, `Json.parse?` — the value of a token list and of a text
-/

namespace GuestRoutines.Json

/-- An array or object that is still open, with what it holds so far, the last first. -/
inductive Frame where
  | array (items : List Json)
  /-- An object that waits for the value of a key. -/
  | object (members : List (Option String × Json)) (key : Option String)
  deriving Repr

/-- What the machine waits for. -/
inductive Expectation where
  /-- A value. -/
  | value
  /-- The first item of an array, or its end. -/
  | firstItem
  /-- A key of an object that holds these members. -/
  | key (members : List (Option String × Json))
  /-- The first key of an object, or its end. -/
  | firstKey
  /-- The colon after a key. -/
  | colon (members : List (Option String × Json)) (key : Option String)
  /-- Whatever may follow a complete value. -/
  | next (v : Json)
  deriving Repr

/-- The machine: the open frames, the innermost first, and what it waits for. -/
structure Reader where
  frames : List Frame
  expects : Expectation
  deriving Repr

namespace Reader

/-- Nothing has been read. -/
def start : Reader := ⟨[], .value⟩

/-- The value that a token is on its own. -/
def scalar? : Token → Option Json
  | .null => some .null
  | .bool b => some (.bool b)
  | .number n => some (.number n)
  | .text s => some (.text s)
  | _ => none

/-- A token where a value must begin. -/
def beginValue (frames : List Frame) : Token → Option Reader
  | .arrayOpen => some ⟨.array [] :: frames, .firstItem⟩
  | .objectOpen => some ⟨frames, .firstKey⟩
  | t => (scalar? t).map fun v => ⟨frames, .next v⟩

/-- A token where a key must stand. -/
def takeKey (frames : List Frame) (members : List (Option String × Json)) :
    Token → Option Reader
  | .text k => some ⟨frames, .colon members k⟩
  | _ => none

/-- A token after a complete value: it goes on or closes the innermost frame. -/
def afterValue (frames : List Frame) (v : Json) (t : Token) : Option Reader :=
  match frames, t with
  | .array items :: rest, .comma => some ⟨.array (v :: items) :: rest, .value⟩
  | .array items :: rest, .arrayClose => some ⟨rest, .next (.array (v :: items).reverse)⟩
  | .object members k :: rest, .comma => some ⟨rest, .key ((k, v) :: members)⟩
  | .object members k :: rest, .objectClose =>
    some ⟨rest, .next (.object ((k, v) :: members).reverse)⟩
  | _, _ => none

/-- One token taken; none if it may not stand here. -/
def step (r : Reader) (t : Token) : Option Reader :=
  match r.expects with
  | .value => beginValue r.frames t
  | .firstItem =>
    match t, r.frames with
    | .arrayClose, _ :: rest => some ⟨rest, .next (.array [])⟩
    | t, frames => beginValue frames t
  | .firstKey =>
    match t with
    | .objectClose => some ⟨r.frames, .next (.object [])⟩
    | t => takeKey r.frames [] t
  | .key members => takeKey r.frames members t
  | .colon members k =>
    match t with
    | .colon => some ⟨.object members k :: r.frames, .value⟩
    | _ => none
  | .next v => afterValue r.frames v t

/-- The value read, when nothing is open any more. -/
def result? (r : Reader) : Option Json :=
  match r with
  | ⟨[], .next v⟩ => some v
  | _ => none

end Reader

/-- The value that a token list spells. -/
def ofTokens? (ts : List Token) : Option Json := (ts.foldlM Reader.step .start).bind (·.result?)

/-- The value that a text spells. -/
def parse? (s : String) : Option Json := (tokens? s.toList).bind ofTokens?

/-- The value that a text spells, if all of it can be used. -/
def parseSound? (s : String) : Option Json := (parse? s).filter (·.isSound)

end GuestRoutines.Json
