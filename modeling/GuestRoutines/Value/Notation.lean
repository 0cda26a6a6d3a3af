import GuestRoutines.Json.Reader
import GuestRoutines.Json.Writer
import GuestRoutines.Value.Basic

/-!
# Host values in JSON

The JSON form of a host value has no tag: a value is the first of null, truth value, 64-bit integer,
float, text and bytes that the JSON value fits. Bytes are an array of their numbers.

## Main definitions

* `HostValue.toJson` — the JSON form
* `HostValue.ofJson?`, `HostValue.parseJson?` — the value that a JSON value or text stands for
* `HostValue.ofWord` — the value that a word on a command line stands for
-/

namespace GuestRoutines.HostValue

/-- A number in JSON form; what is not finite has none. -/
def floatJson (x : Binary64) : String :=
  if x.isNaN || x.isInfinite then "null" else x.text .data

/-- The JSON form of a value. -/
def toJson : HostValue → String
  | null => Json.null.compact
  | bool b => (Json.bool b).compact
  | int n => (Json.ofInt n.toInt).compact
  | float x => floatJson x
  | text s => (Json.ofText s).compact
  | bytes b => (Json.array (b.data.toList.map fun x => Json.ofInt x.toNat)).compact

/-- The byte that a JSON value stands for. -/
def byteOfJson? : Json → Option UInt8
  | .number n =>
    match n.scalar? with
    | some (.int k) => if 0 ≤ k ∧ k < 256 then some (.ofNat k.toNat) else none
    | _ => none
  | _ => none

/-- A whole number as a value: an integer if it fits, and otherwise the nearest float. -/
def ofInt (k : Int) : HostValue :=
  if Int64.minValue.toInt ≤ k ∧ k ≤ Int64.maxValue.toInt then int (.ofInt k)
  else float (.ofRatio (k < 0) k.natAbs 1)

/-- The value that a JSON value stands for. -/
def ofJson? : Json → Option HostValue
  | .null => some null
  | .bool b => some (bool b)
  | .number n =>
    match n.scalar? with
    | some (.int k) => some (ofInt k)
    | some (.float x) => some (float x)
    | none => none
  | .text s => s.map text
  | .array items => (items.mapM byteOfJson?).map fun bs => bytes ⟨bs.toArray⟩
  | .object _ => none

/-- The value that a JSON text stands for. -/
def parseJson? (s : String) : Option HostValue := (Json.parseSound? s).bind ofJson?

/-- The value that a word on a command line stands for: JSON for null, truth values and numbers, and
the word itself otherwise. -/
def ofWord (s : String) : HostValue :=
  match parseJson? s with
  | some null => null
  | some (bool b) => bool b
  | some (int n) => int n
  | some (float x) => float x
  | _ => text s

end GuestRoutines.HostValue
