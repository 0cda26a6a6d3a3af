import GuestRoutines.Json.Reader

/-!
# Records in JSON

A record is read from an object or from an array. In an object the fields may stand in any order,
other members are skipped, and no field may occur twice. In an array the fields stand in order, and
fields at the end may be left out.

## Main definitions

* `Json.Fields` — the values that a JSON value gives to the fields of a record
* `Json.fields?` — those values
* `Json.Fields.get?` — a field, or its default where the value gives none
* `Json.asBool?`, `Json.asUInt64?`, `Json.asUInt32?`, `Json.asUnit?` — readings of single fields
-/

namespace GuestRoutines.Json

/-- The values of some fields by name. -/
structure Fields where
  entries : List (String × Json)
  deriving Repr

/-- The members of an object that are fields of the record. -/
def knownMembers (names : List String) (members : List (Option String × Json)) :
    List (String × Json) :=
  members.filterMap fun m => m.1.bind fun k => if k ∈ names then some (k, m.2) else none

/-- The values that a JSON value gives to the fields of a record. -/
def fields? (names : List String) : Json → Option Fields
  | .array items => if items.length ≤ names.length then some ⟨names.zip items⟩ else none
  | .object members =>
    let known := knownMembers names members
    if members.all (·.1.isSome) ∧ (known.map (·.1)).Nodup then some ⟨known⟩ else none
  | _ => none

/-- A field, or its default where it has no value. -/
def Fields.get? {α : Type} (f : Fields) (name : String) (default : α) (read : Json → Option α) :
    Option α :=
  match f.entries.lookup name with
  | none => some default
  | some v => read v

/-- A truth value. -/
def asBool? : Json → Option Bool
  | .bool b => some b
  | _ => none

/-- A whole number below a bound. -/
def asBounded? (bound : Nat) : Json → Option Nat
  | .number n =>
    match n.scalar? with
    | some (.int k) => if 0 ≤ k ∧ k < bound then some k.toNat else none
    | _ => none
  | _ => none

/-- A whole number of 64 bits. -/
def asUInt64? (v : Json) : Option UInt64 := (v.asBounded? UInt64.size).map UInt64.ofNat

/-- A whole number of 32 bits. -/
def asUInt32? (v : Json) : Option UInt32 := (v.asBounded? UInt32.size).map UInt32.ofNat

/-- One of several names without contents: the name itself, or an object whose only member has that
name and no value. -/
def asName? : Json → Option String
  | .text s => s
  | .object [(k, .null)] => k
  | _ => none

end GuestRoutines.Json
