import GuestRoutines.Number.Binary64
import GuestRoutines.Toml.Moment

/-!
# TOML values

A TOML document is a table: names with values, some of which are tables again. A table keeps its
members in the order in which they were written, until it is settled what it stands for: a table
whose first member has a name set apart stands for a moment, and the members of any other table are
put in the order of their names.

## Main definitions

* `Toml.Value` — the values
* `Toml.sortMembers` — members in the order of their names
* `Toml.Value.settle?` — a value when it is settled what its tables stand for
* `Toml.Value.members?` — the members of a value that counts as a table
-/

namespace GuestRoutines.Toml

/-- A value of a TOML document. -/
inductive Value where
  | text (s : String)
  | int (n : Int)
  | float (x : Binary64)
  | bool (b : Bool)
  | moment (m : Moment)
  | array (items : List Value)
  | table (members : List (String × Value))
  deriving Repr

/-- Names with values. -/
abbrev Members := List (String × Value)

/-- The members in the order of their names, which is the order of the bytes of the names. -/
def sortMembers (ms : Members) : Members := ms.mergeSort fun a b => decide (a.1 ≤ b.1)

/-- The name set apart, under which a table holds the text of a moment. -/
def momentName : String := "$__toml_private_datetime"

namespace Value

/-- The members of a value where a table is called for. A moment counts as a table that holds
nothing but its text. -/
def members? : Value → Option Members
  | table members => some members
  | moment m => some [(momentName, text m.display)]
  | _ => none

/-- The value of a text. -/
def asText? : Value → Option String
  | text s => some s
  | _ => none

/-- The value of a truth value. -/
def asBool? : Value → Option Bool
  | bool b => some b
  | _ => none

/-- The moment that a value spells. -/
def spelledMoment? (v : Value) : Option Moment := v.asText?.bind Moment.parse?

end Value

mutual

/-- The value when it is settled what its tables stand for. A table whose first member has the name
set apart must spell a moment there, and its other members are passed over. -/
def Value.settle? : Value → Option Value
  | .array items => (settleItems? items).map .array
  | .table [] => some (.table [])
  | .table ((name, v) :: rest) =>
    if name = momentName then v.spelledMoment?.map .moment
    else
      match v.settle?, settleMembers? rest with
      | some first, some others => some (.table (sortMembers ((name, first) :: others)))
      | _, _ => none
  | v => some v

/-- Each value of a list, settled. -/
def settleItems? : List Value → Option (List Value)
  | [] => some []
  | v :: vs =>
    match v.settle?, settleItems? vs with
    | some first, some others => some (first :: others)
    | _, _ => none

/-- Each value of some members, settled. -/
def settleMembers? : Members → Option Members
  | [] => some []
  | (name, v) :: rest =>
    match v.settle?, settleMembers? rest with
    | some first, some others => some ((name, first) :: others)
    | _, _ => none

end

end GuestRoutines.Toml
