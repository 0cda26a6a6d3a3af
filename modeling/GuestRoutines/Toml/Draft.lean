import GuestRoutines.Toml.Text
import GuestRoutines.Toml.Value

/-!
# Tables under construction

The lines of a document put members into tables that are not finished yet. How a table came about
decides what may still be done to it: a table that a header has stated is not stated again, a table
that a path of names has made is only added to by such paths, and a value is never added to.

## Main definitions

* `Toml.Draft` — a member under construction
* `Toml.Drafts.descend` — a change at the end of a path
* `Toml.Drafts.insert`, `Toml.Drafts.openTable`, `Toml.Drafts.openItem` — what lines do
* `Toml.Drafts.finish` — the members when all lines have been read
-/

namespace GuestRoutines.Toml

/-- How a table came about. -/
inductive Origin where
  /-- A header is its own, or it is an item of an array of tables. -/
  | stated
  /-- A header of a table within it has been read. -/
  | implied
  /-- A path of names before a value leads through it. -/
  | dotted
  deriving DecidableEq, Repr

/-- A member under construction. -/
inductive Draft where
  | value (v : Value)
  | table (origin : Origin) (members : List (String × Draft))
  /-- An array of tables, each with its own header; only the last one is still added to. -/
  | tables (earlier : List (List (String × Draft))) (last : List (String × Draft))
  deriving Repr

/-- Names with members under construction. -/
abbrev Drafts := List (String × Draft)

namespace Drafts

/-- The members with the one of a name changed, or added at the end; the change may be refused. -/
def alter (name : String) (change : Option Draft → Option Draft) : Drafts → Option Drafts
  | [] => (change none).map fun d => [(name, d)]
  | (k, d) :: rest =>
    if k = name then (change (some d)).map fun d => (k, d) :: rest
    else (alter name change rest).map ((k, d) :: ·)

/-- The members with a change made to the table at the end of a path. Tables that are missing on the
way come about as `origin` says. The change is told how the table at the end came about. -/
def descend (origin : Origin) (change : Origin → Drafts → Option Drafts) :
    List String → Origin → Drafts → Option Drafts
  | [], here, ms => change here ms
  | name :: path, _, ms =>
    ms.alter name fun
      | none => (descend origin change path origin []).map (.table origin)
      | some (.value _) => none
      | some (.table o inner) =>
        if origin = .dotted ∧ o = .stated then none
        else (descend origin change path o inner).map (.table o)
      | some (.tables earlier last) =>
        (descend origin change path .stated last).map (.tables earlier)

/-- A value put under a path of names into a table. The path must end in a table that such a path
has made, and the last name must be new. -/
def insert (key : KeyPath) (v : Value) (here : Origin) (ms : Drafts) : Option Drafts :=
  descend .dotted
    (fun o inner =>
      if (o == .dotted) == key.parents.isEmpty then none
      else inner.alter key.name fun
        | none => some (.value v)
        | some _ => none)
    key.parents here ms

/-- The members without the one of a name. -/
def erase (name : String) (ms : Drafts) : Drafts := ms.filter (·.1 != name)

/-- The table of a header, which becomes the last member. It may have come about by the headers of
tables within it, but not in any other way. -/
def openTable (key : KeyPath) (ms : Drafts) : Option Drafts :=
  descend .implied
    (fun _ inner =>
      match inner.lookup key.name with
      | none => some (inner ++ [(key.name, .table .stated [])])
      | some (.table .implied within) =>
        some (inner.erase key.name ++ [(key.name, .table .stated within)])
      | some _ => none)
    key.parents .stated ms

/-- A new item of the array of tables of a header. -/
def openItem (key : KeyPath) (ms : Drafts) : Option Drafts :=
  descend .implied
    (fun _ inner => inner.alter key.name fun
      | none => some (.tables [] [])
      | some (.tables earlier last) => some (.tables (earlier ++ [last]) [])
      | some _ => none)
    key.parents .stated ms

end Drafts

mutual

/-- The member, finished. -/
def Draft.finish : Draft → Value
  | .value v => v
  | .table _ ms => .table (Drafts.finish ms)
  | .tables earlier last =>
    .array (Drafts.finishTables earlier ++ [.table (Drafts.finish last)])

/-- Members, each finished. -/
def Drafts.finish : List (String × Draft) → Members
  | [] => []
  | (name, d) :: ms => (name, d.finish) :: Drafts.finish ms

/-- Tables, each finished. -/
def Drafts.finishTables : List (List (String × Draft)) → List Value
  | [] => []
  | ms :: rest => .table (Drafts.finish ms) :: Drafts.finishTables rest

end

end GuestRoutines.Toml
