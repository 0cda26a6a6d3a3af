import GuestRoutines.Number.Shortest
import GuestRoutines.Settings.Value
import GuestRoutines.Toml.Value
import GuestRoutines.Value.Basic

/-!
# Tables of settings as flat lists

The store knows settings by one name each, while a document nests them in tables. A nested setting
is stored under the names that lead to it with points between them, and its value is stored as a
text. A list of texts becomes a list of paths; no other list can be stored.

## Main definitions

* `Settings.joinPaths` — texts as a list of paths
* `Settings.rawText` — the text as which a value is stored
* `Settings.flatten` — all settings of a table
-/

namespace GuestRoutines.Settings

/-- Why an array cannot be stored as a list of paths. -/
inductive ListFault where
  /-- An item is no text. -/
  | notText
  /-- A text holds the character that is to stand between the paths. -/
  | separator
  deriving DecidableEq, Repr

/-- A setting that cannot be stored. -/
structure FlatError where
  key : String
  fault : ListFault
  deriving DecidableEq, Repr

/-- The error in words. -/
def FlatError.message (e : FlatError) : String :=
  match e.fault with
  | .notText => s!"setting '{e.key}' must be an array of strings"
  | .separator => s!"setting '{e.key}': path segment contains separator `:`"

/-- Texts as a list of paths; no text may hold the separator. -/
def joinPaths (paths : List String) : Except ListFault String :=
  if paths.any (·.toList.contains Setting.pathSeparator) then .error .separator
  else .ok ((String.singleton Setting.pathSeparator).intercalate paths)

/-- The items of an array as a list of paths. -/
def joinItems (items : List Toml.Value) : Except ListFault String :=
  match items.mapM Toml.Value.asText? with
  | none => .error .notText
  | some paths => joinPaths paths

/-- The text as which a value other than a table is stored. -/
def rawText : Toml.Value → Except ListFault String
  | .text s => .ok s
  | .int n => .ok (HostValue.intText n)
  | .float x => .ok x.display
  | .bool b => .ok (if b then "on" else "off")
  | .moment m => .ok m.display
  | .array items => joinItems items
  | .table _ => .ok ""

/-- The name under which a member is stored, below the names that lead to its table. -/
def nested (above name : String) : String := if above = "" then name else above ++ "." ++ name

mutual

/-- The settings of a value that is stored under a name. -/
def flattenValue (key : String) : Toml.Value → Except FlatError (List (String × String))
  | .table members => flattenBelow key members
  | v =>
    match rawText v with
    | .ok raw => .ok [(key, raw)]
    | .error fault => .error ⟨key, fault⟩

/-- The settings of the members of a table, below the names that lead to it. -/
def flattenBelow (above : String) :
    List (String × Toml.Value) → Except FlatError (List (String × String))
  | [] => .ok []
  | (name, v) :: rest => do
    let first ← flattenValue (nested above name) v
    let others ← flattenBelow above rest
    return first ++ others

end

/-- The settings of a table. Of two settings with one name, the later one is stored. -/
def flatten (members : Toml.Members) : Except FlatError Table :=
  (flattenBelow "" members).map Table.ofList

end GuestRoutines.Settings
