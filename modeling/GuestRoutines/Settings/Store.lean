import GuestRoutines.Text.Blank

/-!
# The store of settings

The host keeps its settings in layers. A name is looked up layer by layer, and the first layer that
has it decides.

## Main definitions

* `Settings.Table` — names with raw values
* `Settings.variableName` — the environment variable of a setting
* `Settings.Layer`, `Settings.Store` — where raw values come from
* `Settings.Store.lookup?` — the raw value that decides
-/

namespace GuestRoutines.Settings

/-- Names with raw values; every name occurs at most once. -/
structure Table where
  entries : List (String × String)
  deriving DecidableEq, Repr

namespace Table

/-- No settings at all. -/
def empty : Table := ⟨[]⟩

/-- The raw value of a name. -/
def lookup? (t : Table) (name : String) : Option String := t.entries.lookup name

/-- The table without a name. -/
def erase (t : Table) (name : String) : Table := ⟨t.entries.filter (·.1 != name)⟩

/-- The table with a raw value put in the place of any earlier one. -/
def insert (t : Table) (name raw : String) : Table := ⟨(t.erase name).entries ++ [(name, raw)]⟩

/-- The table with the given entries; of two entries with one name, the later one stays. -/
def ofList (entries : List (String × String)) : Table :=
  entries.foldl (fun t e => t.insert e.1 e.2) empty

/-- The number of names. -/
def size (t : Table) : Nat := t.entries.length

end Table

/-- The environment variable of a setting: ASCII letters are made capital, ASCII digits stay, and
every other character becomes an underscore. -/
def variableName (name : String) : String :=
  String.ofList (name.toList.map fun c => if c.isAlphanum then c.toUpper else '_')

/-- A source of raw values. -/
inductive Layer where
  /-- The environment, where a setting has the name of its variable. -/
  | environment (values : Table)
  /-- A table of settings. -/
  | table (settings : Table)
  deriving DecidableEq, Repr

/-- The raw value that a layer has for a name. -/
def Layer.lookup? : Layer → String → Option String
  | environment values, name => values.lookup? (variableName name)
  | table settings, name => settings.lookup? name

/-- The layers, the one that decides first at the head. -/
structure Store where
  layers : List Layer
  deriving DecidableEq, Repr

namespace Store

/-- The raw value of the first layer that has the name. -/
def lookup? (s : Store) (name : String) : Option String := s.layers.findSome? (·.lookup? name)

/-- A short description of the store for diagnostics. -/
def debug (s : Store) : String := s!"LayeredConfig \x7b layers: {s.layers.length} \x7d"

/-- What diagnostics say of a typed reader of a store, whose contents they leave out. -/
def readerDebug : String := "ConfigBridge \x7b .. \x7d"

/-- The store whose only layer is a table. -/
def ofTable (t : Table) : Store := ⟨[.table t]⟩

end Store

/-- What is said of a name that no layer has. -/
def notFoundMessage (name : String) : String := s!"Configuration key not found: {name}"

end GuestRoutines.Settings
