import GuestRoutines.Files.Tree
import GuestRoutines.Settings.Flat
import GuestRoutines.Toml.Reader

/-!
# The configuration file of the host

The configuration file has two parts: flags of the host itself, and the settings of the store. Both
may be left out, and anything else in the file is skipped.

## Main definitions

* `HostFlags` — the flags of the host
* `ConfigurationFile` — both parts
* `ConfigurationFile.parse?` — the parts in a text
* `ConfigurationFile.ofFile` — the parts in a file
* `ConfigurationFile.table` — the settings as they are stored
-/

namespace GuestRoutines

/-- The flags of the host. -/
structure HostFlags where
  /-- Guests are kept in their sandbox. -/
  trusted : Bool := true
  /-- The format of the host's own log, not checked yet. -/
  logFormat : String := "text"
  deriving DecidableEq, Repr, Inhabited

namespace HostFlags

/-- The names of the flags, in order. -/
def fieldNames : List String := ["trusted", "log_format"]

/-- A flag among named values, or its default where it is not named. -/
def get? {α : Type} (entries : Toml.Members) (name : String) (default : α)
    (read : Toml.Value → Option α) : Option α :=
  match entries.lookup name with
  | none => some default
  | some v => read v

/-- The flags among named values. -/
def ofEntries? (entries : Toml.Members) : Option HostFlags := do
  let standard : HostFlags := {}
  return {
    trusted := ← get? entries "trusted" standard.trusted Toml.Value.asBool?
    logFormat := ← get? entries "log_format" standard.logFormat Toml.Value.asText? }

/-- The flags that a value stands for: a table names them, and an array gives the first of them in
order. -/
def ofValue? : Toml.Value → Option HostFlags
  | .array items => ofEntries? (fieldNames.zip items)
  | v => v.members?.bind ofEntries?

end HostFlags

/-- The contents of a configuration file. -/
structure ConfigurationFile where
  host : HostFlags := {}
  settings : Toml.Members := []
  deriving Repr, Inhabited

/-- Why there is no configuration. -/
inductive ConfigurationError where
  | unreadable (path : String) (fault : FileFault)
  /-- The text is no document of the expected form. -/
  | malformed
  | setting (e : Settings.FlatError)
  deriving DecidableEq, Repr

namespace ConfigurationError

/-- The error in words. -/
def message : ConfigurationError → String
  | unreadable path fault => s!"Failed to read config file '{path}': {fault.message}"
  | malformed => "Failed to parse config file: the text is no valid configuration"
  | setting e => s!"Failed to parse config file: {e.message}"

/-- What caused the error, in words. -/
def cause? : ConfigurationError → Option String
  | unreadable _ fault => some fault.message
  | _ => none

end ConfigurationError

namespace ConfigurationFile

/-- The parts that the members of a document stand for. -/
def ofMembers? (members : Toml.Members) : Option ConfigurationFile := do
  let host ← match members.lookup "host" with
    | none => some {}
    | some v => HostFlags.ofValue? v
  let settings ← match members.lookup "settings" with
    | none => some []
    | some v => (v.members?.bind Toml.settleMembers?).map Toml.sortMembers
  return { host, settings }

/-- The parts in a text. -/
def parse? (s : String) : Option ConfigurationFile := (Toml.parse? s).bind ofMembers?

/-- The parts in a file. -/
def ofFile (files : FileTree) (path : String) : Except ConfigurationError ConfigurationFile :=
  match files.readText path with
  | .error fault => .error (.unreadable path fault)
  | .ok s =>
    match parse? s with
    | none => .error .malformed
    | some c => .ok c

/-- The settings as they are stored. -/
def table (c : ConfigurationFile) : Except ConfigurationError Settings.Table :=
  (Settings.flatten c.settings).mapError .setting

end ConfigurationFile

end GuestRoutines
