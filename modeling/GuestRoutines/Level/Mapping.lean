import GuestRoutines.Level.Basic

/-!
# Mapping levels between the scales

A mapping holds the four tables between host levels, severities and guest levels, and it
exists only for tables that are all safe.

## Main definitions

* `LevelTables` — four tables, safe or not
* `LevelTables.check` — the first flaw, looked for table by table
* `LevelMapping` — four safe tables
* `LevelMapping.standard` — the tables that rounding up yields
* `LevelMapping.hostLevel` — the host level at which a guest's message is written
-/

namespace GuestRoutines

/-- The four tables between host levels, severities and the levels of guest routines. -/
structure LevelTables where
  hostToCommon : HostLevel → Severity
  commonToHost : Severity → HostLevel
  managedToCommon : ManagedLevel → Severity
  commonToManaged : Severity → ManagedLevel

/-- The first flaw found in four tables, and the table that has it. -/
inductive TableError where
  | hostToCommon (flaw : TableFlaw HostLevel Severity)
  | commonToHost (flaw : TableFlaw Severity HostLevel)
  | managedToCommon (flaw : TableFlaw ManagedLevel Severity)
  | commonToManaged (flaw : TableFlaw Severity ManagedLevel)
  deriving DecidableEq, Repr

namespace TableError

/-- The error in words: the table, then its flaw. -/
def message : TableError → String
  | hostToCommon f => s!"host_to_common: {f.message}"
  | commonToHost f => s!"common_to_host: {f.message}"
  | managedToCommon f => s!"managed_to_common: {f.message}"
  | commonToManaged f => s!"common_to_managed: {f.message}"

/-- The error is a descent, and not a demotion. -/
def isDescent : TableError → Bool
  | hostToCommon (.descends ..) | commonToHost (.descends ..)
  | managedToCommon (.descends ..) | commonToManaged (.descends ..) => true
  | _ => false

end TableError

namespace LevelTables

/-- The four tables are checked in a fixed order, and the first flaw is reported. -/
def check (t : LevelTables) : Except TableError Unit := do
  (checkTable t.hostToCommon).mapError .hostToCommon
  (checkTable t.commonToHost).mapError .commonToHost
  (checkTable t.managedToCommon).mapError .managedToCommon
  (checkTable t.commonToManaged).mapError .commonToManaged

/-- The tables that rounding ranks up yields. -/
def standard : LevelTables where
  hostToCommon := Scale.project
  commonToHost := Scale.project
  managedToCommon := Scale.project
  commonToManaged := Scale.project

/-- Two quadruples of tables agree when they send every level to the same level. -/
def agrees (s t : LevelTables) : Bool :=
  Scale.levels.all (fun l => s.hostToCommon l == t.hostToCommon l) &&
  Scale.levels.all (fun l => s.commonToHost l == t.commonToHost l) &&
  Scale.levels.all (fun l => s.managedToCommon l == t.managedToCommon l) &&
  Scale.levels.all (fun l => s.commonToManaged l == t.commonToManaged l)

end LevelTables

/-- Four tables that are all safe. -/
structure LevelMapping extends LevelTables where
  safe : toLevelTables.check = .ok ()

namespace LevelMapping

/-- The mapping of four tables, if they are safe. -/
def ofTables (t : LevelTables) : Except TableError LevelMapping :=
  match h : t.check with
  | .ok () => .ok ⟨t, h⟩
  | .error e => .error e

/-- The mapping whose tables come from rounding ranks up. -/
def standard : LevelMapping := ⟨LevelTables.standard, rfl⟩

/-- The host level at which a guest's message is written: its level goes through the common
scale. -/
def hostLevel (t : LevelMapping) (l : ManagedLevel) : HostLevel :=
  t.commonToHost (t.managedToCommon l)

end LevelMapping

end GuestRoutines
