import GuestRoutines.Settings.Key
import GuestRoutines.Settings.Store
import GuestRoutines.Startup.Error

/-!
# Typed reading of settings

A raw value is read as a truth value, a number, a list of paths or a level. A value that cannot be
read is an error that names the setting; it never gives way to a default or to a lower layer.

## Main definitions

* `Setting` — a name with its raw value
* `Setting.asBool`, `Setting.asUInt64`, `Setting.asUInt32`, `Setting.asPaths`,
  `Setting.asHostLevel` — the readings
* `Settings.Store.require`, `Settings.Store.readOr` — readings of stored settings
-/

namespace GuestRoutines

/-- A setting: its name and its raw value. -/
structure Setting where
  key : String
  raw : String
  deriving DecidableEq, Repr

namespace Setting

/-- The setting cannot be used. -/
def refuse {α : Type} (s : Setting) (fault : Settings.Fault) : Except StartupError α :=
  .error (.invalid s.key fault)

/-- The truth value that a word spells, whatever the case of its ASCII letters. -/
def truthOf? (word : String) : Option Bool :=
  if word ∈ ["on", "true", "yes", "1"] then some true
  else if word ∈ ["off", "false", "no", "0"] then some false
  else none

/-- The setting as a truth value. -/
def asBool (s : Setting) : Except StartupError Bool :=
  let word := Text.lowerAscii (Text.trim s.raw)
  match truthOf? word with
  | some b => .ok b
  | none => s.refuse (.notBoolean word)

/-- The raw value without outer blanks and without underscores. -/
def digits (s : Setting) : List Char := (Text.trimChars s.raw.toList).filter (· != '_')

/-- The setting as a number of 64 bits. -/
def asUInt64 (s : Setting) : Except StartupError UInt64 :=
  match Unsigned.parse UInt64.size s.digits with
  | .ok n => .ok (.ofNat n)
  | .error fault => s.refuse (.notUnsigned fault)

/-- The setting as a number of 32 bits. -/
def asUInt32 (s : Setting) : Except StartupError UInt32 := do
  let n ← s.asUInt64
  if n.toNat < UInt32.size then .ok (.ofNat n.toNat) else s.refuse (.outOfRange n.toNat)

/-- The character between the members of a list of paths. -/
def pathSeparator : Char := ':'

/-- A text cut at every separator. -/
def splitPaths (cs : List Char) : List (List Char) := cs.splitOn pathSeparator

/-- The setting as a list of paths. Blanks are trimmed around the whole list only, and empty members
are dropped; a list that has no other members is refused. -/
def asPaths (s : Setting) : Except StartupError (List String) :=
  match (splitPaths (Text.trimChars s.raw.toList)).filter (· ≠ []) with
  | [] => s.refuse .noPaths
  | paths => .ok (paths.map String.ofList)

/-- The setting as a host level. -/
def asHostLevel (s : Setting) : Except StartupError HostLevel :=
  match HostLevel.parse s.raw with
  | some l => .ok l
  | none => s.refuse (.unknownLevel s.raw)

end Setting

namespace Settings.Store

/-- The stored setting of a name. -/
def setting? (s : Store) (name : String) : Option Setting := (s.lookup? name).map (⟨name, ·⟩)

/-- The stored setting of a name, without which startup is impossible. -/
def require (s : Store) (name : String) : Except StartupError Setting :=
  match s.setting? name with
  | some v => .ok v
  | none => .error (.missing name)

/-- A stored setting as it is read, or the default of a setting that is not stored. -/
def readOr {α : Type} (s : Store) (name : String) (default : α)
    (read : Setting → Except StartupError α) : Except StartupError α :=
  match s.setting? name with
  | some v => read v
  | none => .ok default

end Settings.Store

end GuestRoutines
