import GuestRoutines.Guest.Memory
import GuestRoutines.Settings.Value

/-!
# Settings of the runtime

The runtime has settings for its engine, shared by all calls, and limits for each call. They are
read from the store in a fixed order, and the first one that cannot be read is reported; only then
are the combinations checked that the engine cannot honour.

## Main definitions

* `EngineSettings`, `CallLimits`, `RuntimeSettings` — the settings, with their defaults
* `RuntimeSettings.validate` — the combinations that are refused
* `RuntimeSettings.ofStore` — the settings that a store holds
-/

namespace GuestRoutines

/-- Settings of the engine that all calls share. -/
structure EngineSettings where
  poolingAllocator : Bool := false
  maxInstances : UInt32 := 16
  instanceMemoryMb : UInt32 := 128
  epochInterruption : Bool := true
  epochTickMs : UInt64 := 1
  deriving DecidableEq, Repr, Inhabited

/-- The interval of the engine's clock in milliseconds; it is never zero. -/
def EngineSettings.tick (e : EngineSettings) : Nat := max e.epochTickMs.toNat 1

/-- A number of mebibytes in whole pages of memory. -/
def pagesOf (mebibytes : UInt32) : Nat := mebibytes.toNat * 1024 * 1024 / Memory.pageSize

/-- The size in pages of an instance's memory in a pool. -/
def EngineSettings.instancePages (e : EngineSettings) : Nat := pagesOf e.instanceMemoryMb

/-- Limits of one call. -/
structure CallLimits where
  maxFuel : UInt64 := 10000000
  timeoutMs : UInt64 := 1000
  maxMemoryMb : UInt32 := 128
  fuelMetering : Bool := true
  deriving DecidableEq, Repr, Inhabited

namespace CallLimits

/-- The memory limit in bytes. -/
def maxMemoryBytes (l : CallLimits) : Nat := l.maxMemoryMb.toNat * 1024 * 1024

/-- The memory limit in whole pages. -/
def maxPages (l : CallLimits) : Nat := pagesOf l.maxMemoryMb

end CallLimits

/-- All settings of the runtime. -/
structure RuntimeSettings where
  engine : EngineSettings := {}
  limits : CallLimits := {}
  deriving DecidableEq, Repr, Inhabited

namespace RuntimeSettings

open Settings

/-- The most pages that one call may have. In a pool, memory must also fit its place there. -/
def pageLimit (c : RuntimeSettings) : Nat :=
  if c.engine.poolingAllocator then min c.limits.maxPages c.engine.instancePages
  else c.limits.maxPages

/-- A rule that the settings break. -/
def refuse (key : Key) (fault : Settings.Fault) : Except StartupError Unit :=
  .error (.invalid key.name fault)

/-- Settings that the engine cannot honour are refused; the first broken rule is reported. -/
def validate (c : RuntimeSettings) : Except StartupError Unit :=
  if c.limits.fuelMetering ∧ c.limits.maxFuel = 0 then refuse .maxFuel .zeroFuel
  else if c.engine.epochInterruption ∧ c.limits.timeoutMs = 0 then refuse .timeoutMs .zeroTimeout
  else if c.engine.poolingAllocator ∧ c.engine.maxInstances = 0 then
    refuse .maxInstances .zeroInstances
  else if c.limits.maxMemoryMb = 0 then refuse .maxMemoryMb .zeroMemory
  else .ok ()

/-- The settings that a store holds, each absent one at its default, before they are checked
together. -/
def read (s : Store) : Except StartupError RuntimeSettings := do
  let standard : RuntimeSettings := {}
  let poolingAllocator ←
    s.readOr Key.poolingAllocator.name standard.engine.poolingAllocator Setting.asBool
  let maxInstances ← s.readOr Key.maxInstances.name standard.engine.maxInstances Setting.asUInt32
  let epochInterruption ←
    s.readOr Key.epochInterruption.name standard.engine.epochInterruption Setting.asBool
  let maxFuel ← s.readOr Key.maxFuel.name standard.limits.maxFuel Setting.asUInt64
  let timeoutMs ← s.readOr Key.timeoutMs.name standard.limits.timeoutMs Setting.asUInt64
  let maxMemoryMb ← s.readOr Key.maxMemoryMb.name standard.limits.maxMemoryMb Setting.asUInt32
  let fuelMetering ← s.readOr Key.fuelMetering.name standard.limits.fuelMetering Setting.asBool
  return {
    engine := { poolingAllocator, maxInstances, epochInterruption }
    limits := { maxFuel, timeoutMs, maxMemoryMb, fuelMetering } }

/-- The settings that a store holds, if they can be read and honoured. -/
def ofStore (s : Store) : Except StartupError RuntimeSettings := do
  let c ← read s
  c.validate
  return c

end RuntimeSettings

end GuestRoutines
