import GuestRoutines.Json.Record
import GuestRoutines.Json.Writer
import GuestRoutines.Settings.Runtime

/-!
# Runtime settings in JSON

The settings of the runtime are a record of two records. Every field may be left out and then has
its default, and members that are no fields are skipped.

## Main definitions

* `RuntimeSettings.toJson` — the record of all fields
* `RuntimeSettings.ofJson?`, `RuntimeSettings.parseJson?` — the settings that a record stands for
-/

namespace GuestRoutines

namespace EngineSettings

/-- The names of the fields, in order. -/
def fieldNames : List String :=
  ["pooling_allocator", "max_instances", "instance_memory_mb", "epoch_interruption",
    "epoch_tick_ms"]

/-- The record of all fields. -/
def toJson (e : EngineSettings) : Json :=
  .ofMembers
    [("pooling_allocator", .bool e.poolingAllocator),
      ("max_instances", .ofInt e.maxInstances.toNat),
      ("instance_memory_mb", .ofInt e.instanceMemoryMb.toNat),
      ("epoch_interruption", .bool e.epochInterruption),
      ("epoch_tick_ms", .ofInt e.epochTickMs.toNat)]

/-- The settings that a record stands for. -/
def ofJson? (v : Json) : Option EngineSettings := do
  let f ← v.fields? fieldNames
  let standard : EngineSettings := {}
  return {
    poolingAllocator := ← f.get? "pooling_allocator" standard.poolingAllocator Json.asBool?
    maxInstances := ← f.get? "max_instances" standard.maxInstances Json.asUInt32?
    instanceMemoryMb := ← f.get? "instance_memory_mb" standard.instanceMemoryMb Json.asUInt32?
    epochInterruption := ← f.get? "epoch_interruption" standard.epochInterruption Json.asBool?
    epochTickMs := ← f.get? "epoch_tick_ms" standard.epochTickMs Json.asUInt64? }

end EngineSettings

namespace CallLimits

/-- The names of the fields, in order. -/
def fieldNames : List String := ["max_fuel", "timeout_ms", "max_memory_mb", "fuel_metering"]

/-- The record of all fields. -/
def toJson (l : CallLimits) : Json :=
  .ofMembers
    [("max_fuel", .ofInt l.maxFuel.toNat), ("timeout_ms", .ofInt l.timeoutMs.toNat),
      ("max_memory_mb", .ofInt l.maxMemoryMb.toNat), ("fuel_metering", .bool l.fuelMetering)]

/-- The limits that a record stands for. -/
def ofJson? (v : Json) : Option CallLimits := do
  let f ← v.fields? fieldNames
  let standard : CallLimits := {}
  return {
    maxFuel := ← f.get? "max_fuel" standard.maxFuel Json.asUInt64?
    timeoutMs := ← f.get? "timeout_ms" standard.timeoutMs Json.asUInt64?
    maxMemoryMb := ← f.get? "max_memory_mb" standard.maxMemoryMb Json.asUInt32?
    fuelMetering := ← f.get? "fuel_metering" standard.fuelMetering Json.asBool? }

end CallLimits

namespace RuntimeSettings

/-- The names of the two sections, in order. -/
def fieldNames : List String := ["engine", "execution"]

/-- The record of both sections. -/
def toJson (c : RuntimeSettings) : Json :=
  .ofMembers [("engine", c.engine.toJson), ("execution", c.limits.toJson)]

/-- The settings that a record stands for. -/
def ofJson? (v : Json) : Option RuntimeSettings := do
  let f ← v.fields? fieldNames
  return {
    engine := ← f.get? "engine" {} EngineSettings.ofJson?
    limits := ← f.get? "execution" {} CallLimits.ofJson? }

/-- The settings that a JSON text stands for. -/
def parseJson? (s : String) : Option RuntimeSettings := (Json.parse? s).bind ofJson?

end RuntimeSettings

end GuestRoutines
