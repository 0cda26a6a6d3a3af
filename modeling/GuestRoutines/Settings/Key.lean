/-!
# The settings that the bridge reads

## Main definitions

* `Settings.Key`, `Settings.Key.all` — the recognised settings
* `Settings.Key.name` — the name of a setting
-/

namespace GuestRoutines.Settings

/-- A setting that the bridge recognises. -/
inductive Key where
  /-- The directories that are searched for modules. -/
  | modulePath
  /-- The log threshold, as a host level. -/
  | logMinMessages
  /-- The fuel of one call. -/
  | maxFuel
  /-- Whether fuel is metered. -/
  | fuelMetering
  /-- The time limit of one call. -/
  | timeoutMs
  /-- The memory limit of one call. -/
  | maxMemoryMb
  /-- Whether instances come from a pool. -/
  | poolingAllocator
  /-- The size of the pool. -/
  | maxInstances
  /-- Whether calls are interrupted at their time limit. -/
  | epochInterruption
  deriving DecidableEq, Repr

/-- All settings. -/
def Key.all : List Key :=
  [modulePath, logMinMessages, maxFuel, fuelMetering, timeoutMs, maxMemoryMb, poolingAllocator,
    maxInstances, epochInterruption]

/-- The name under which a setting is stored. -/
def Key.name : Key → String
  | modulePath => "plwasm.module_path"
  | logMinMessages => "plwasm.log_min_messages"
  | maxFuel => "plwasm.max_fuel"
  | fuelMetering => "plwasm.fuel_metering"
  | timeoutMs => "plwasm.timeout_ms"
  | maxMemoryMb => "plwasm.max_memory_mb"
  | poolingAllocator => "plwasm.pooling_allocator"
  | maxInstances => "plwasm.max_instances"
  | epochInterruption => "plwasm.epoch_interruption"

end GuestRoutines.Settings
