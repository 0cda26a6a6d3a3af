import GuestRoutines.Call.Execution
import GuestRoutines.Embedding.Launcher
import GuestRoutines.Module.Catalog
import GuestRoutines.Module.Engine

/-!
# The runtime that serves compiled modules

The runtime keeps a catalogue of modules. Some modules are given to it when it is launched, and the
others come from the directories of the module path. Every call instantiates its module afresh, so
nothing of a call but its log messages outlives it.

## Main definitions

* `deadlineTicks`, `RuntimeSettings.timeLimit` — the time limit of a call, in ticks of the engine's
  clock and in milliseconds
* `ModuleRuntime` — the state of the runtime
* `ModuleRuntime.launch`, `ModuleRuntime.resolve`, `ModuleRuntime.call`,
  `ModuleRuntime.shutdown` — what can be asked of it
* `ModuleRuntime.launcher` — the same as a launcher
-/

namespace GuestRoutines

/-- A short description of the engine for diagnostics. -/
def RuntimeSettings.engineDebug (c : RuntimeSettings) : String :=
  s!"WasmEngine \x7b pooling_allocator: {c.engine.poolingAllocator}, " ++
    s!"epoch_interruption: {c.engine.epochInterruption}, " ++
    s!"fuel_metering: {c.limits.fuelMetering}, .. \x7d"

/-- The time limit of a call in ticks of the engine's clock, rounded up and never zero. -/
def deadlineTicks (timeoutMs tickMs : UInt64) : UInt64 :=
  let tick := max tickMs 1
  let whole := timeoutMs / tick
  max (if timeoutMs % tick = 0 then whole else whole + 1) 1

/-- The time limit of a call in milliseconds, in whole ticks, if calls are interrupted at it. -/
def RuntimeSettings.timeLimit (c : RuntimeSettings) : Option Nat :=
  if c.engine.epochInterruption then
    some ((deadlineTicks c.limits.timeoutMs c.engine.epochTickMs).toNat * c.engine.tick)
  else none

/-- The state of a runtime that serves compiled modules. -/
structure ModuleRuntime where
  params : StartupParams
  catalog : Catalog
  /-- The runtime has not been shut down. -/
  live : Bool := true

namespace ModuleRuntime

/-- The conditions under which every call runs. -/
def conditions (r : ModuleRuntime) : Conditions where
  pageLimit := r.params.runtime.pageLimit
  instanceLimit := r.params.runtime.engine.places?
  metered := r.params.runtime.limits.fuelMetering
  timeLimit := r.params.runtime.timeLimit
  capabilities := r.params.trust.capabilities

/-- The modules that are given at launch, compiled and kept in order. -/
def registerAll (compiler : Compiler) (c : Catalog) :
    List (String × String) → Except ModuleError Catalog
  | [] => .ok c
  | (name, text) :: rest =>
    match c.register compiler name text with
    | (.ok _, c) => registerAll compiler c rest
    | (.error e, _) => .error e

/-- The first of some paths that is not a directory. -/
def firstNonDirectory? (files : FileTree) (dirs : List String) : Option String :=
  dirs.find? fun dir => !files.isDirectory dir

/-- A launch: every path must be a directory, the engine must be created, and every given module
must compile. -/
def launch (compiler : Compiler) (given : List (String × String)) (params : StartupParams)
    (files : FileTree) : Except StartupError ModuleRuntime :=
  match firstNonDirectory? files params.modulePath with
  | some dir => .error (.invalid Settings.Key.modulePath.name (.notDirectory dir))
  | none =>
    let engine := params.runtime.engine
    match engine.create with
    | .error e => .error (.ofModuleError e)
    | .ok () =>
      match registerAll (compiler.within engine) { searchPath := params.modulePath } given with
      | .ok catalog => .ok { params, catalog }
      | .error e => .error (.ofModuleError e)

/-- The module of a name, kept or loaded by the engine of the runtime. -/
def load (compiler : Compiler) (files : FileTree) (name : String) (r : ModuleRuntime) :
    Except ModuleError CompiledModule × Catalog :=
  r.catalog.load (compiler.within r.params.runtime.engine) files name

/-- A routine looked up: its module must be kept or found, and must export it. -/
def resolve (compiler : Compiler) (files : FileTree) (id : RoutineId) (r : ModuleRuntime) :
    Except ModuleError RoutineHandle × ModuleRuntime :=
  match r.load compiler files id.module with
  | (.error e, catalog) => (.error e, { r with catalog })
  | (.ok m, catalog) =>
    if m.program.exportsRoutine id.exportName then
      (.ok { id, fingerprint := some m.fingerprint }, { r with catalog })
    else (.error (.notFound id.display), { r with catalog })

/-- The module of a routine could not be loaded for a call. -/
def loadFailure (name : String) (e : ModuleError) : ManagedError :=
  { kind := .loadFailed, message := s!"failed to load module '{name}': {e.message}" }

/-- The fault of a call to a runtime that has been shut down. -/
def shutDownFault : NativeFault := ⟨"runtime has been shut down"⟩

/-- The fault of a call that unwound. -/
def unwoundFault (u : Unwinding) : NativeFault := ⟨s!"panic inside the embedded runtime: {u.text}"⟩

/-- The context in which a call begins. -/
def context (arguments : List HostValue) (log : Log) : CallContext :=
  { callId := "", arguments := arguments.map (·.toArgument), log }

/-- A call of a routine. A call that unwinds is a fault. -/
def call (compiler : Compiler) (id : RoutineId) (arguments : List HostValue) (r : ModuleRuntime)
    (host : Host) : RoutineOutcome × ModuleRuntime × Host :=
  if !r.live then (.fatal shutDownFault, r, host)
  else
    match r.load compiler host.files id.module with
    | (.error e, catalog) => (.recoverable (loadFailure id.module e), { r with catalog }, host)
    | (.ok m, catalog) =>
      let budget := r.params.runtime.limits.maxFuel.toNat
      let (ending, after) :=
        m.program.execute r.conditions budget id.exportName (context arguments host.log)
      let outcome := match ending with
        | .ok outcome => outcome
        | .error u => .fatal (unwoundFault u)
      (outcome, { r with catalog }, { host with log := after.log })

/-- The runtime after it has been shut down. -/
def shutdown (r : ModuleRuntime) : ModuleRuntime := { r with live := false }

/-- The runtime as a launcher. -/
def launcher (compiler : Compiler) (given : List (String × String)) : Launcher ModuleRuntime where
  launch params host := (.ok (launch compiler given params host.files), host)
  resolve id r host :=
    let (answer, r) := r.resolve compiler host.files id
    (.ok answer, r, host)
  call handle arguments r host :=
    let (outcome, r, host) := r.call compiler handle.id arguments host
    (.ok outcome, r, host)
  shutdown _ host := (.ok (), host)

/-- A short description for diagnostics. -/
def debug (r : ModuleRuntime) : String :=
  s!"WasmRuntime \x7b engine: {r.params.runtime.engineDebug}, catalog: {r.catalog.debug}, " ++
    s!"live: {r.live}, .. \x7d"

end ModuleRuntime

end GuestRoutines
