import GuestRoutines.Embedding.Launcher

/-!
# The lifecycle of the embedded runtime

The runtime is launched at most once, by the first caller that needs it, and how the launch went is
remembered: a failure is given again to every later caller, and a launch that unwound is never
repeated. Until then the trust tier may be changed, and afterwards it may not.

## Main definitions

* `Lifecycle` — how far the runtime has come
* `Embedder` — the lifecycle, with the settings and the host that a launch needs
* `Embedder.ensureReady` — the runtime launched if nobody has tried before
* `Embedder.setPosture`, `Embedder.refreshLogLevel`, `Embedder.teardown` — the other operations
* `RuntimeEvent` — what has been asked of the runtime
-/

namespace GuestRoutines

/-- How far a runtime with states in `ρ` has come. -/
inductive Lifecycle (ρ : Type) where
  /-- Nobody has tried to launch it. -/
  | uninitialized (tier : TrustTier)
  /-- A launch is under way, or has unwound. -/
  | initializing (tier : TrustTier)
  | ready (params : StartupParams) (runtime : ρ)
  | failed (error : StartupError) (tier : TrustTier)
  /-- It has been torn down for good. -/
  | shuttingDown (tier : TrustTier)

/-- The states of the lifecycle by name. -/
inductive LifecycleState where
  | uninitialized | initializing | ready | failed | shuttingDown
  deriving DecidableEq, Repr

namespace LifecycleState

/-- The state as data formats write it. -/
def name : LifecycleState → String
  | uninitialized => "uninitialized"
  | initializing => "initializing"
  | ready => "ready"
  | failed => "failed"
  | shuttingDown => "shutting_down"

/-- The state in words. -/
def display : LifecycleState → String
  | shuttingDown => "shutting down"
  | s => s.name

/-- The name that diagnostics give a state. -/
def label : LifecycleState → String
  | uninitialized => "Uninitialized"
  | initializing => "Initializing"
  | ready => "Ready"
  | failed => "Failed"
  | shuttingDown => "ShuttingDown"

end LifecycleState

namespace Lifecycle

variable {ρ : Type}

/-- The state by name. -/
def state : Lifecycle ρ → LifecycleState
  | uninitialized _ => .uninitialized
  | initializing _ => .initializing
  | ready _ _ => .ready
  | failed _ _ => .failed
  | shuttingDown _ => .shuttingDown

/-- The trust tier, chosen or fixed. -/
def tier : Lifecycle ρ → TrustTier
  | uninitialized t | initializing t | failed _ t | shuttingDown t => t
  | ready params _ => params.trust.tier

/-- The parameters of a runtime that is ready. -/
def params? : Lifecycle ρ → Option StartupParams
  | ready params _ => some params
  | _ => none

/-- The runtime, if it is ready. -/
def runtime? : Lifecycle ρ → Option ρ
  | ready _ runtime => some runtime
  | _ => none

/-- The error that is remembered. -/
def error? : Lifecycle ρ → Option StartupError
  | failed error _ => some error
  | _ => none

end Lifecycle

/-- An operation that is refused because of the state of the lifecycle. -/
inductive Misuse where
  /-- The trust tier cannot be changed any more. -/
  | postureFixed (state : LifecycleState)
  | other (reason : String)
  deriving DecidableEq, Repr

namespace Misuse

/-- Why the operation is refused. -/
def reason : Misuse → String
  | postureFixed state => s!"trust posture cannot change once the runtime is {state.display}"
  | other reason => reason

/-- The refusal as an error of its own. -/
def display (m : Misuse) : String := s!"Misuse: {m.reason}"

end Misuse

/-- What has been asked of a runtime. -/
inductive RuntimeEvent where
  /-- A launch, and whether it gave a runtime. -/
  | launch (params : StartupParams) (launched : Bool)
  /-- A routine looked up, and what was found. -/
  | resolve (id : RoutineId) (found : Option RoutineHandle)
  | call (handle : RoutineHandle)
  | shutdown
  deriving DecidableEq, Repr

/-- The lifecycle of a runtime, with the settings and the host that a launch needs. -/
structure Embedder (ρ : Type) where
  lifecycle : Lifecycle ρ := .uninitialized .trusted
  /-- How often a launch has been tried. -/
  attempts : Nat := 0
  settings : Settings.Store
  host : Host
  /-- What has been asked of the runtime so far, in order. -/
  events : List RuntimeEvent := []

namespace Embedder

variable {ρ : Type}

/-- The level of messages that the host writes unless a setting says otherwise. -/
def defaultLogLevel : HostLevel := .warning

/-- The level of messages that the host is set to write. -/
def logLevel (s : Settings.Store) : Except StartupError HostLevel :=
  s.readOr Settings.Key.logMinMessages.name defaultLogLevel Setting.asHostLevel

/-- What the runtime is launched with. The module path is read first, then the log level, then the
settings of the runtime. -/
def startupParams (s : Settings.Store) (levels : LevelMapping) (tier : TrustTier) :
    Except StartupError StartupParams := do
  let path ← s.require Settings.Key.modulePath.name
  let modulePath ← path.asPaths
  let level ← logLevel s
  let runtime ← RuntimeSettings.ofStore s
  return {
    trust := .ofTier tier
    modulePath
    logThreshold := levels.hostToCommon level
    runtime }

/-- The embedder with something added to what has been asked of the runtime. -/
def noting (e : Embedder ρ) (event : RuntimeEvent) : Embedder ρ :=
  { e with events := e.events ++ [event] }

/-- The embedder with the threshold of the host's log replaced. -/
def withThreshold (e : Embedder ρ) (s : Severity) : Embedder ρ :=
  { e with host := { e.host with log := (e.host.log.setThreshold s).2 } }

/-- What a caller is told of a runtime that somebody has tried to launch before. -/
def settled (e : Embedder ρ) : Except StartupError Unit :=
  match e.lifecycle with
  | .uninitialized _ | .ready _ _ => .ok ()
  | .failed error _ => .error error
  | .initializing _ => .error .interrupted
  | .shuttingDown _ => .error .shutDown

/-- The one attempt to launch the runtime. The threshold of the log is set before the launch and put
back if the launch fails; a launch that unwinds leaves everything as it was at that moment. -/
def start (L : Launcher ρ) (tier : TrustTier) (e : Embedder ρ) :
    Except Unwinding (Except StartupError Unit) × Embedder ρ :=
  let e := { e with lifecycle := .initializing tier, attempts := e.attempts + 1 }
  match startupParams e.settings e.host.log.levels tier with
  | .error error => (.ok (.error error), { e with lifecycle := .failed error tier })
  | .ok params =>
    let before := e.host.log.threshold
    let e := e.withThreshold params.logThreshold
    match L.launch params e.host with
    | (.error u, host) => (.error u, { e with host }.noting (.launch params false))
    | (.ok (.error error), host) =>
      let e := { e with host }.noting (.launch params false)
      (.ok (.error error), { e.withThreshold before with lifecycle := .failed error tier })
    | (.ok (.ok runtime), host) =>
      let e := { e with host }.noting (.launch params true)
      (.ok (.ok ()), { e with lifecycle := .ready params runtime })

/-- The runtime launched if nobody has tried before; otherwise what came of it. -/
def ensureReady (L : Launcher ρ) (e : Embedder ρ) :
    Except Unwinding (Except StartupError Unit) × Embedder ρ :=
  match e.lifecycle with
  | .uninitialized tier => e.start L tier
  | _ => (.ok e.settled, e)

/-- The trust tier changed, as long as nobody has tried to launch the runtime; the answer is the
tier that was chosen before. -/
def setPosture (tier : TrustTier) (e : Embedder ρ) : Except Misuse TrustTier × Embedder ρ :=
  match e.lifecycle with
  | .uninitialized before => (.ok before, { e with lifecycle := .uninitialized tier })
  | l => (.error (.postureFixed l.state), e)

/-- The log level read again and set as the threshold; the answer is the threshold then in force. -/
def refreshLogLevel (e : Embedder ρ) : Except StartupError Severity × Embedder ρ :=
  match logLevel e.settings with
  | .error error => (.error error, e)
  | .ok level =>
    let e := e.withThreshold (e.host.log.levels.hostToCommon level)
    (.ok e.host.log.threshold, e)

/-- The runtime torn down for good. It is shut down if it was ready. -/
def teardown (L : Launcher ρ) (e : Embedder ρ) : Except Unwinding Unit × Embedder ρ :=
  let after := { e with lifecycle := .shuttingDown e.lifecycle.tier }
  match e.lifecycle with
  | .ready _ runtime =>
    let (ending, host) := L.shutdown runtime e.host
    (ending, { after with host }.noting .shutdown)
  | _ => (.ok (), after)

/-- A short description for diagnostics. -/
def debug (e : Embedder ρ) : String :=
  s!"RuntimeEmbedder \x7b state: {e.lifecycle.state.label}, trust: {e.lifecycle.tier.label}, " ++
    s!"startup_attempts: {e.attempts}, log: {e.host.log.debug}, .. \x7d"

end Embedder

end GuestRoutines
