import GuestRoutines.Embedding.Report

/-!
# The bridge of a host process

A host process has one bridge: the embedded runtime with its lifecycle, and a count of the calls.

## Main definitions

* `Bridge` — the state of the bridge
* `Bridge.call`, `Bridge.setTrust`, `Bridge.shutdown` — what the host does with it
-/

namespace GuestRoutines

/-- The bridge of a host process. -/
structure Bridge (ρ : Type) where
  embedder : Embedder ρ
  counts : CallCounts := {}

namespace Bridge

variable {ρ : Type}

/-- A bridge whose runtime nobody has tried to launch. -/
def new (settings : Settings.Store) (host : Host) : Bridge ρ :=
  { embedder := { settings, host } }

/-- A call of a routine on behalf of the host. -/
def call (L : Launcher ρ) (routine : String) (arguments : List HostValue) (b : Bridge ρ) :
    Except Unwinding (Except HostError HostValue) × Bridge ρ :=
  let (outcome, counts, embedder) := b.counts.invoke L routine arguments b.embedder
  (outcome.map HostError.ofOutcome, { embedder, counts })

/-- The trust tier chosen by the host's flag. -/
def setTrust (trusted : Bool) (b : Bridge ρ) : Except HostError Unit × Bridge ρ :=
  match b.embedder.setPosture (.ofTrusted trusted) with
  | (.ok _, embedder) => (.ok (), { b with embedder })
  | (.error m, embedder) => (.error (.ofMisuse m), { b with embedder })

/-- The runtime torn down for good. -/
def shutdown (L : Launcher ρ) (b : Bridge ρ) : Except Unwinding Unit × Bridge ρ :=
  let (ending, embedder) := b.embedder.teardown L
  (ending, { b with embedder })

/-- A short description for diagnostics. -/
def debug (b : Bridge ρ) : String :=
  s!"BridgeContext \x7b embedder: {b.embedder.debug}, " ++
    s!"dispatcher: CallDispatcher \x7b stats: {b.counts.debug} \x7d, " ++
    s!"log: {b.embedder.host.log.debug} \x7d"

end Bridge

end GuestRoutines
