import GuestRoutines.Call.Outcome
import GuestRoutines.Files.Tree
import GuestRoutines.Log.Basic
import GuestRoutines.Module.Compiled
import GuestRoutines.Routine.Id
import GuestRoutines.Settings.Notation
import GuestRoutines.Trust.Tier

/-!
# Launchers of runtimes

The bridge knows a runtime only by what can be asked of it: to be launched, to find a routine, to
call one and to shut down. Each of these may unwind instead of answering, and each may change the
host, whose log and files it reaches.

## Main definitions

* `Host` — what a runtime reaches of the host
* `StartupParams` — what a runtime is launched with
* `Launcher` — a runtime by what can be asked of it
-/

namespace GuestRoutines

/-- What a runtime reaches of the host. -/
structure Host where
  log : Log := {}
  files : FileTree := .empty

/-- What a runtime is launched with; it stays the same for the life of the runtime. -/
structure StartupParams where
  trust : TrustPolicy
  /-- The directories that modules are loaded from, in the order in which they are searched. -/
  modulePath : List String
  /-- The threshold of the log that was set before the launch. -/
  logThreshold : Severity
  runtime : RuntimeSettings
  deriving DecidableEq, Repr

/-- The parameters as a JSON record. -/
def StartupParams.toJson (p : StartupParams) : Json :=
  .ofMembers
    [("trust", p.trust.toJson), ("module_path", .array (p.modulePath.map .ofText)),
      ("log_threshold", .ofText p.logThreshold.name), ("runtime", p.runtime.toJson)]

/-- A runtime with states in `ρ`, by what can be asked of it. -/
structure Launcher (ρ : Type) where
  launch : StartupParams → Host → Except Unwinding (Except StartupError ρ) × Host
  resolve : RoutineId → ρ → Host → Except Unwinding (Except ModuleError RoutineHandle) × ρ × Host
  call : RoutineHandle → List HostValue → ρ → Host → Except Unwinding RoutineOutcome × ρ × Host
  shutdown : ρ → Host → Except Unwinding Unit × Host

/-- A module error that keeps a runtime from being launched. -/
def StartupError.ofModuleError (e : ModuleError) : StartupError := .failed e.message

end GuestRoutines
