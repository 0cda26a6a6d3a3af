import GuestRoutines.Embedding.Launcher

/-!
# Scripted runtimes

A scripted runtime answers as it has been told beforehand. It shows how a bridge behaves when a
runtime fails or unwinds at any point.

## Main definitions

* `Script` — what a runtime has been told
* `Script.launcher` — the runtime as a launcher
-/

namespace GuestRoutines

/-- How a scripted call ends. -/
inductive Script.Ending where
  /-- With the argument at an index, or null if there is none. -/
  | echo (index : Nat)
  | outcome (o : RoutineOutcome)
  | unwinds (text : String)

/-- What a routine of a scripted runtime does. -/
structure Script.Behaviour where
  /-- The routine cannot be found, for this reason. -/
  refusal : Option ModuleError := none
  /-- The messages that the routine logs before it ends. -/
  logs : List (ManagedLevel × String) := []
  ending : Script.Ending := .outcome (.success .null)

/-- What a scripted runtime has been told. -/
structure Script where
  /-- A message that the launch logs. -/
  launchLog : Option String := none
  /-- The launch unwinds with this text. -/
  launchUnwinds : Option String := none
  launchError : Option StartupError := none
  /-- The routines by the texts of their identifiers. -/
  routines : List (String × Script.Behaviour) := []

namespace Script

/-- Messages logged one after the other, until one of them unwinds. -/
def logAll (host : Host) : List (ManagedLevel × String) → Except Unwinding Unit × Host
  | [] => (.ok (), host)
  | (level, message) :: rest =>
    match host.log.emit level message with
    | (.ok _, log) => logAll { host with log } rest
    | (.error u, log) => (.error u, { host with log })

/-- A launch: it logs, then unwinds, then fails, as far as it has been told to. -/
def launch (s : Script) (host : Host) : Except Unwinding (Except StartupError Unit) × Host :=
  match logAll host ((s.launchLog.map fun m => (.info, m)).toList) with
  | (.error u, host) => (.error u, host)
  | (.ok (), host) =>
    match s.launchUnwinds, s.launchError with
    | some text, _ => (.error ⟨text⟩, host)
    | none, some e => (.ok (.error e), host)
    | none, none => (.ok (.ok ()), host)

/-- A routine looked up. -/
def resolve (s : Script) (id : RoutineId) : Except ModuleError RoutineHandle :=
  match s.routines.lookup id.display with
  | none => .error (.notFound id.display)
  | some b =>
    match b.refusal with
    | some e => .error e
    | none => .ok { id }

/-- A routine called: it logs its messages and then ends. -/
def call (s : Script) (id : RoutineId) (arguments : List HostValue) (host : Host) :
    Except Unwinding RoutineOutcome × Host :=
  let b := (s.routines.lookup id.display).getD {}
  match logAll host b.logs with
  | (.error u, host) => (.error u, host)
  | (.ok (), host) =>
    match b.ending with
    | .echo i => (.ok (.success ((arguments[i]?).getD .null)), host)
    | .outcome o => (.ok o, host)
    | .unwinds text => (.error ⟨text⟩, host)

/-- The runtime as a launcher; it has no state of its own. -/
def launcher (s : Script) : Launcher Unit where
  launch _ host := s.launch host
  resolve id _ host := (.ok (s.resolve id), (), host)
  call handle arguments _ host :=
    let (outcome, host) := s.call handle.id arguments host
    (outcome, (), host)
  shutdown _ host := (.ok (), host)

end Script

end GuestRoutines
