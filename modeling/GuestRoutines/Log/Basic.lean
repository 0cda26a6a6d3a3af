import GuestRoutines.Level.Mapping

/-!
# The log of the host

Guest messages reach the host through a mapping of their levels and a threshold. The threshold is
kept on the common scale: a message is written if its severity reaches the threshold, at the host
level that the mapping gives it, and is dropped otherwise. The host may refuse a message, and then
the call that logged it unwinds.

## Main definitions

* `Unwinding` — the end of a computation that gives no result
* `Log` — mapping, threshold and what has been written
* `Log.emit` — one message offered to the log
* `HostLevel.reporting` — the coarser level under which a process writes a host level
-/

namespace GuestRoutines

/-- The end of a computation that gives no result; whoever started it is not told more than a
text. -/
structure Unwinding where
  text : String
  deriving DecidableEq, Repr

/-- The log of the host. -/
structure Log where
  levels : LevelMapping := .standard
  /-- The least severity that is written. -/
  threshold : Severity := .warning
  /-- The messages that the host refuses, and with what text. -/
  refusal : String → Option String := fun _ => none
  /-- The messages written so far, the oldest first. -/
  written : List (HostLevel × String) := []

namespace Log

/-- A message of this level would be written. -/
def isEnabled (g : Log) (l : ManagedLevel) : Bool :=
  decide (g.threshold ≤ g.levels.managedToCommon l)

/-- The log with another threshold, and the threshold that it had. -/
def setThreshold (g : Log) (s : Severity) : Severity × Log :=
  (g.threshold, { g with threshold := s })

/-- The log with the threshold of a host level, and the threshold that it had. -/
def setHostThreshold (g : Log) (l : HostLevel) : Severity × Log :=
  g.setThreshold (g.levels.hostToCommon l)

/-- A message offered to the log: whether it was written, and the log afterwards. A severity below
the threshold is dropped. -/
def emit (g : Log) (l : ManagedLevel) (message : String) : Except Unwinding Bool × Log :=
  let severity := g.levels.managedToCommon l
  if Scale.position severity < Scale.position g.threshold then (.ok false, g)
  else
    match g.refusal message with
    | some text => (.error ⟨text⟩, g)
    | none =>
      (.ok true, { g with written := g.written ++ [(g.levels.commonToHost severity, message)] })

/-- A short description for diagnostics. -/
def debug (g : Log) : String :=
  s!"LogBridge \x7b active_level: {Scale.label g.threshold}, .. \x7d"

end Log

/-- The coarser level under which a process writes a message of a host level. -/
def HostLevel.reporting : HostLevel → String
  | debug5 | debug4 | debug3 => "TRACE"
  | debug2 | debug1 => "DEBUG"
  | log | info | notice => "INFO"
  | warning => "WARN"
  | error | fatal | panic => "ERROR"

end GuestRoutines
