import GuestRoutines.Level.Scale
import GuestRoutines.Text.Blank

/-!
# The three scales

## Main definitions

* `HostLevel` — the message levels of the host process
* `Severity` — the common scale on which thresholds are kept
* `ManagedLevel` — the levels that guest routines log at
* `HostLevel.parse` — a host level by its configured name
* `ManagedLevel.ofCode` — the level that a guest names by number
-/

namespace GuestRoutines

/-- The common scale of severities, on which the log threshold is kept. -/
inductive Severity where
  | debug | info | warning | error | fatal
  deriving DecidableEq, Repr, Inhabited

/-- The message levels of the host process. -/
inductive HostLevel where
  | debug5 | debug4 | debug3 | debug2 | debug1
  | log | info | notice | warning | error | fatal | panic
  deriving DecidableEq, Repr, Inhabited

/-- The levels at which guest routines log. -/
inductive ManagedLevel where
  | trace | debug | info | warn | error | fatal
  deriving DecidableEq, Repr, Inhabited

/-! ### Severities -/

namespace Severity

/-- The severity in small letters, as data formats write it. -/
def name : Severity → String
  | debug => "debug" | info => "info" | warning => "warning" | error => "error" | fatal => "fatal"

/-- The severity in capitals, as reports write it. -/
def title : Severity → String
  | debug => "DEBUG" | info => "INFO" | warning => "WARNING" | error => "ERROR" | fatal => "FATAL"

instance : Scale Severity where
  levels := [debug, info, warning, error, fatal]
  top := fatal
  rank
    | debug => 10 | info => 20 | warning => 30 | error => 40 | fatal => 50
  position
    | debug => 0 | info => 1 | warning => 2 | error => 3 | fatal => 4
  label
    | debug => "Debug" | info => "Info" | warning => "Warning" | error => "Error"
    | fatal => "Fatal"

/-- The severity at a place on its scale. -/
def ofPosition? (i : Nat) : Option Severity := (Scale.levels (α := Severity))[i]?

/-- The severity of a name in small letters. -/
def ofName? (s : String) : Option Severity := (Scale.levels (α := Severity)).find? (·.name == s)

/-- One severity is at least another when it is no earlier on the scale. -/
instance : LE Severity := ⟨fun a b => Scale.position a ≤ Scale.position b⟩

instance (a b : Severity) : Decidable (a ≤ b) :=
  inferInstanceAs (Decidable (Scale.position a ≤ Scale.position b))

end Severity

/-! ### Host levels -/

namespace HostLevel

/-- The host's own name of the level, as configuration uses it. -/
def name : HostLevel → String
  | debug5 => "debug5" | debug4 => "debug4" | debug3 => "debug3" | debug2 => "debug2"
  | debug1 => "debug1" | log => "log" | info => "info" | notice => "notice"
  | warning => "warning" | error => "error" | fatal => "fatal" | panic => "panic"

/-- The name in capitals, as reports write it. -/
def title (l : HostLevel) : String := Text.upperAscii l.name

instance : Scale HostLevel where
  levels :=
    [debug5, debug4, debug3, debug2, debug1, log, info, notice, warning, error, fatal, panic]
  top := panic
  rank
    | debug5 => 2 | debug4 => 4 | debug3 => 6 | debug2 => 8 | debug1 => 10 | log => 15
    | info => 20 | notice => 20 | warning => 30 | error => 40 | fatal => 50 | panic => 55
  position
    | debug5 => 0 | debug4 => 1 | debug3 => 2 | debug2 => 3 | debug1 => 4 | log => 5
    | info => 6 | notice => 7 | warning => 8 | error => 9 | fatal => 10 | panic => 11
  label
    | debug5 => "Debug5" | debug4 => "Debug4" | debug3 => "Debug3" | debug2 => "Debug2"
    | debug1 => "Debug1" | log => "Log" | info => "Info" | notice => "Notice"
    | warning => "Warning" | error => "Error" | fatal => "Fatal" | panic => "Panic"

/-- The host level of a configured name. Outer blanks and the case of ASCII letters do not matter,
and `debug` alone stands for `debug2`, as it does in the host. -/
def parse (s : String) : Option HostLevel :=
  let wanted := Text.lowerAscii (Text.trim s)
  if wanted = "debug" then some debug2
  else (Scale.levels (α := HostLevel)).find? (·.name == wanted)

/-- What is said of a name that is no host level; the name is given as it was written. -/
def unknownMessage (s : String) : String := s!"Unknown level name: {s}"

end HostLevel

/-! ### Levels of guest routines -/

namespace ManagedLevel

/-- The level in small letters. -/
def name : ManagedLevel → String
  | trace => "trace" | debug => "debug" | info => "info" | warn => "warn" | error => "error"
  | fatal => "fatal"

/-- The level in capitals, as reports write it. -/
def title (l : ManagedLevel) : String := Text.upperAscii l.name

instance : Scale ManagedLevel where
  levels := [trace, debug, info, warn, error, fatal]
  top := fatal
  rank
    | trace => 5 | debug => 10 | info => 20 | warn => 30 | error => 40 | fatal => 50
  position
    | trace => 0 | debug => 1 | info => 2 | warn => 3 | error => 4 | fatal => 5
  label
    | trace => "Trace" | debug => "Debug" | info => "Info" | warn => "Warn" | error => "Error"
    | fatal => "Fatal"

/-- The number by which a guest names the level. -/
def code (l : ManagedLevel) : Nat := Scale.position l

/-- The level that a guest names by number. A number outside the scale stands for the nearer end
of it. -/
def ofCode (n : Int) : ManagedLevel :=
  match n with
  | 1 => debug
  | 2 => info
  | 3 => warn
  | 4 => error
  | n => if n ≤ 0 then trace else fatal

end ManagedLevel

end GuestRoutines
