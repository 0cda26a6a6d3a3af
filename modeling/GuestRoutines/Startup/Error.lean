import GuestRoutines.Level.Basic
import GuestRoutines.Number.Unsigned

/-!
# Why startup fails

## Main definitions

* `Settings.Fault` — what is wrong with the value of a setting
* `StartupError` — what keeps the runtime from becoming ready
-/

namespace GuestRoutines

/-- What is wrong with the value of a setting. -/
inductive Settings.Fault where
  /-- No spelling of a truth value; the text is given without outer blanks and in small letters. -/
  | notBoolean (text : String)
  | notUnsigned (fault : Unsigned.Fault)
  /-- A number that fits 64 bits but not the 32 bits of the setting. -/
  | outOfRange (n : Nat)
  | noPaths
  | unknownLevel (text : String)
  | zeroFuel
  | zeroTimeout
  | zeroInstances
  | zeroMemory
  | notDirectory (dir : String)
  /-- A fault that a launcher reports in its own words. -/
  | other (text : String)
  deriving DecidableEq, Repr

/-- The fault in words. -/
def Settings.Fault.message : Settings.Fault → String
  | notBoolean text => s!"expected a boolean, got '{text}'"
  | notUnsigned fault => s!"expected an unsigned integer: {fault.message}"
  | outOfRange n => s!"{n} is out of range"
  | noPaths => "path list is empty"
  | unknownLevel text => HostLevel.unknownMessage text
  | zeroFuel => "must be positive when fuel metering is enabled"
  | zeroTimeout => "must be positive when epoch interruption is enabled"
  | zeroInstances => "must be positive when the pooling allocator is enabled"
  | zeroMemory => "must be positive"
  | notDirectory dir => s!"'{dir}' is not a directory"
  | other text => text

/-- What keeps the runtime from becoming ready. -/
inductive StartupError where
  /-- A setting without which startup is impossible is not set. -/
  | missing (key : String)
  /-- A setting has a value that cannot be used. -/
  | invalid (key : String) (fault : Settings.Fault)
  /-- The runtime could not be launched. -/
  | failed (reason : String)
  /-- An earlier attempt ended without a result. -/
  | interrupted
  /-- The runtime has been torn down for good. -/
  | shutDown
  deriving DecidableEq, Repr

namespace StartupError

/-- The error in words. -/
def message : StartupError → String
  | missing key => s!"Required configuration key '{key}' is not set"
  | invalid key fault => s!"Invalid value for configuration key '{key}': {fault.message}"
  | failed reason => s!"Embedded runtime failed to start: {reason}"
  | interrupted => "Embedded runtime startup was interrupted"
  | shutDown => "Embedded runtime has been shut down"

/-- The setting that the error is about, if it is about one. -/
def key? : StartupError → Option String
  | missing key | invalid key _ => some key
  | _ => none

end StartupError

end GuestRoutines
