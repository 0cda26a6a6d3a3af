import GuestRoutines.Module.Name

/-!
# Identifiers of routines

A routine is a module and one of its exports. It is written as the two names with a point between
them, or as one name that stands for both.

## Main definitions

* `RoutineId` — module and export
* `RoutineId.parse`, `RoutineId.display` — reading and writing
* `RoutineHandle` — a routine that has been found, with the fingerprint of its code
-/

namespace GuestRoutines

/-- A module and one of its exports. -/
structure RoutineId where
  module : String
  exportName : String
  deriving DecidableEq, Repr

namespace RoutineId

/-- A text cut at its first point; a text without one stands for both parts. -/
def parts (s : String) : String × String :=
  let cs := s.toList
  match cs.dropWhile (· != '.') with
  | [] => (s, s)
  | _ :: rest => (String.ofList (cs.takeWhile (· != '.')), String.ofList rest)

/-- The identifier that a text is, if both of its parts are names. -/
def parse (s : String) : Option RoutineId :=
  let (module, exportName) := parts s
  if Name.isValid module ∧ Name.isValid exportName then some { module, exportName } else none

/-- The identifier as it is written: equal names are written once. -/
def display (id : RoutineId) : String :=
  if id.module = id.exportName then id.module else id.module ++ "." ++ id.exportName

/-- What is said of a text that is no identifier. -/
def invalidMessage (s : String) : String := s!"invalid routine identifier '{s}'"

end RoutineId

/-- A routine that has been found, with the fingerprint of its code if the runtime knows one. -/
structure RoutineHandle where
  id : RoutineId
  fingerprint : Option String := none
  deriving DecidableEq, Repr

end GuestRoutines
