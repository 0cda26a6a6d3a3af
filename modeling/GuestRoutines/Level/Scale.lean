/-!
# Scales of message levels

Host process, bridge and guest routines each have a closed scale of levels. What makes the scales
comparable is the *rank* of a level, its place on one numeric line. A level of one scale is
projected onto another by rounding its rank up.

## Main definitions

* `Scale` — a finite scale with its ranks
* `Scale.ceiling` — the level that a rank is rounded up to
* `Scale.project` — the table that rounding up yields between two scales
* `TableFlaw`, `checkTable` — what makes a table between two scales unsafe, and the first flaw
-/

namespace GuestRoutines

/-- A finite scale of levels, ordered by severity. -/
class Scale (α : Type) where
  /-- Every level, the least severe first. -/
  levels : List α
  /-- The most severe level. -/
  top : α
  /-- The place of a level on the line that all scales share. -/
  rank : α → Nat
  /-- The place of a level on its own scale, counted from zero. -/
  position : α → Nat
  /-- The name that diagnostics give a level. -/
  label : α → String

namespace Scale

variable {α β : Type} [Scale α] [Scale β]

/-- Of two levels, the one of lower rank; between equal ranks, the more severe one. -/
def nearer (a b : β) : β :=
  if rank b < rank a ∨ (rank b = rank a ∧ position a < position b) then b else a

/-- A rank rounded up: the most severe of the lowest-ranked levels that reach it, and the top of
the scale when none does. -/
def ceiling (β : Type) [Scale β] (r : Nat) : β :=
  match (levels (α := β)).filter fun l => decide (r ≤ rank l) with
  | [] => top
  | l :: ls => ls.foldl nearer l

/-- The table that sends every level to its rank rounded up. -/
def project (a : α) : β := ceiling β (rank a)

end Scale

open Scale

/-- What makes a table between two scales unsafe. -/
inductive TableFlaw (α β : Type) where
  /-- The `higher` of two neighbouring levels is sent below the `lower` one. -/
  | descends (lower higher : α)
  /-- A level is sent to one of smaller rank, although the target scale goes on above it. -/
  | demotes (level : α) (mapped : β)
  deriving DecidableEq, Repr

namespace TableFlaw

variable {α β : Type} [Scale α] [Scale β]

/-- The flaw in words. -/
def message : TableFlaw α β → String
  | descends lower higher => s!"{label higher} maps below {label lower}"
  | demotes level mapped => s!"{label level} is demoted to {label mapped}"

end TableFlaw

variable {α β : Type} [Scale α] [Scale β]

/-- The first two neighbours in a list of levels that a table sends in descending order. -/
def descent? (table : α → β) : List α → Option (α × α)
  | a :: b :: rest =>
    if position (table b) < position (table a) then some (a, b) else descent? table (b :: rest)
  | _ => none

/-- The first level in a list that a table demotes. -/
def demotion? [DecidableEq β] (table : α → β) (ls : List α) : Option α :=
  ls.find? fun a => decide (rank (table a) < rank a ∧ table a ≠ top)

/-- A table is safe when it keeps the order of severity and demotes no level. A descent is
reported before any demotion. -/
def checkTable [DecidableEq β] (table : α → β) : Except (TableFlaw α β) Unit :=
  match descent? table levels with
  | some (lower, higher) => .error (.descends lower higher)
  | none =>
    match demotion? table levels with
    | some a => .error (.demotes a (table a))
    | none => .ok ()

end GuestRoutines
