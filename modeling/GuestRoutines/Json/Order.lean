import GuestRoutines.Json.Basic

/-!
# JSON in the order of its keys

## Main definitions

* `Json.ordered` — a value with the members of every object in the order of their keys
-/

namespace GuestRoutines.Json

mutual

/-- The value with the members of every object in the order of their keys. -/
def ordered : Json → Json
  | array items => array (orderedItems items)
  | object ms =>
    object ((orderedMembers ms).mergeSort fun a b => decide (a.1.getD "" ≤ b.1.getD ""))
  | null => null
  | bool b => bool b
  | number n => number n
  | text s => text s

/-- Each value of a list, ordered. -/
def orderedItems : List Json → List Json
  | [] => []
  | v :: vs => v.ordered :: orderedItems vs

/-- Each member of a list with its value ordered. -/
def orderedMembers : List (Option String × Json) → List (Option String × Json)
  | [] => []
  | (k, v) :: ms => (k, v.ordered) :: orderedMembers ms

end

end GuestRoutines.Json
