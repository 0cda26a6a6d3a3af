/-!
# Names of modules and routines

A name is a non-empty run of ASCII letters, digits, underscores and hyphens, so it can be part of a
path without leaving the directory before it.

## Main definitions

* `Name.isLetter`, `Name.isValid` — the grammar of names
-/

namespace GuestRoutines.Name

/-- The characters of names. -/
def isLetter (c : Char) : Bool := c.isAlphanum || c == '_' || c == '-'

/-- A name is a non-empty run of its characters. -/
def isValid (s : String) : Bool := s ≠ "" && s.toList.all isLetter

end GuestRoutines.Name
