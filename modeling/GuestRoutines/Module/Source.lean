import GuestRoutines.Guest.Notation
import GuestRoutines.Module.Compiled

/-!
# The built-in compiler

## Main definitions

* `Compiler.builtIn` — modules are guest programs in their notation
-/

namespace GuestRoutines

/-- The compiler for guest programs in their notation, which is a text; there is no binary form. -/
def Compiler.builtIn : Compiler where
  text := Program.parse
  binary _ := .error "binary modules are not supported"

end GuestRoutines
