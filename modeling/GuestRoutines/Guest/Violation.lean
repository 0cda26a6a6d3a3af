/-!
# Violations of the calling convention

A guest speaks to the host through calls whose operands are indexes, pointers and lengths. Operands
that make no sense are violations; a violation ends the call and changes nothing.

## Main definitions

* `Violation` — what a guest did wrong, with its wording
-/

namespace GuestRoutines

/-- What a guest did wrong in a call to the host. -/
inductive Violation where
  | tooManyArguments
  | negativeIndex (index : Int)
  | noArgument (index count : Nat)
  | nullArgument (index : Nat)
  /-- The argument has more bytes than a 32-bit length can say. -/
  | longArgument (index : Nat)
  | negativePointer (pointer : Int)
  | negativeRange (pointer length : Int)
  | noMemory
  | readOutside (length start : Nat)
  | writeOutside (length start : Nat)
  | invalidText
  deriving DecidableEq, Repr

namespace Violation

/-- The violation in words. -/
def reason : Violation → String
  | tooManyArguments => "too many arguments"
  | negativeIndex i => s!"negative argument index {i}"
  | noArgument i n => s!"argument index {i} out of range ({n} arguments)"
  | nullArgument i => s!"argument {i} is NULL"
  | longArgument i => s!"argument {i} exceeds guest address space"
  | negativePointer p => s!"negative pointer {p}"
  | negativeRange p n => s!"negative pointer or length (ptr={p}, len={n})"
  | noMemory => "routine module does not export 'memory'"
  | readOutside n start => s!"read of {n} bytes at {start} is outside guest memory"
  | writeOutside n start => s!"write of {n} bytes at {start} is outside guest memory"
  | invalidText => "log message is not valid UTF-8"

/-- The violation as an error of its own. -/
def display (v : Violation) : String := s!"ABI violation: {v.reason}"

end Violation

end GuestRoutines
