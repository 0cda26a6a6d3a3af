/-!
# Equality of bytes

## Main definitions

* `Bytes.decidableEq` — whether two runs of bytes are equal
-/

namespace GuestRoutines

/-- Runs of bytes are equal when they have equal bytes in equal places. -/
instance Bytes.decidableEq : DecidableEq ByteArray := fun a b =>
  if h : a.data = b.data then isTrue (ByteArray.ext h) else isFalse fun e => h (congrArg _ e)

end GuestRoutines
