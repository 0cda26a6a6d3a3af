import GuestRoutines.Json.Basic
import GuestRoutines.Text.Blank

/-!
# Trust

The host decides once, before the runtime starts, what guests may reach outside of their sandbox.
In the trusted tier, which any user of the host may use, they reach nothing; in the untrusted tier
they reach whatever the host process does.

## Main definitions

* `TrustTier` — the two tiers
* `Capabilities` — what a tier opens
* `TrustPolicy` — a tier fixed for the life of a runtime
-/

namespace GuestRoutines

/-- What guests may reach outside of their sandbox. -/
structure Capabilities where
  filesystem : Bool
  environment : Bool
  network : Bool
  stdio : Bool
  deriving DecidableEq, Repr

namespace Capabilities

/-- Nothing. -/
def none : Capabilities := ⟨false, false, false, false⟩

/-- Whatever the host process reaches. -/
def all : Capabilities := ⟨true, true, true, true⟩

/-- The capabilities as a JSON record. -/
def toJson (c : Capabilities) : Json :=
  .ofMembers
    [("filesystem", .bool c.filesystem), ("environment", .bool c.environment),
      ("network", .bool c.network), ("stdio", .bool c.stdio)]

end Capabilities

/-- The posture in which guests run. -/
inductive TrustTier where
  /-- Guests are kept in their sandbox. -/
  | trusted
  /-- Guests reach whatever the host process does. -/
  | untrusted
  deriving DecidableEq, Repr, Inhabited

namespace TrustTier

def name : TrustTier → String
  | trusted => "trusted"
  | untrusted => "untrusted"

/-- The name that diagnostics give a tier. -/
def label : TrustTier → String
  | trusted => "Trusted"
  | untrusted => "Untrusted"

/-- The tier of a name in small letters. -/
def ofName? (s : String) : Option TrustTier := [trusted, untrusted].find? (·.name == s)

/-- The tier of a name, whatever the case of its ASCII letters. -/
def parse (s : String) : Option TrustTier := ofName? (Text.lowerAscii s)

/-- What is said of a name that is no tier. -/
def unknownMessage (s : String) : String := s!"unknown trust tier '{s}'"

/-- The tier that the host's flag asks for. -/
def ofTrusted (b : Bool) : TrustTier := if b then trusted else untrusted

/-- What the tier opens. -/
def capabilities : TrustTier → Capabilities
  | trusted => .none
  | untrusted => .all

end TrustTier

/-- A tier fixed for the life of a runtime, with what it opens. -/
structure TrustPolicy where
  tier : TrustTier
  capabilities : Capabilities
  deriving DecidableEq, Repr

namespace TrustPolicy

/-- The policy of a tier that is fixed from now on. -/
def ofTier (t : TrustTier) : TrustPolicy := ⟨t, t.capabilities⟩

/-- The policy as a JSON record. -/
def toJson (p : TrustPolicy) : Json :=
  .ofMembers [("tier", .ofText p.tier.name), ("capabilities", p.capabilities.toJson)]

end TrustPolicy

end GuestRoutines
