/-!
This file holds the matchers for ports.
-/

namespace MeshAccess.Match

/-- A matcher that accepts exactly one port. -/
structure PortMatcher where
  port : Nat
  deriving DecidableEq, Repr

def PortMatcher.accepts (matcher : PortMatcher) (port : Nat) : Bool := matcher.port = port

end MeshAccess.Match
