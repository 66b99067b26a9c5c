import MeshAccess.Match.Condition
import MeshAccess.Match.PortMatcher
import MeshAccess.Match.StringMatcher

/-!
This file holds the rules about what a request asks for.
-/

namespace MeshAccess.Policy

open Match

/-- What a request asks for. -/
structure Target where
  host : String
  port : Nat
  method : String
  path : String
  deriving DecidableEq, Repr, Inhabited

/-- A rule about what a request asks for. -/
structure TargetRule where
  hosts : Condition StringMatcher
  ports : Condition PortMatcher
  methods : Condition StringMatcher
  paths : Condition StringMatcher
  deriving DecidableEq, Repr, Inhabited

namespace TargetRule

def empty : TargetRule := ⟨.empty, .empty, .empty, .empty⟩

def isEmpty (rule : TargetRule) : Bool :=
  rule.hosts.isEmpty && rule.ports.isEmpty && rule.methods.isEmpty && rule.paths.isEmpty

def accepts (rule : TargetRule) (target : Target) : Bool :=
  rule.hosts.holds (·.accepts target.host) && rule.ports.holds (·.accepts target.port) &&
    rule.methods.holds (·.accepts target.method) && rule.paths.holds (·.accepts target.path)

end TargetRule

end MeshAccess.Policy
