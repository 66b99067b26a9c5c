import MeshAccess.Match.Condition
import MeshAccess.Net.CidrRange

/-!
This file holds the rules about the addresses of a connection.
-/

namespace MeshAccess.Policy

open Match

/-- The addresses of a connection, as texts. -/
structure Connection where
  source : String
  destination : String
  remote : String
  deriving DecidableEq, Repr, Inhabited

/-- A rule about the addresses of a connection. -/
structure ConnectionRule where
  sources : Condition Net.CidrRange
  destinations : Condition Net.CidrRange
  remotes : Condition Net.CidrRange
  deriving DecidableEq, Repr, Inhabited

namespace ConnectionRule

def empty : ConnectionRule := ⟨.empty, .empty, .empty⟩

def isEmpty (rule : ConnectionRule) : Bool :=
  rule.sources.isEmpty && rule.destinations.isEmpty && rule.remotes.isEmpty

def accepts (rule : ConnectionRule) (connection : Connection) : Bool :=
  rule.sources.holds (·.matchesText connection.source) &&
    rule.destinations.holds (·.matchesText connection.destination) &&
    rule.remotes.holds (·.matchesText connection.remote)

end ConnectionRule

end MeshAccess.Policy
