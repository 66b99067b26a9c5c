import MeshAccess.Match.Condition
import MeshAccess.Match.HeaderMatcher

/-!
This file holds the rules about the header fields of a request.
-/

namespace MeshAccess.Policy

open Match

/-- A rule about the header fields of a request. -/
structure HeaderRule where
  headers : Condition HeaderMatcher
  deriving DecidableEq, Repr, Inhabited

namespace HeaderRule

def empty : HeaderRule := ⟨.empty⟩

def isEmpty (rule : HeaderRule) : Bool := rule.headers.isEmpty

def accepts (rule : HeaderRule) (headers : Http.Headers) : Bool :=
  rule.headers.holds (·.accepts headers)

end HeaderRule

end MeshAccess.Policy
