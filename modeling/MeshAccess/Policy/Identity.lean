import MeshAccess.Match.Condition
import MeshAccess.Match.StringMatcher
import MeshAccess.NameMap
import MeshAccess.Token.Claims

/-!
This file holds the rules about the claims of a verified token.
-/

namespace MeshAccess.Policy

open Match

/-- A rule about the claims of a token. -/
structure IdentityRule where
  principals : Condition StringMatcher
  audiences : Condition StringMatcher
  presenters : Condition StringMatcher
  claims : NameMap (Condition StringMatcher)
  deriving DecidableEq, Repr, Inhabited

namespace IdentityRule

def empty : IdentityRule := ⟨.empty, .empty, .empty, .empty⟩

def isEmpty (rule : IdentityRule) : Bool :=
  rule.principals.isEmpty && rule.audiences.isEmpty && rule.presenters.isEmpty &&
    rule.claims.isEmpty

/-- A matcher accepts the audiences when it accepts one of them. Claims without an audience pass only
if nothing is asked of the audiences. -/
def acceptsAudiences (rule : IdentityRule) (audiences : List String) : Bool :=
  if audiences.isEmpty then rule.audiences.isEmpty
  else rule.audiences.holds fun matcher => audiences.any matcher.accepts

/-- For each claim of the rule, one text of the claim passes the whole condition. -/
def acceptsClaims (rule : IdentityRule) (claims : Token.Claims) : Bool :=
  rule.claims.entries.all fun entry =>
    (claims.texts entry.1).any fun text => entry.2.holds (·.accepts text)

def accepts (rule : IdentityRule) (claims : Token.Claims) : Bool :=
  rule.presenters.holds (·.acceptsOptional claims.presenter?) &&
    rule.principals.holds (·.accepts claims.requestPrincipal) &&
    rule.acceptsAudiences claims.audiences && rule.acceptsClaims claims

end IdentityRule

end MeshAccess.Policy
