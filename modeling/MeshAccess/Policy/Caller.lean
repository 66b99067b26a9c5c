import MeshAccess.Net.CidrRange
import MeshAccess.Policy.Identity

/-!
This file holds the rules about the workload that calls.
-/

namespace MeshAccess.Policy

open Match

/-- The workload that calls. Its addresses are texts that need not spell an address. -/
structure Caller where
  principal : String
  namespaceName : String
  sourceAddress : String
  destinationAddress : String
  remoteAddress : String
  deriving DecidableEq, Repr, Inhabited

namespace Caller

/-- The text in front of the name of a namespace in a principal. -/
def namespaceMark : List Char := ['/', 'n', 's', '/']

/-- A name at the start of a text, up to a slash. -/
def nameBeforeSlash? (text : List Char) : Option (List Char) :=
  let name := text.takeWhile (· ≠ '/')
  if name.isEmpty || name.length = text.length then none else some name

/-- The first name that stands between a mark and a slash. -/
def findNamespace? : List Char → Option (List Char)
  | [] => none
  | character :: rest =>
      if namespaceMark.isPrefixOf (character :: rest) then
        match nameBeforeSlash? ((character :: rest).drop namespaceMark.length) with
        | some name => some name
        | none => findNamespace? rest
      else findNamespace? rest

/-- The namespace that a principal names. -/
def namespaceOf? (principal : String) : Option String :=
  (findNamespace? principal.toList).map String.ofList

/-- The namespace of a caller, which its principal names unless it is given. -/
def namespace? (caller : Caller) : Option String :=
  if caller.namespaceName.isEmpty then namespaceOf? caller.principal
  else some caller.namespaceName

end Caller

/-- A rule about the workload that calls, which may also ask for claims. -/
structure CallerRule where
  principals : Condition StringMatcher
  namespaces : Condition StringMatcher
  sourceRanges : Condition Net.CidrRange
  remoteRanges : Condition Net.CidrRange
  identity : IdentityRule
  deriving DecidableEq, Repr, Inhabited

namespace CallerRule

def empty : CallerRule := ⟨.empty, .empty, .empty, .empty, .empty⟩

def isEmpty (rule : CallerRule) : Bool :=
  rule.principals.isEmpty && rule.namespaces.isEmpty && rule.sourceRanges.isEmpty &&
    rule.remoteRanges.isEmpty && rule.identity.isEmpty

/-- A caller without claims passes only if nothing is asked of them. -/
def acceptsClaims (rule : CallerRule) (claims : Option Token.Claims) : Bool :=
  rule.identity.isEmpty || claims.any rule.identity.accepts

def accepts (rule : CallerRule) (caller : Caller) (claims : Option Token.Claims) : Bool :=
  rule.principals.holds (·.accepts caller.principal) &&
    rule.namespaces.holds (·.acceptsOptional caller.namespace?) &&
    rule.sourceRanges.holds (·.matchesText caller.sourceAddress) &&
    rule.remoteRanges.holds (·.matchesText caller.remoteAddress) && rule.acceptsClaims claims

end CallerRule

end MeshAccess.Policy
