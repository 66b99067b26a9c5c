import MeshAccess.Policy.Store

/-!
This file decides about requests.

A request is first authenticated, then checked against the policies of each kind in a fixed order.
The first check that fails decides.
-/

namespace MeshAccess

open Policy

/-- An inbound request. -/
structure Request where
  target : Target
  headers : Http.Headers
  query : Http.Query
  caller : Caller
  deriving DecidableEq, Repr, Inhabited

/-- A token that a provider has verified. -/
structure VerifiedToken where
  provider : Token.Provider
  claims : Token.Claims
  deriving Repr

/-- The header that carries the claims on, with its value. -/
def VerifiedToken.forwardHeader? (verified : VerifiedToken) : Option (String × String) :=
  verified.provider.payloadHeader?.map fun name => (name, verified.claims.forwardPayload)

/-- A token was found for a provider, but it is not valid. -/
structure Rejection where
  provider : String
  deriving DecidableEq, Repr

def Rejection.message (rejection : Rejection) : String :=
  "JWT rejected by provider " ++ rejection.provider

/-- The check that a request has failed. -/
inductive DenyReason where
  | token
  | connection
  | target
  | caller
  | identity
  | header
  deriving DecidableEq, Repr

/-- The decision about a request. Only an allowed request has a verified token. -/
inductive Decision where
  | allow (verified : Option VerifiedToken)
  | deny (reason : DenyReason)
  deriving Repr

def Decision.isAllowed : Decision → Bool
  | .allow _ => true
  | .deny _ => false

namespace Policy.Store

/-- The first provider in the order of names that finds a token in the request, with the token. -/
def findToken? (store : Store) (headers : Http.Headers) (query : Http.Query) :
    Option (Token.Provider × String) :=
  store.providers.values.findSome? fun provider =>
    (provider.token? headers query).map fun token => (provider, token)

/-- The verified token of a request. The first provider that finds a token decides alone. -/
def authenticate (store : Store) (headers : Http.Headers) (query : Http.Query) :
    Except Rejection (Option VerifiedToken) :=
  match store.findToken? headers query with
  | none => .ok none
  | some (provider, token) =>
      match provider.verify? token with
      | some claims => .ok (some ⟨provider, claims⟩)
      | none => .error ⟨provider.name⟩

def permitsConnection (store : Store) (connection : Connection) : Bool :=
  store.connections.permits (·.accepts connection)

def permitsTarget (store : Store) (target : Target) : Bool :=
  store.targets.permits (·.accepts target)

def permitsCaller (store : Store) (caller : Caller) (claims : Option Token.Claims) : Bool :=
  store.callers.permits (·.accepts caller claims)

/-- Without claims nothing is permitted. -/
def permitsClaims (store : Store) (claims : Option Token.Claims) : Bool :=
  match claims with
  | some claims => store.identities.permits (·.accepts claims)
  | none => false

def permitsHeaders (store : Store) (headers : Http.Headers) : Bool :=
  store.headers.permits (·.accepts headers)

/-- The claims are checked when there are some, or when there are policies about them. -/
def checksClaims (store : Store) (claims : Option Token.Claims) : Bool :=
  claims.isSome || !store.identities.isEmpty

/-- The decision about a request. -/
def authorize (store : Store) (request : Request) : Decision :=
  match store.authenticate request.headers request.query with
  | .error _ => .deny .token
  | .ok verified =>
      let claims := verified.map VerifiedToken.claims
      let caller := request.caller
      let connection : Connection :=
        ⟨caller.sourceAddress, caller.destinationAddress, caller.remoteAddress⟩
      if !store.permitsConnection connection then .deny .connection
      else if !store.permitsTarget request.target then .deny .target
      else if !store.permitsCaller caller claims then .deny .caller
      else if store.checksClaims claims && !store.permitsClaims claims then .deny .identity
      else if !store.permitsHeaders request.headers then .deny .header
      else .allow verified

end Policy.Store

end MeshAccess
