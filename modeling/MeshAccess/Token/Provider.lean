import MeshAccess.Http.Header
import MeshAccess.Http.Query
import MeshAccess.NameSet
import MeshAccess.Token.Claims
import MeshAccess.Token.Header

/-!
This file holds the providers of tokens.

A provider says where its tokens are carried, which keys sign them, and which issuer and audiences
they must name.
-/

namespace MeshAccess.Token

/-- The text in front of a token in a header value. -/
def bearer : String := "Bearer "

/-- A place where a request carries a token. -/
inductive Location where
  | header (name start : String)
  | parameter (name : String)
  deriving DecidableEq, Repr

/-- The place in a header. An empty start means the usual one. -/
def Location.ofHeader (name start : String) : Location :=
  .header name (if start.isEmpty then bearer else start)

/-- A provider of tokens. -/
structure Provider where
  name : String
  keySetText : String
  issuer : String
  audiences : NameSet
  locations : List Location
  payloadHeader : String
  forwardsToken : Bool
  deriving DecidableEq, Repr, Inhabited

namespace Provider

def keySet? (provider : Provider) : Option KeySet := KeySet.read? provider.keySetText

/-- The header that carries verified claims on. -/
def payloadHeader? (provider : Provider) : Option String :=
  if provider.payloadHeader.isEmpty then none else some provider.payloadHeader

/-- The text after a start. -/
def dropStart? (start text : String) : Option String :=
  if start.toList.isPrefixOf text.toList then
    some (String.ofList (text.toList.drop start.toList.length))
  else none

def nonEmpty? (token : String) : Option String := if token.isEmpty then none else some token

/-- The token in a header location: what follows the start of the first readable value. -/
def headerToken? (headers : Http.Headers) : Location → Option String
  | .header name start =>
      (headers.firstReadable? name).bind fun value =>
        if value.isEmpty then none else dropStart? start value
  | .parameter _ => none

/-- The value of a parameter location. -/
def parameterValue? (query : Http.Query) : Location → Option String
  | .header _ _ => none
  | .parameter name => query.first? name

/-- The token in the first value of the usual header. -/
def authorizationToken? (headers : Http.Headers) : Option String := do
  let value ← (headers.valuesOf Http.HeaderName.authorization).head?
  let text ← value.text?
  nonEmpty? ((dropStart? bearer text).getD text)

/-- The token that a request carries for this provider. Headers go before parameters. The first
parameter that is there decides, and the usual header is only looked at after all locations. -/
def token? (provider : Provider) (headers : Http.Headers) (query : Http.Query) : Option String :=
  match provider.locations.findSome? (headerToken? headers) with
  | some token => some token
  | none =>
      match provider.locations.findSome? (parameterValue? query) with
      | some token => nonEmpty? token
      | none => authorizationToken? headers

/-- The claims name the issuer of the provider, if it has one. -/
def acceptsIssuer (provider : Provider) (claims : Claims) : Bool :=
  provider.issuer.isEmpty || claims.issuer? = some provider.issuer

/-- The claims name an audience of the provider, if it has any. -/
def acceptsAudience (provider : Provider) (claims : Claims) : Bool :=
  provider.audiences.isEmpty || claims.audiences.any provider.audiences.contains

/-- The claims of a token, if this provider verifies it. The lifetime of a token does not count. -/
def verify? (provider : Provider) (token : String) : Option Claims := do
  let keys ← provider.keySet?
  let claims ← Token.verify? keys token
  if provider.acceptsIssuer claims && provider.acceptsAudience claims then some claims else none

end Provider

end MeshAccess.Token
