import MeshAccess.Json.Printer
import MeshAccess.Text.Base64Url
import MeshAccess.Text.Utf8

/-!
This file holds the claims of a token.
-/

namespace MeshAccess.Token

/-- The claims of a token are the members of a JSON object. -/
structure Claims where
  members : List (String × Json)
  deriving Repr, Inhabited

namespace Claims

def ofJson? (value : Json) : Option Claims := value.object?.map Claims.mk

/-- The claims that a JSON text spells. -/
def read? (text : String) : Option Claims := (Json.read? text).bind ofJson?

def toJson (claims : Claims) : Json := .object claims.members

def claim? (claims : Claims) (name : String) : Option Json := claims.members.lookup name

/-- The value of a claim that is a text. -/
def text? (claims : Claims) (name : String) : Option String := (claims.claim? name).bind Json.string?

def issuer? (claims : Claims) : Option String := claims.text? "iss"

def subject? (claims : Claims) : Option String := claims.text? "sub"

/-- The party that the token was issued to. -/
def presenter? (claims : Claims) : Option String := claims.text? "azp"

/-- The issuer and the subject with a slash between them. -/
def requestPrincipal (claims : Claims) : String :=
  claims.issuer?.getD "" ++ "/" ++ claims.subject?.getD ""

/-- The texts of a claim that is a text or an array. Other items of the array do not count. -/
def texts (claims : Claims) (name : String) : List String :=
  match claims.claim? name with
  | some (.string value) => [value]
  | some (.array items) => items.filterMap Json.string?
  | _ => []

def audiences (claims : Claims) : List String := claims.texts "aud"

/-- The base64 form of the JSON text of the claims. -/
def forwardPayload (claims : Claims) : String :=
  String.ofList (Text.Base64Url.encode (Text.Utf8.encode claims.toJson.write))

end Claims

end MeshAccess.Token
