import MeshAccess.Token.Provider
import MeshAccess.Wire.Reader

/-!
This file makes token providers of the configuration of a filter.
-/

namespace MeshAccess.Mesh

open Token
open Wire

/-- The text of a key set, which stands in the configuration as a text or as bytes. Keys in a file do
not count. -/
def keySetText : Value → String
  | .message [.choice (some (2, .bytes content))] =>
      String.ofList (Text.Utf8.decodeLenient content)
  | .message [.choice (some (3, .text content))] => content
  | _ => ""

def headerLocation : Value → Location
  | .message [.plain (.text name), .plain (.text start)] => .ofHeader name start
  | _ => .ofHeader "" ""

def textOf : Value → String
  | .text value => value
  | _ => ""

/-- The provider of a message. Header locations go before parameters. -/
def providerOf (name : String) : Value → Provider
  | .message [.plain (.text issuer), .repeated audiences, .optional keySet, .plain (.bool forwards),
      .repeated headers, .repeated parameters, .plain (.text payloadHeader)] =>
      { name := name
        keySetText := (keySet.map keySetText).getD ""
        issuer := issuer
        audiences := .ofList (audiences.map textOf)
        locations := headers.map headerLocation ++
          parameters.map fun parameter => .parameter (textOf parameter)
        payloadHeader := payloadHeader
        forwardsToken := forwards }
  | _ => { (default : Provider) with name := name }

/-- The providers of a filter configuration in the order of their names. -/
def decodeProviders? (content : List UInt8) : Option (List Provider) := do
  match ← Wire.decode? .jwtAuthentication content with
  | .message [.map providers] => return providers.map fun entry => providerOf entry.1 entry.2
  | _ => none

end MeshAccess.Mesh
