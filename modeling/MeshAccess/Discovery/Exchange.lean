import MeshAccess.Mesh.Packed
import MeshAccess.NameSet
import MeshAccess.Wire.Message

/-!
This file holds the requests and responses of a discovery stream.
-/

namespace MeshAccess.Discovery

open Wire

/-- The client, as it presents itself. The metadata are a message. -/
structure Node where
  id : String
  cluster : String
  metadata : Option Value
  userAgent : String
  deriving Inhabited

namespace Node

def ofMessage : Value → Node
  | .message [.plain (.text id), .plain (.text cluster), .optional metadata,
      .plain (.text userAgent)] => ⟨id, cluster, metadata, userAgent⟩
  | _ => default

def toMessage (node : Node) : Value :=
  .message [.plain (.text node.id), .plain (.text node.cluster), .optional node.metadata,
    .plain (.text node.userAgent)]

end Node

/-- Why a response is rejected. -/
structure ErrorDetail where
  code : Int
  message : String
  deriving DecidableEq, Repr, Inhabited

/-- The code for an invalid argument. -/
def ErrorDetail.invalidArgument : Int := 3

/-- A request. -/
structure Request where
  version : String
  node : Node
  names : List String
  typeUrl : String
  nonce : String
  error : Option ErrorDetail
  deriving Inhabited

/-- The message of a request. -/
def Request.toMessage (request : Request) : Value :=
  let error := request.error.map fun detail =>
    Value.message [.plain (.int32 detail.code), .plain (.text detail.message)]
  .message [.plain (.text request.version), .optional (some request.node.toMessage),
    .repeated (request.names.map .text), .plain (.text request.typeUrl),
    .plain (.text request.nonce), .optional error]

/-- A response with resources. -/
structure Response where
  version : String
  resources : List Mesh.Packed
  typeUrl : String
  nonce : String
  deriving DecidableEq, Repr, Inhabited

def Response.ofMessage : Value → Response
  | .message [.plain (.text version), .repeated resources, _, .plain (.text typeUrl),
      .plain (.text nonce)] => ⟨version, resources.map Mesh.Packed.ofMessage, typeUrl, nonce⟩
  | _ => default

end MeshAccess.Discovery
