import MeshAccess.Discovery.Exchange
import MeshAccess.Discovery.ResourceKind

/-!
This file holds what a client has exchanged about one kind of resources on the current stream.
-/

namespace MeshAccess.Discovery

/-- How far a subscription is. A synchronized one counts the responses after the first one, in a
counter of 64 bits. -/
inductive Phase where
  | unsubscribed
  | subscribing
  | synced (updates : Fin UInt64.size)
  deriving DecidableEq, Repr

/-- The phase after a response is accepted. -/
def Phase.accept : Phase → Phase
  | .synced updates => .synced (updates + 1)
  | _ => .synced 0

/-- The subscription to one kind of resources. -/
structure Subscription where
  kind : ResourceKind
  names : NameSet
  version : String
  nonce : String
  phase : Phase
  deriving DecidableEq, Repr

namespace Subscription

def start (kind : ResourceKind) : Subscription := ⟨kind, .empty, "", "", .unsubscribed⟩

def isSubscribed (subscription : Subscription) : Bool := subscription.phase ≠ .unsubscribed

def isSynced (subscription : Subscription) : Bool :=
  match subscription.phase with
  | .synced _ => true
  | _ => false

/-- A request for the current names. -/
def request (subscription : Subscription) (node : Node) (version nonce : String)
    (error : Option ErrorDetail) : Request where
  version := version
  node := node
  names := subscription.names.toList
  typeUrl := subscription.kind.typeUrl
  nonce := nonce
  error := error

/-- The request with the version and the nonce of the subscription. -/
def currentRequest (subscription : Subscription) (node : Node) (error : Option ErrorDetail) :
    Request :=
  subscription.request node subscription.version subscription.nonce error

/-- This function asks for names. The version and the nonce stay. -/
def subscribe (subscription : Subscription) (names : NameSet) (node : Node) :
    Request × Subscription :=
  let phase := if subscription.phase = .unsubscribed then .subscribing else subscription.phase
  let next := { subscription with names := names, phase := phase }
  (next.currentRequest node none, next)

/-- This function accepts a response. -/
def ack (subscription : Subscription) (response : Response) (node : Node) :
    Request × Subscription :=
  let next :=
    { subscription with
      version := response.version
      nonce := response.nonce
      phase := subscription.phase.accept }
  (next.currentRequest node none, next)

/-- This function rejects a response. The version stays, and the nonce is that of the response. -/
def nack (subscription : Subscription) (response : Response) (message : String) (node : Node) :
    Request × Subscription :=
  let next := { subscription with nonce := response.nonce }
  (next.currentRequest node (some ⟨ErrorDetail.invalidArgument, message⟩), next)

/-- The request that asks for everything again. -/
def poll (subscription : Subscription) (node : Node) : Request :=
  subscription.request node "" "" none

/-- This function forgets everything about the stream. -/
def reset (subscription : Subscription) : Subscription := start subscription.kind

end Subscription

namespace Response

/-- The request that rejects a response without regard to any subscription. -/
def reject (response : Response) (message : String) (node : Node) : Request where
  version := ""
  node := node
  names := []
  typeUrl := response.typeUrl
  nonce := response.nonce
  error := some ⟨ErrorDetail.invalidArgument, message⟩

/-- The request that rejects a response of an unknown type. -/
def rejectUnknown (response : Response) (node : Node) : Request :=
  response.reject ("unsupported type url " ++ response.typeUrl) node

/-- The request that rejects a response of a kind without a subscription. -/
def rejectUnrequested (response : Response) (kind : ResourceKind) (node : Node) : Request :=
  response.reject (kind.shortName ++ " was not requested on this stream") node

end Response

end MeshAccess.Discovery
