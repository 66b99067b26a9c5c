import MeshAccess.Discovery.Replica
import MeshAccess.Discovery.Subscription

/-!
This file says how a client reacts to the events of a stream.

A client asks for clusters first. Then it asks for the endpoints of the clusters, for listeners
once endpoints have come, and for the routes of the listeners.
-/

namespace MeshAccess.Discovery

/-- The subscriptions to all kinds. -/
structure Subscriptions where
  cluster : Subscription
  endpoint : Subscription
  listener : Subscription
  route : Subscription
  deriving DecidableEq, Repr

namespace Subscriptions

/-- No kind is subscribed. -/
def start : Subscriptions := ⟨.start .cluster, .start .endpoint, .start .listener, .start .route⟩

def get (subscriptions : Subscriptions) : ResourceKind → Subscription
  | .cluster => subscriptions.cluster
  | .endpoint => subscriptions.endpoint
  | .listener => subscriptions.listener
  | .route => subscriptions.route

def set (subscriptions : Subscriptions) (kind : ResourceKind) (subscription : Subscription) :
    Subscriptions :=
  match kind with
  | .cluster => { subscriptions with cluster := subscription }
  | .endpoint => { subscriptions with endpoint := subscription }
  | .listener => { subscriptions with listener := subscription }
  | .route => { subscriptions with route := subscription }

@[simp] theorem get_set_self (subscriptions : Subscriptions) (kind : ResourceKind)
    (subscription : Subscription) : (subscriptions.set kind subscription).get kind = subscription := by
  cases kind <;> rfl

theorem get_set_of_ne (subscriptions : Subscriptions) {kind other : ResourceKind}
    (subscription : Subscription) (different : other ≠ kind) :
    (subscriptions.set kind subscription).get other = subscriptions.get other := by
  cases kind <;> cases other <;> simp_all [get, set]

@[simp] theorem get_start (kind : ResourceKind) : start.get kind = .start kind := by
  cases kind <;> rfl

/-- The subscribed kinds in their order. -/
def subscribed (subscriptions : Subscriptions) : List Subscription :=
  (ResourceKind.all.map subscriptions.get).filter Subscription.isSubscribed

end Subscriptions

/-- How far a client is on the current stream, and what it has learned on all streams. -/
structure Progress where
  subscriptions : Subscriptions
  replica : Replica
  deriving DecidableEq, Repr

/-- What a client does about an event. It sends requests one after the other. The progress changes
at once, and again after each request. -/
structure Reaction where
  start : Progress
  sends : List (Request × Progress)

namespace Reaction

def requests (reaction : Reaction) : List Request := reaction.sends.map Prod.fst

/-- The progress after the given number of requests. -/
def after (reaction : Reaction) (count : Nat) : Progress :=
  ((reaction.sends.take count).getLast?.map Prod.snd).getD reaction.start

/-- The progress after all requests. -/
def finish (reaction : Reaction) : Progress := reaction.after reaction.sends.length

end Reaction

namespace Progress

def start : Progress := ⟨.start, .empty⟩

/-- This function forgets the stream. -/
def reset (progress : Progress) : Progress := { progress with subscriptions := .start }

/-- This function gives the resources of a response to the consumers. -/
def deliver (progress : Progress) (kind : ResourceKind) (resources : List Mesh.Packed) : Progress :=
  match Delivery.ofResponse? kind resources with
  | some delivery => { progress with replica := progress.replica.deliver delivery }
  | none => progress

/-- The progress once a response of a kind has been accepted. -/
def settle (progress : Progress) (kind : ResourceKind) : Progress :=
  if kind = .listener then { progress with replica := progress.replica.synchronize } else progress

def subscribe (progress : Progress) (kind : ResourceKind) (names : NameSet) (node : Node) :
    Request × Progress :=
  let (request, subscription) := (progress.subscriptions.get kind).subscribe names node
  (request, { progress with subscriptions := progress.subscriptions.set kind subscription })

def ack (progress : Progress) (kind : ResourceKind) (response : Response) (node : Node) :
    Request × Progress :=
  let (request, subscription) := (progress.subscriptions.get kind).ack response node
  (request, { progress with subscriptions := progress.subscriptions.set kind subscription })

/-- The names are those of the subscription already. -/
def covers (progress : Progress) (kind : ResourceKind) (names : NameSet) : Bool :=
  let subscription := progress.subscriptions.get kind
  subscription.isSubscribed && subscription.names = names

/-- The subscription that the resources of a kind make necessary. -/
def followUp? (progress : Progress) (kind : ResourceKind) (resources : List Mesh.Packed) :
    Option (ResourceKind × NameSet) :=
  let names := kind.dependentNames resources
  let listeners :=
    if progress.subscriptions.listener.isSubscribed then none else some (.listener, .empty)
  let dependents (next : ResourceKind) :=
    if progress.covers next names then none else some (next, names)
  match kind with
  | .cluster => if names.isEmpty then listeners else dependents .endpoint
  | .endpoint => listeners
  | .listener => if names.isEmpty then none else dependents .route
  | .route => none

/-- The reaction to a response of a subscribed kind. -/
def accept (progress : Progress) (kind : ResourceKind) (response : Response) (node : Node) :
    Reaction :=
  let (reply, acked) := (progress.deliver kind response.resources).ack kind response node
  let settled := acked.settle kind
  match settled.followUp? kind response.resources with
  | none => ⟨acked, [(reply, settled)]⟩
  | some (next, names) =>
      let (request, subscribed) := settled.subscribe next names node
      ⟨acked, [(reply, subscribed), (request, subscribed)]⟩

/-- The reaction to a response. -/
def react (progress : Progress) (response : Response) (node : Node) : Reaction :=
  match ResourceKind.ofTypeUrl? response.typeUrl with
  | none => ⟨progress, [(response.rejectUnknown node, progress)]⟩
  | some kind =>
      if (progress.subscriptions.get kind).isSubscribed then progress.accept kind response node
      else ⟨progress, [(response.rejectUnrequested kind node, progress)]⟩

/-- The reaction to a new stream. -/
def greet (progress : Progress) (node : Node) : Reaction :=
  let (request, subscribed) := progress.reset.subscribe .cluster .empty node
  ⟨subscribed, [(request, subscribed)]⟩

/-- The reaction to the polling timer. -/
def poll (progress : Progress) (node : Node) : Reaction :=
  ⟨progress, progress.subscriptions.subscribed.map fun subscription =>
    (subscription.poll node, progress)⟩

end Progress

end MeshAccess.Discovery
