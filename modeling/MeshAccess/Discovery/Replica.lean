import MeshAccess.Discovery.ResourceKind

/-!
This file holds what a client has learned from its control plane.
-/

namespace MeshAccess.Discovery

/-- The resources of a response, as every consumer gets them. -/
inductive Delivery where
  | listeners (resources : List Mesh.Listener)
  | routes (resources : List Mesh.RouteConfig)
  deriving DecidableEq, Repr

namespace Delivery

/-- The resources of a response that consumers want. -/
def ofResponse? (kind : ResourceKind) (resources : List Mesh.Packed) : Option Delivery :=
  match kind with
  | .listener => some (.listeners (ResourceKind.listeners resources))
  | .route => some (.routes (ResourceKind.routes resources))
  | _ => none

def kind : Delivery → ResourceKind
  | .listeners _ => .listener
  | .routes _ => .route

def names : Delivery → List String
  | .listeners resources => resources.map Mesh.Listener.name
  | .routes resources => resources.map Mesh.RouteConfig.name

end Delivery

/-- Someone who gets the resources of a kind from every response. It keeps them in their order. -/
structure Consumer (α : Type) where
  received : List (List α)
  deriving DecidableEq, Repr, Inhabited

namespace Consumer

variable {α : Type}

def start : Consumer α := ⟨[]⟩

def resolve (consumer : Consumer α) (resources : List α) : Consumer α :=
  ⟨consumer.received ++ [resources]⟩

end Consumer

/-- The policies and routes of a client, and its further consumers. It is synchronized once listeners
have been accepted. -/
structure Replica where
  store : Policy.Store
  routes : Mesh.RouteTable
  deliveries : List Delivery
  listenerConsumers : List (Consumer Mesh.Listener)
  routeConsumers : List (Consumer Mesh.RouteConfig)
  isSynced : Bool
  deriving DecidableEq, Repr, Inhabited

namespace Replica

/-- A replica with the given numbers of consumers. -/
def start (listenerConsumers routeConsumers : Nat) : Replica where
  store := .empty
  routes := .empty
  deliveries := []
  listenerConsumers := .replicate listenerConsumers .start
  routeConsumers := .replicate routeConsumers .start
  isSynced := false

def empty : Replica := start 0 0

/-- This function replaces the policies or the routes, and gives the resources to every consumer of
their kind. It also keeps the delivery. -/
def deliver (replica : Replica) (delivery : Delivery) : Replica :=
  let logged := { replica with deliveries := replica.deliveries ++ [delivery] }
  match delivery with
  | .listeners resources =>
      { logged with
        store := Mesh.Listener.enforce replica.store resources
        listenerConsumers := replica.listenerConsumers.map (·.resolve resources) }
  | .routes resources =>
      { logged with
        routes := .ofConfigs resources
        routeConsumers := replica.routeConsumers.map (·.resolve resources) }

def synchronize (replica : Replica) : Replica := { replica with isSynced := true }

end Replica

end MeshAccess.Discovery
