import MeshAccess.Mesh.Cluster
import MeshAccess.Mesh.Listener
import MeshAccess.Mesh.Packed
import MeshAccess.Mesh.Route

/-!
This file holds the kinds of resources that a control plane sends.
-/

namespace MeshAccess.Discovery

open Mesh

/-- The kinds of resources in the order in which a client asks for them. -/
inductive ResourceKind where
  | cluster
  | endpoint
  | listener
  | route
  deriving DecidableEq, Repr

namespace ResourceKind

def all : List ResourceKind := [.cluster, .endpoint, .listener, .route]

/-- The name of the type of a kind. -/
def typeUrl : ResourceKind → String
  | .cluster => "type.googleapis.com/envoy.config.cluster.v3.Cluster"
  | .endpoint => "type.googleapis.com/envoy.config.endpoint.v3.ClusterLoadAssignment"
  | .listener => "type.googleapis.com/envoy.config.listener.v3.Listener"
  | .route => "type.googleapis.com/envoy.config.route.v3.RouteConfiguration"

/-- The kind with the given name of its type. -/
def ofTypeUrl? (typeUrl : String) : Option ResourceKind :=
  all.find? fun kind => kind.typeUrl = typeUrl

/-- The short name of the service that discovers a kind. -/
def shortName : ResourceKind → String
  | .cluster => "CDS"
  | .endpoint => "EDS"
  | .listener => "LDS"
  | .route => "RDS"

/-- The resources of a kind in a list. A resource of another type and one that cannot be read do not
count. -/
def decodeAll {α : Type} (kind : ResourceKind) (decode? : List UInt8 → Option α)
    (resources : List Packed) : List α :=
  (resources.filter fun resource => resource.typeUrl = kind.typeUrl).filterMap fun resource =>
    decode? resource.content

def clusters (resources : List Packed) : List Cluster :=
  cluster.decodeAll Cluster.decode? resources

def assignments (resources : List Packed) : List EndpointAssignment :=
  endpoint.decodeAll EndpointAssignment.decode? resources

def listeners (resources : List Packed) : List Listener :=
  listener.decodeAll Listener.decode? resources

def routes (resources : List Packed) : List RouteConfig := route.decodeAll RouteConfig.decode? resources

/-- The names of the resources of a kind in a list. -/
def names (kind : ResourceKind) (resources : List Packed) : List String :=
  match kind with
  | .cluster => (clusters resources).map Cluster.name
  | .endpoint => (assignments resources).map EndpointAssignment.name
  | .listener => (listeners resources).map Listener.name
  | .route => (routes resources).map RouteConfig.name

/-- The names of the resources of the next kind that the resources of a kind make necessary. -/
def dependentNames (kind : ResourceKind) (resources : List Packed) : NameSet :=
  match kind with
  | .cluster => Cluster.assignmentNames (clusters resources)
  | .listener => Listener.routeConfigNames (listeners resources)
  | _ => .empty

end ResourceKind

end MeshAccess.Discovery
