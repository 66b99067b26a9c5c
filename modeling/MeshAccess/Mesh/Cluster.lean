import MeshAccess.NameSet
import MeshAccess.Wire.Reader

/-!
This file holds clusters and the assignments of their endpoints.
-/

namespace MeshAccess.Mesh

open Wire

/-- A cluster. The service name stands in a part of its own, which may be missing. -/
structure Cluster where
  name : String
  discovery : Option Int
  serviceName : Option String
  deriving DecidableEq, Repr, Inhabited

namespace Cluster

def serviceNameOf : Value → String
  | .message [.plain (.text name)] => name
  | _ => ""

def discoveryOf? : Value → Option Int
  | .int32 number => some number
  | _ => none

def ofMessage : Value → Cluster
  | .message [.plain (.text name), .optional discovery, .optional endpoints] =>
      ⟨name, discovery.bind discoveryOf?, endpoints.map serviceNameOf⟩
  | _ => default

def decode? (content : List UInt8) : Option Cluster :=
  (Wire.decode? .cluster content).map ofMessage

/-- The number of the discovery by endpoint assignments. -/
def endpointDiscovery : Int := 3

/-- The name of the endpoint assignment that a cluster needs, if it needs one. -/
def assignmentName? (cluster : Cluster) : Option String :=
  match cluster.serviceName with
  | some name => some (if name.isEmpty then cluster.name else name)
  | none => if cluster.discovery = some endpointDiscovery then some cluster.name else none

/-- The names of the endpoint assignments that clusters need. -/
def assignmentNames (clusters : List Cluster) : NameSet :=
  .ofList ((clusters.filterMap assignmentName?).filter fun name => !name.isEmpty)

end Cluster

/-- An assignment of endpoints to a cluster. Only its name is read. -/
structure EndpointAssignment where
  name : String
  deriving DecidableEq, Repr, Inhabited

namespace EndpointAssignment

def ofMessage : Value → EndpointAssignment
  | .message [.plain (.text name), _] => ⟨name⟩
  | _ => default

def decode? (content : List UInt8) : Option EndpointAssignment :=
  (Wire.decode? .clusterLoadAssignment content).map ofMessage

end EndpointAssignment

end MeshAccess.Mesh
