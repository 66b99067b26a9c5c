import MeshAccess.Discovery.Duration

/-!
This file holds what can go wrong between a client and its control plane.
-/

namespace MeshAccess.Discovery

/-- The parts of a connection that can fail. -/
inductive TransportPart where
  | connection
  | stream
  | encryption
  | credentials
  | closed
  deriving DecidableEq, Repr

/-- What is wrong with a configuration. -/
inductive ConfigFault where
  | emptyHost
  | zeroPort
  | noToken (path : String)
  deriving DecidableEq, Repr

def ConfigFault.message : ConfigFault → String
  | .emptyHost => "control plane host is empty"
  | .zeroPort => "control plane port must be in 1..=65535"
  | .noToken path => "no control plane token configured and none readable at " ++ path

/-- A failure. -/
inductive Failure where
  | config (text : String)
  | transport (part : TransportPart) (text : String)
  | decode (text : String)
  | bootstrapTimeout (duration : Duration)
  | shutdown
  | io (text : String)
  | json (text : String)
  | message (text : String)
  deriving DecidableEq, Repr

namespace Failure

def ofFault (fault : ConfigFault) : Failure := .config fault.message

/-- The text of a failure. -/
def describe : Failure → String
  | .config text => "Config error: " ++ text
  | .transport _ text => "Transport error: " ++ text
  | .decode text => "Decode error: " ++ text
  | .bootstrapTimeout duration =>
      "No resources synchronized from control plane within " ++ duration.describe
  | .shutdown => "Discovery client shut down"
  | .io text => "IO error: " ++ text
  | .json text => "JSON error: " ++ text
  | .message text => "Protobuf decode error: " ++ text

/-- A new connection may help against a failure. -/
def isRetryable : Failure → Bool
  | .transport .connection _ => true
  | .transport .stream _ => true
  | .transport .closed _ => true
  | _ => false

end Failure

end MeshAccess.Discovery
