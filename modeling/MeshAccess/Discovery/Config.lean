import MeshAccess.Discovery.Exchange
import MeshAccess.Discovery.Failure
import MeshAccess.Text.Blank
import MeshAccess.Text.Utf8

/-!
This file holds the configuration of a client.
-/

namespace MeshAccess.Discovery

/-- Which of the mounted tokens a client presents. -/
inductive TokenPolicy where
  | firstParty
  | thirdParty
  deriving DecidableEq, Repr

namespace TokenPolicy

/-- The file of the mounted token. -/
def path : TokenPolicy → String
  | .firstParty => "/var/run/secrets/kubernetes.io/serviceaccount/token"
  | .thirdParty => "/var/run/secrets/tokens/istio-token"

end TokenPolicy

/-- The configuration of a client. No polling interval means that the client never polls. -/
structure Config where
  host : String := "istiod.istio-system.svc"
  port : Nat := 15012
  token : Option String := none
  tokenPath : Option String := none
  tokenPolicy : TokenPolicy := .firstParty
  isEncrypted : Bool := true
  certificatePath : String := "/var/run/secrets/istio/root-cert.pem"
  pollingSeconds : Nat := 30
  reconnectSeconds : Nat := 3
  bootstrapSeconds : Nat := 30
  connectSeconds : Nat := 10
  podName : String := ""
  namespaceName : String := ""
  podAddress : String := ""
  clusterId : String := "Kubernetes"
  logsPushes : Bool := true
  deriving DecidableEq, Repr, Inhabited

/-- The files that can be read, with their bytes. -/
abbrev Files := List (String × List UInt8)

/-- The text of a file without the blanks around it. A blank file counts as missing. -/
def Files.trimmed? (files : Files) (path : String) : Option String := do
  let text ← (← files.lookup path) |> Text.Utf8.string?
  if Text.Blank.isAllBlank text then none else return Text.Blank.trim text

/-- The surroundings of a client. -/
structure Environment where
  bindings : List (String × String)
  files : Files
  deriving DecidableEq, Repr, Inhabited

/-- The value of a variable, unless it is empty. -/
def Environment.value? (environment : Environment) (name : String) : Option String :=
  (environment.bindings.lookup name).filter fun value => !value.isEmpty

namespace Config

/-- A value, or another one in place of an empty value. -/
def orElse (value other : String) : String := if value.isEmpty then other else value

/-- The file with the namespace of the client. -/
def namespacePath : String := "/var/run/secrets/kubernetes.io/serviceaccount/namespace"

/-- The namespace that the surroundings tell. -/
def namespaceFrom (environment : Environment) : String :=
  ((environment.value? "POD_NAMESPACE") <|>
    environment.files.trimmed? namespacePath).getD "default"

/-- This function fills the empty parts of the identity from the surroundings. -/
def resolve (config : Config) (environment : Environment) : Config :=
  { config with
    podName := orElse config.podName ((environment.value? "POD_NAME").getD "sidecar")
    namespaceName := orElse config.namespaceName (namespaceFrom environment)
    podAddress := orElse config.podAddress ((environment.value? "INSTANCE_IP").getD "127.0.0.1") }

/-- The first fault of a configuration. -/
def fault? (config : Config) : Option ConfigFault :=
  if Text.Blank.isAllBlank config.host then some .emptyHost
  else if config.port = 0 then some .zeroPort
  else none

def validate (config : Config) : Except Failure Unit :=
  match config.fault? with
  | some fault => .error (.ofFault fault)
  | none => .ok ()

/-- The address of the control plane. -/
def endpointUri (config : Config) : String :=
  (if config.isEncrypted then "https" else "http") ++ "://" ++ config.host ++ ":" ++
    toString config.port

/-- The file that is read when no token is given. -/
def effectiveTokenPath (config : Config) : String :=
  config.tokenPath.getD config.tokenPolicy.path

/-- The token that is given, unless it is blank. -/
def givenToken? (config : Config) : Option String := do
  let token ← config.token
  if Text.Blank.isAllBlank token then none else return Text.Blank.trim token

/-- The token that a client presents. -/
def loadToken (config : Config) (files : Files) : Except Failure String :=
  match config.givenToken? <|> files.trimmed? config.effectiveTokenPath with
  | some token => .ok token
  | none => .error (.ofFault (.noToken config.effectiveTokenPath))

def pollingInterval? (config : Config) : Option Duration :=
  if config.pollingSeconds = 0 then none else some (.ofSeconds config.pollingSeconds)

def reconnectDelay (config : Config) : Duration := .ofSeconds config.reconnectSeconds

def bootstrapTimeout (config : Config) : Duration := .ofSeconds config.bootstrapSeconds

/-- The name of a client in a mesh. -/
def nodeId (config : Config) : String :=
  "sidecar~" ++ config.podAddress ++ "~" ++ config.podName ++ "." ++ config.namespaceName ++ "~" ++
    config.namespaceName ++ ".svc.cluster.local"

/-- The metadata of a client, in ascending order of their names. -/
def metadata (config : Config) : Wire.Value :=
  .message [.map ([("CLUSTER_ID", config.clusterId), ("INSTANCE_IPS", config.podAddress),
    ("NAMESPACE", config.namespaceName), ("POD_NAME", config.podName)].map fun entry =>
      (entry.1, .message [.choice (some (3, .text entry.2))]))]

/-- The client, as it presents itself. -/
def node (config : Config) : Node where
  id := config.nodeId
  cluster := config.podName ++ "." ++ config.namespaceName
  metadata := some config.metadata
  userAgent := "xds-authz-r"

end Config

end MeshAccess.Discovery
