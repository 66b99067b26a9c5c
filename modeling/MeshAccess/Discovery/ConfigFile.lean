import MeshAccess.Discovery.Config
import MeshAccess.Json.Record

/-!
This file reads and writes configurations as JSON texts.
-/

namespace MeshAccess.Discovery

namespace TokenPolicy

def name : TokenPolicy → String
  | .firstParty => "first-party-jwt"
  | .thirdParty => "third-party-jwt"

def ofName? (name : String) : Option TokenPolicy :=
  [firstParty, thirdParty].find? fun policy => policy.name = name

end TokenPolicy

namespace Config

open Json.Record

/-- The fields of a configuration in their order. -/
def fieldNames : List String :=
  ["host", "port", "token", "token_path", "jwt_policy", "tls", "ca_cert_path",
    "polling_interval_secs", "reconnect_delay_secs", "bootstrap_timeout_secs",
    "connect_timeout_secs", "pod_name", "namespace", "pod_ip", "cluster_id", "log_xds"]

/-- The largest number of 64 bits. -/
def maxSeconds : Nat := Nat.pow 2 64 - 1

/-- The largest port. -/
def maxPort : Nat := 65535

/-- The configuration of a document. Fields that are missing keep their usual values. -/
def ofDocument? (document : Json.Document) : Option Config := do
  let members ← leadingMembers? fieldNames document
  let usual : Config := {}
  let text := fun value name => withDefault? value text? members name
  let seconds := fun value name => withDefault? value (natural? maxSeconds) members name
  let flag := fun value name => withDefault? value bool? members name
  let policy := fun document => (choice? document).bind TokenPolicy.ofName?
  let host ← text usual.host "host"
  let port ← withDefault? usual.port (natural? maxPort) members "port"
  let token ← optional? text? members "token"
  let tokenPath ← optional? text? members "token_path"
  let tokenPolicy ← withDefault? usual.tokenPolicy policy members "jwt_policy"
  let isEncrypted ← flag usual.isEncrypted "tls"
  let certificatePath ← text usual.certificatePath "ca_cert_path"
  let pollingSeconds ← seconds usual.pollingSeconds "polling_interval_secs"
  let reconnectSeconds ← seconds usual.reconnectSeconds "reconnect_delay_secs"
  let bootstrapSeconds ← seconds usual.bootstrapSeconds "bootstrap_timeout_secs"
  let connectSeconds ← seconds usual.connectSeconds "connect_timeout_secs"
  let podName ← text usual.podName "pod_name"
  let namespaceName ← text usual.namespaceName "namespace"
  let podAddress ← text usual.podAddress "pod_ip"
  let clusterId ← text usual.clusterId "cluster_id"
  let logsPushes ← flag usual.logsPushes "log_xds"
  return { host, port, token, tokenPath, tokenPolicy, isEncrypted, certificatePath,
           pollingSeconds, reconnectSeconds, bootstrapSeconds, connectSeconds, podName,
           namespaceName, podAddress, clusterId, logsPushes }

/-- The configuration of a text. -/
def read? (text : List Char) : Option Config := (Json.Document.read? text).bind ofDocument?

/-- The valid configuration in a file. -/
def load (files : Files) (path : String) : Except Failure Config :=
  match (files.lookup path).bind Text.Utf8.decode? with
  | none => .error (.io path)
  | some text =>
      match read? text with
      | none => .error (.json path)
      | some config =>
          match config.validate with
          | .ok () => .ok config
          | .error failure => .error failure

/-- The JSON form of a configuration. -/
def toJson (config : Config) : Json :=
  let optionalText := fun value : Option String => (value.map Json.string).getD .null
  .ofMembers
    [("host", .string config.host), ("port", .ofNat config.port),
      ("token", optionalText config.token), ("token_path", optionalText config.tokenPath),
      ("jwt_policy", .string config.tokenPolicy.name), ("tls", .bool config.isEncrypted),
      ("ca_cert_path", .string config.certificatePath),
      ("polling_interval_secs", .ofNat config.pollingSeconds),
      ("reconnect_delay_secs", .ofNat config.reconnectSeconds),
      ("bootstrap_timeout_secs", .ofNat config.bootstrapSeconds),
      ("connect_timeout_secs", .ofNat config.connectSeconds),
      ("pod_name", .string config.podName), ("namespace", .string config.namespaceName),
      ("pod_ip", .string config.podAddress), ("cluster_id", .string config.clusterId),
      ("log_xds", .bool config.logsPushes)]

end Config

end MeshAccess.Discovery
