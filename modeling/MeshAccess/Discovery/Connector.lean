import MeshAccess.Discovery.Config
import MeshAccess.Http.Header
import MeshAccess.Http.Uri

/-!
This file prepares connections to a control plane over the network.

The token is read anew for every connection, so a token that has changed is found.
-/

namespace MeshAccess.Discovery

/-- What a connection needs before it is opened. -/
structure ConnectionPlan where
  authorization : Http.HeaderValue
  endpoint : Http.Uri
  certificate : Option (List UInt8)
  deriving DecidableEq, Repr

namespace Config

/-- A client can be made when the configuration is valid and a token is there. -/
def checkConnector (config : Config) (files : Files) : Except Failure Unit := do
  config.validate
  let _ ← config.loadToken files
  return ()

/-- The header value that presents the token. -/
def authorization (config : Config) (files : Files) : Except Failure Http.HeaderValue :=
  match config.loadToken files with
  | .error failure => .error (.transport .credentials failure.describe)
  | .ok token =>
      match Http.HeaderValue.ofBytes? (Text.Utf8.bytes ("Bearer " ++ token)) with
      | some value => .ok value
      | none => .error (.transport .credentials "token is not valid ASCII")

/-- The certificate of the control plane, if the connection is encrypted. -/
def certificate (config : Config) (files : Files) : Except Failure (Option (List UInt8)) :=
  if !config.isEncrypted then .ok none
  else
    match files.lookup config.certificatePath with
    | some bytes => .ok (some bytes)
    | none => .error (.transport .encryption ("reading CA " ++ config.certificatePath))

/-- What a connection needs. The token is looked at first, then the address and the certificate. -/
def connectionPlan (config : Config) (files : Files) : Except Failure ConnectionPlan := do
  let authorization ← config.authorization files
  match Http.Uri.ofText? config.endpointUri with
  | none => throw (.transport .connection "invalid address")
  | some endpoint =>
      let certificate ← config.certificate files
      return ⟨authorization, endpoint, certificate⟩

end Config

end MeshAccess.Discovery
