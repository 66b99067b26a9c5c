import MeshAccess.Mesh.AccessPolicy
import MeshAccess.Mesh.Packed
import MeshAccess.Mesh.TokenProviders
import MeshAccess.NameSet

/-!
This file holds listeners and makes policies of them.

A listener has chains of network filters. The network filter that manages connections has filters of
its own, and two kinds of those are read: access rules and token providers.
-/

namespace MeshAccess.Mesh

open Policy
open Wire

/-- A listener with the network filters of each chain. -/
structure Listener where
  name : String
  chains : List (List Filter)
  deriving DecidableEq, Repr, Inhabited

namespace Listener

def chainOf : Value → List Filter
  | .message [.repeated filters, _] => filters.map Filter.ofMessage
  | _ => []

def ofMessage : Value → Listener
  | .message [.plain (.text name), _, .repeated chains] => ⟨name, chains.map chainOf⟩
  | _ => default

def decode? (content : List UInt8) : Option Listener :=
  (Wire.decode? .listener content).map ofMessage

/-- The network filters of all chains. -/
def filters (listener : Listener) : List Filter := listener.chains.flatten

end Listener

/-- The network filter that manages connections. -/
structure ConnectionManager where
  routeConfig : Option String
  filters : List Filter
  deriving DecidableEq, Repr, Inhabited

namespace ConnectionManager

/-- The name of the type. -/
def typeUrl : String :=
  "type.googleapis.com/envoy.extensions.filters.network.http_connection_manager.v3.HttpConnectionManager"

/-- The name of a network filter that manages connections. -/
def filterName : String := "envoy.filters.network.http_connection_manager"

def routeConfigOf : Value → String
  | .message [.plain (.text name)] => name
  | _ => ""

def ofMessage : Value → ConnectionManager
  | .message [_, .optional routeConfig, .repeated filters] =>
      ⟨routeConfig.map routeConfigOf, filters.map Filter.ofMessage⟩
  | _ => default

def decode? (content : List UInt8) : Option ConnectionManager :=
  (Wire.decode? .httpConnectionManager content).map ofMessage

/-- The manager in the configuration of a network filter of the right name. -/
def ofNamedFilter? (filter : Filter) : Option ConnectionManager :=
  if filter.name = filterName then filter.config.bind fun config => decode? config.content
  else none

/-- The manager in the configuration of a network filter, if it has the right type. -/
def ofTypedFilter? (filter : Filter) : Option ConnectionManager :=
  filter.config.bind fun config =>
    if config.typeUrl = typeUrl then decode? config.content else none

end ConnectionManager

namespace Listener

/-- The name of the filter with access rules. -/
def accessFilterName : String := "envoy.filters.http.rbac"

/-- The name of the filter with token providers. -/
def tokenFilterName : String := "envoy.filters.http.jwt_authn"

/-- The name of the listener for all inbound connections. Other listeners make no policies. -/
def inboundName : String := "virtualInbound"

/-- The policies and providers of a filter. One that cannot be read makes none. -/
def filterSnapshot (filter : Filter) : Snapshot :=
  match filter.config with
  | none => .empty
  | some config =>
      if filter.name = accessFilterName then
        match AccessRules.decode? config.content with
        | some (some rules) => rules.snapshot
        | _ => .empty
      else if filter.name = tokenFilterName then
        { Snapshot.empty with providers := (decodeProviders? config.content).getD [] }
      else .empty

/-- The filters of a listener whose policies count. -/
def policyFilters (listener : Listener) : List Filter :=
  if listener.name = inboundName then
    (listener.filters.filterMap ConnectionManager.ofNamedFilter?).flatMap
      ConnectionManager.filters
  else []

/-- The policies and providers of listeners in their order. -/
def snapshot (listeners : List Listener) : Snapshot :=
  ((listeners.flatMap policyFilters).map filterSnapshot).foldl Snapshot.append .empty

/-- The store with the policies and providers of listeners in the place of all others. -/
def enforce (store : Store) (listeners : List Listener) : Store := store.apply (snapshot listeners)

/-- The names of the route configurations that listeners refer to. -/
def routeConfigNames (listeners : List Listener) : NameSet :=
  let managers := (listeners.flatMap filters).filterMap ConnectionManager.ofTypedFilter?
  .ofList ((managers.filterMap ConnectionManager.routeConfig).filter fun name => !name.isEmpty)

end Listener

end MeshAccess.Mesh
