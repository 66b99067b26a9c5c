import MeshAccess.Mesh.Pattern
import MeshAccess.NameMap
import MeshAccess.Wire.Reader

/-!
This file holds route configurations and makes a table of routes by service.

The service of a virtual host is the first part of its name. Of several hosts of one service the last
one counts.
-/

namespace MeshAccess.Mesh

open Match
open Wire

/-- A cluster that a route leads to. The version is a part of the name of the cluster. -/
structure Destination where
  cluster : String
  version : String
  weight : Nat
  deriving DecidableEq, Repr, Inhabited

/-- A route, with its conditions and its destinations. -/
structure RouteRule where
  name : String
  path : Option StringMatcher
  headers : List HeaderMatcher
  destinations : List Destination
  deriving DecidableEq, Repr, Inhabited

/-- The parts of a text between separators. -/
def splitAt (separator : Char) : List Char → List (List Char)
  | [] => [[]]
  | character :: rest =>
      match splitAt separator rest with
      | [] => [[character]]
      | part :: parts =>
          if character = separator then [] :: part :: parts else (character :: part) :: parts

namespace Destination

/-- The version is the third part of the name of a cluster between bars. -/
def versionOf (cluster : String) : String :=
  String.ofList ((splitAt '|' cluster.toList).getD 2 [])

/-- The weight of a destination that is alone. -/
def fullWeight : Nat := 100

def ofCluster (cluster : String) (weight : Nat) : Destination :=
  ⟨cluster, versionOf cluster, weight⟩

def ofMessage : Value → Destination
  | .message [.plain (.text cluster), .optional weight] =>
      ofCluster cluster ((weight.map wrapped).getD 0)
  | _ => default

end Destination

namespace RouteRule

/-- The destinations of a route, if it leads to clusters. -/
def destinations? : Value → Option (List Destination)
  | .message [.choice (some (1, .text cluster))] =>
      some [.ofCluster cluster Destination.fullWeight]
  | .message [.choice (some (3, .message [.repeated clusters]))] =>
      some (clusters.map Destination.ofMessage)
  | _ => none

/-- A matcher for paths. An empty pattern is no condition. -/
def pathMatcher? (comparison : Comparison) (pattern : String) : Option StringMatcher :=
  if pattern.isEmpty then none else some ⟨comparison, pattern, false⟩

def path? : Value → Option StringMatcher
  | .message [.choice (some (1, .text pattern)), _] => pathMatcher? .start pattern
  | .message [.choice (some (2, .text pattern)), _] => pathMatcher? .exact pattern
  | .message [.choice (some (10, pattern)), _] => pathMatcher? .regex (regexText pattern)
  | _ => none

def headersOf : Value → List HeaderMatcher
  | .message [_, .repeated headers] =>
      headers.filterMap fun header => (HeaderPattern.ofMessage header).matcher?
  | _ => []

/-- The rule of a route, if it leads to clusters. -/
def ofMessage? : Value → Option RouteRule
  | .message [.optional conditions, .optional (some action), .plain (.text name)] =>
      (destinations? action).map fun destinations =>
        { name := name
          path := conditions.bind path?
          headers := (conditions.map headersOf).getD []
          destinations := destinations }
  | _ => none

end RouteRule

/-- A virtual host with the routes that lead to clusters. -/
structure VirtualHost where
  name : String
  rules : List RouteRule
  deriving DecidableEq, Repr, Inhabited

namespace VirtualHost

def ofMessage : Value → VirtualHost
  | .message [.plain (.text name), _, .repeated routes] =>
      ⟨name, routes.filterMap RouteRule.ofMessage?⟩
  | _ => default

/-- The name of the host that all other requests go to. It is no service. -/
def anyName : String := "allow_any"

/-- The service of a host name: the text before the first colon, and of that the text before the first
dot. -/
def serviceOf (name : String) : String :=
  String.ofList ((name.toList.takeWhile (· ≠ ':')).takeWhile (· ≠ '.'))

end VirtualHost

/-- A route configuration. -/
structure RouteConfig where
  name : String
  hosts : List VirtualHost
  deriving DecidableEq, Repr, Inhabited

namespace RouteConfig

def ofMessage : Value → RouteConfig
  | .message [.plain (.text name), .repeated hosts] => ⟨name, hosts.map VirtualHost.ofMessage⟩
  | _ => default

def decode? (content : List UInt8) : Option RouteConfig :=
  (Wire.decode? .routeConfiguration content).map ofMessage

end RouteConfig

/-- The routes to one service. -/
structure ServiceRoutes where
  service : String
  rules : List RouteRule
  defaultVersion : Option String
  deriving DecidableEq, Repr, Inhabited

namespace ServiceRoutes

/-- The routes of a virtual host, unless it has none or is no service. The version of the first
destination of the last rule is used when nothing else matches. -/
def ofHost? (host : VirtualHost) : Option ServiceRoutes :=
  if host.name = VirtualHost.anyName || host.rules.isEmpty then none
  else some
    { service := VirtualHost.serviceOf host.name
      rules := host.rules
      defaultVersion :=
        (host.rules.getLast?.bind fun rule => rule.destinations.head?).map Destination.version }

end ServiceRoutes

/-- The routes by service. -/
abbrev RouteTable := NameMap ServiceRoutes

/-- The table of route configurations. -/
def RouteTable.ofConfigs (configs : List RouteConfig) : RouteTable :=
  .ofList (((configs.flatMap RouteConfig.hosts).filterMap ServiceRoutes.ofHost?).map fun routes =>
    (routes.service, routes))

end MeshAccess.Mesh
