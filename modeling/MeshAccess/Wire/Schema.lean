/-!
This file holds the message types and their fields.

The types are the parts of the mesh configuration that this library reads. The fields of a type stand
in the order in which they are written.
-/

namespace MeshAccess.Wire

/-- The values that are no messages. -/
inductive Scalar where
  | bool
  | int32
  | uint32
  | double
  | text
  | bytes
  deriving DecidableEq, Repr

/-- The message types. -/
inductive MessageType where
  | discoveryRequest
  | discoveryResponse
  | status
  | node
  | cidrRange
  | dataSource
  | address
  | socketAddress
  | cluster
  | edsClusterConfig
  | clusterLoadAssignment
  | localityLbEndpoints
  | lbEndpoint
  | endpoint
  | listener
  | filterChain
  | filter
  | httpConnectionManager
  | rds
  | httpFilter
  | stringMatcher
  | regexMatcher
  | headerMatcher
  | pathMatcher
  | metadataMatcher
  | pathSegment
  | valueMatcher
  | listMatcher
  | rbacFilter
  | rbac
  | policy
  | permission
  | permissionSet
  | principal
  | principalSet
  | authenticated
  | jwtAuthentication
  | jwtProvider
  | jwtHeader
  | routeConfiguration
  | virtualHost
  | route
  | routeMatch
  | routeAction
  | weightedCluster
  | clusterWeight
  | any
  | struct
  | value
  | listValue
  | uint32Value
  deriving DecidableEq, Repr

/-- What a field or a variant holds. -/
inductive Kind where
  | scalar (scalar : Scalar)
  | message (type : MessageType)
  deriving DecidableEq, Repr

/-- One of the alternatives of a field. -/
structure Variant where
  name : String
  tag : Nat
  kind : Kind
  deriving DecidableEq, Repr

/-- How often a field may stand in a message. A field of the first shape is not written when it has
its default value, and all others are written when they are there. -/
inductive Shape where
  | plain (tag : Nat) (scalar : Scalar)
  | optional (tag : Nat) (kind : Kind)
  | repeated (tag : Nat) (kind : Kind)
  | choice (variants : List Variant)
  | map (tag : Nat) (type : MessageType)
  deriving DecidableEq, Repr

/-- A field of a message type. -/
structure Field where
  name : String
  shape : Shape
  deriving DecidableEq, Repr

namespace Field

def plain (name : String) (tag : Nat) (scalar : Scalar) : Field := ⟨name, .plain tag scalar⟩

def optional (name : String) (tag : Nat) (type : MessageType) : Field :=
  ⟨name, .optional tag (.message type)⟩

def texts (name : String) (tag : Nat) : Field := ⟨name, .repeated tag (.scalar .text)⟩

def messages (name : String) (tag : Nat) (type : MessageType) : Field :=
  ⟨name, .repeated tag (.message type)⟩

def choice (name : String) (variants : List Variant) : Field := ⟨name, .choice variants⟩

def map (name : String) (tag : Nat) (type : MessageType) : Field := ⟨name, .map tag type⟩

end Field

namespace MessageType

open MeshAccess.Wire.Field

def text (name : String) (tag : Nat) : Variant := ⟨name, tag, .scalar .text⟩

def scalar (name : String) (tag : Nat) (scalar : Scalar) : Variant := ⟨name, tag, .scalar scalar⟩

def message (name : String) (tag : Nat) (type : MessageType) : Variant := ⟨name, tag, .message type⟩

/-- The fields of a type in ascending order of their tags. A choice stands at its lowest tag. -/
def fields : MessageType → List Field
  | .discoveryRequest =>
      [plain "version_info" 1 .text, optional "node" 2 .node, texts "resource_names" 3,
        plain "type_url" 4 .text, plain "response_nonce" 5 .text,
        optional "error_detail" 6 .status]
  | .discoveryResponse =>
      [plain "version_info" 1 .text, messages "resources" 2 .any, plain "canary" 3 .bool,
        plain "type_url" 4 .text, plain "nonce" 5 .text]
  | .status => [plain "code" 1 .int32, plain "message" 2 .text]
  | .node =>
      [plain "id" 1 .text, plain "cluster" 2 .text, optional "metadata" 3 .struct,
        plain "user_agent_name" 6 .text]
  | .cidrRange => [plain "address_prefix" 1 .text, optional "prefix_len" 2 .uint32Value]
  | .dataSource =>
      [choice "specifier"
        [text "filename" 1, scalar "inline_bytes" 2 .bytes, text "inline_string" 3]]
  | .address => [optional "socket_address" 1 .socketAddress]
  | .socketAddress => [plain "address" 2 .text, plain "port_value" 3 .uint32]
  | .cluster =>
      [plain "name" 1 .text, ⟨"type", .optional 2 (.scalar .int32)⟩,
        optional "eds_cluster_config" 3 .edsClusterConfig]
  | .edsClusterConfig => [plain "service_name" 2 .text]
  | .clusterLoadAssignment =>
      [plain "cluster_name" 1 .text, messages "endpoints" 2 .localityLbEndpoints]
  | .localityLbEndpoints => [messages "lb_endpoints" 2 .lbEndpoint]
  | .lbEndpoint => [optional "endpoint" 1 .endpoint]
  | .endpoint => [optional "address" 1 .address]
  | .listener =>
      [plain "name" 1 .text, optional "address" 2 .address,
        messages "filter_chains" 3 .filterChain]
  | .filterChain => [messages "filters" 3 .filter, plain "name" 7 .text]
  | .filter => [plain "name" 1 .text, optional "typed_config" 4 .any]
  | .httpConnectionManager =>
      [plain "stat_prefix" 2 .text, optional "rds" 3 .rds, messages "http_filters" 5 .httpFilter]
  | .rds => [plain "route_config_name" 2 .text]
  | .httpFilter => [plain "name" 1 .text, optional "typed_config" 4 .any]
  | .stringMatcher =>
      [choice "match_pattern"
        [text "exact" 1, text "prefix" 2, text "suffix" 3, message "safe_regex" 5 .regexMatcher,
          text "contains" 7],
        plain "ignore_case" 6 .bool]
  | .regexMatcher => [plain "regex" 2 .text]
  | .headerMatcher =>
      [plain "name" 1 .text,
        choice "header_match_specifier"
          [text "exact_match" 4, scalar "present_match" 7 .bool, text "prefix_match" 9,
            text "suffix_match" 10, message "safe_regex_match" 11 .regexMatcher,
            text "contains_match" 12, message "string_match" 13 .stringMatcher],
        plain "invert_match" 8 .bool]
  | .pathMatcher => [optional "path" 1 .stringMatcher]
  | .metadataMatcher =>
      [plain "filter" 1 .text, messages "path" 2 .pathSegment, optional "value" 3 .valueMatcher,
        plain "invert" 4 .bool]
  | .pathSegment => [plain "key" 1 .text]
  | .valueMatcher =>
      [choice "match_pattern"
        [message "string_match" 3 .stringMatcher, scalar "present_match" 5 .bool,
          message "list_match" 6 .listMatcher]]
  | .listMatcher => [choice "match_pattern" [message "one_of" 1 .valueMatcher]]
  | .rbacFilter => [optional "rules" 1 .rbac]
  | .rbac => [plain "action" 1 .int32, map "policies" 2 .policy]
  | .policy => [messages "permissions" 1 .permission, messages "principals" 2 .principal]
  | .permission =>
      [choice "rule"
        [message "and_rules" 1 .permissionSet, message "or_rules" 2 .permissionSet,
          scalar "any" 3 .bool, message "header" 4 .headerMatcher,
          message "destination_ip" 5 .cidrRange, scalar "destination_port" 6 .uint32,
          message "not_rule" 8 .permission, message "url_path" 10 .pathMatcher]]
  | .permissionSet => [messages "rules" 1 .permission]
  | .principal =>
      [choice "identifier"
        [message "and_ids" 1 .principalSet, message "or_ids" 2 .principalSet,
          scalar "any" 3 .bool, message "authenticated" 4 .authenticated,
          message "header" 6 .headerMatcher, message "metadata" 7 .metadataMatcher,
          message "not_id" 8 .principal, message "direct_remote_ip" 10 .cidrRange,
          message "remote_ip" 11 .cidrRange]]
  | .principalSet => [messages "ids" 1 .principal]
  | .authenticated => [optional "principal_name" 2 .stringMatcher]
  | .jwtAuthentication => [map "providers" 1 .jwtProvider]
  | .jwtProvider =>
      [plain "issuer" 1 .text, texts "audiences" 2, optional "local_jwks" 4 .dataSource,
        plain "forward" 5 .bool, messages "from_headers" 6 .jwtHeader, texts "from_params" 7,
        plain "forward_payload_header" 8 .text]
  | .jwtHeader => [plain "name" 1 .text, plain "value_prefix" 2 .text]
  | .routeConfiguration => [plain "name" 1 .text, messages "virtual_hosts" 2 .virtualHost]
  | .virtualHost => [plain "name" 1 .text, texts "domains" 2, messages "routes" 3 .route]
  | .route =>
      [optional "match" 1 .routeMatch, optional "route" 2 .routeAction, plain "name" 14 .text]
  | .routeMatch =>
      [choice "path_specifier"
        [text "prefix" 1, text "path" 2, message "safe_regex" 10 .regexMatcher],
        messages "headers" 6 .headerMatcher]
  | .routeAction =>
      [choice "cluster_specifier"
        [text "cluster" 1, message "weighted_clusters" 3 .weightedCluster]]
  | .weightedCluster => [messages "clusters" 1 .clusterWeight]
  | .clusterWeight => [plain "name" 1 .text, optional "weight" 3 .uint32Value]
  | .any => [plain "type_url" 1 .text, plain "value" 2 .bytes]
  | .struct => [map "fields" 1 .value]
  | .value =>
      [choice "kind"
        [scalar "null_value" 1 .int32, scalar "number_value" 2 .double, text "string_value" 3,
          scalar "bool_value" 4 .bool, message "struct_value" 5 .struct,
          message "list_value" 6 .listValue]]
  | .listValue => [messages "values" 1 .value]
  | .uint32Value => [plain "value" 1 .uint32]

/-- The types under their names. -/
def table : List (String × MessageType) :=
  [("DiscoveryRequest", .discoveryRequest), ("DiscoveryResponse", .discoveryResponse),
    ("Status", .status), ("Node", .node), ("CidrRange", .cidrRange), ("DataSource", .dataSource),
    ("Address", .address), ("SocketAddress", .socketAddress), ("Cluster", .cluster),
    ("EdsClusterConfig", .edsClusterConfig), ("ClusterLoadAssignment", .clusterLoadAssignment),
    ("LocalityLbEndpoints", .localityLbEndpoints), ("LbEndpoint", .lbEndpoint),
    ("Endpoint", .endpoint), ("Listener", .listener), ("FilterChain", .filterChain),
    ("Filter", .filter), ("HttpConnectionManager", .httpConnectionManager), ("Rds", .rds),
    ("HttpFilter", .httpFilter), ("StringMatcher", .stringMatcher),
    ("RegexMatcher", .regexMatcher), ("HeaderMatcher", .headerMatcher),
    ("PathMatcher", .pathMatcher), ("MetadataMatcher", .metadataMatcher),
    ("PathSegment", .pathSegment), ("ValueMatcher", .valueMatcher), ("ListMatcher", .listMatcher),
    ("RbacFilter", .rbacFilter), ("Rbac", .rbac), ("Policy", .policy), ("Permission", .permission),
    ("PermissionSet", .permissionSet), ("Principal", .principal), ("PrincipalSet", .principalSet),
    ("Authenticated", .authenticated), ("JwtAuthentication", .jwtAuthentication),
    ("JwtProvider", .jwtProvider), ("JwtHeader", .jwtHeader),
    ("RouteConfiguration", .routeConfiguration), ("VirtualHost", .virtualHost), ("Route", .route),
    ("RouteMatch", .routeMatch), ("RouteAction", .routeAction),
    ("WeightedCluster", .weightedCluster), ("ClusterWeight", .clusterWeight), ("Any", .any),
    ("Struct", .struct), ("Value", .value), ("ListValue", .listValue),
    ("UInt32Value", .uint32Value)]

def ofName? (name : String) : Option MessageType := table.lookup name

end MessageType

namespace Shape

/-- The tags that belong to a field. -/
def tags : Shape → List Nat
  | .plain tag _ => [tag]
  | .optional tag _ => [tag]
  | .repeated tag _ => [tag]
  | .choice variants => variants.map Variant.tag
  | .map tag _ => [tag]

end Shape

end MeshAccess.Wire
