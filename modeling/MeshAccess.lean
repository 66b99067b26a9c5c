import MeshAccess.Authorization
import MeshAccess.Crypto.Edwards
import MeshAccess.Crypto.Hash
import MeshAccess.Crypto.Modular
import MeshAccess.Crypto.Octets
import MeshAccess.Crypto.Rsa
import MeshAccess.Crypto.Sha2
import MeshAccess.Crypto.Weierstrass
import MeshAccess.Decimal.Binary64
import MeshAccess.Decimal.Shortest
import MeshAccess.Discovery.Client
import MeshAccess.Discovery.Config
import MeshAccess.Discovery.ConfigFile
import MeshAccess.Discovery.Connector
import MeshAccess.Discovery.Duration
import MeshAccess.Discovery.Exchange
import MeshAccess.Discovery.Failure
import MeshAccess.Discovery.Reaction
import MeshAccess.Discovery.Replica
import MeshAccess.Discovery.ResourceKind
import MeshAccess.Discovery.Simulation
import MeshAccess.Discovery.Subscription
import MeshAccess.Http.Header
import MeshAccess.Http.Query
import MeshAccess.Http.Uri
import MeshAccess.Json.Document
import MeshAccess.Json.Number
import MeshAccess.Json.Printer
import MeshAccess.Json.Record
import MeshAccess.Json.Token
import MeshAccess.Json.Value
import MeshAccess.Match.Condition
import MeshAccess.Match.HeaderMatcher
import MeshAccess.Match.PatternCache
import MeshAccess.Match.PortMatcher
import MeshAccess.Match.StringMatcher
import MeshAccess.Mesh.AccessPolicy
import MeshAccess.Mesh.Cluster
import MeshAccess.Mesh.Listener
import MeshAccess.Mesh.Packed
import MeshAccess.Mesh.Pattern
import MeshAccess.Mesh.Permission
import MeshAccess.Mesh.Principal
import MeshAccess.Mesh.Route
import MeshAccess.Mesh.TokenProviders
import MeshAccess.NameMap
import MeshAccess.NameSet
import MeshAccess.Net.Address
import MeshAccess.Net.CidrRange
import MeshAccess.Policy.Caller
import MeshAccess.Policy.Connection
import MeshAccess.Policy.HeaderRule
import MeshAccess.Policy.Identity
import MeshAccess.Policy.Registry
import MeshAccess.Policy.Store
import MeshAccess.Policy.Target
import MeshAccess.Regex.Bracket
import MeshAccess.Regex.Expr
import MeshAccess.Regex.Footprint
import MeshAccess.Regex.Letter
import MeshAccess.Regex.Match
import MeshAccess.Regex.Pattern
import MeshAccess.Regex.Reader
import MeshAccess.Regex.Resolve
import MeshAccess.Regex.Syntax
import MeshAccess.Regex.Utf8Ranges
import MeshAccess.Text.Base64Url
import MeshAccess.Text.Blank
import MeshAccess.Text.Hex
import MeshAccess.Text.LowerCase
import MeshAccess.Text.Utf8
import MeshAccess.Token.Algorithm
import MeshAccess.Token.Claims
import MeshAccess.Token.Header
import MeshAccess.Token.KeySet
import MeshAccess.Token.Provider
import MeshAccess.Unicode.Age
import MeshAccess.Unicode.Binary
import MeshAccess.Unicode.CaseFolding
import MeshAccess.Unicode.CodePoints
import MeshAccess.Unicode.GeneralCategory
import MeshAccess.Unicode.Listing
import MeshAccess.Unicode.Property
import MeshAccess.Unicode.Script
import MeshAccess.Unicode.Segmentation
import MeshAccess.Unicode.ShiftRun
import MeshAccess.Wire.Message
import MeshAccess.Wire.Reader
import MeshAccess.Wire.Record
import MeshAccess.Wire.Schema
import MeshAccess.Wire.Varint
import MeshAccess.Wire.Writer
import MeshAccess.Proofs.NameMap
import MeshAccess.Proofs.NameSet
import MeshAccess.Proofs.LastNamed
import MeshAccess.Proofs.Policy.LastWriter
import MeshAccess.Proofs.Match.Condition
import MeshAccess.Proofs.Mesh.Permission
import MeshAccess.Proofs.Policy.Replacement
import MeshAccess.Proofs.Mesh.Principal
import MeshAccess.Proofs.Mesh.AccessPolicy
import MeshAccess.Proofs.Mesh.SingleRule
import MeshAccess.Proofs.Discovery.FetchOrder
import MeshAccess.Proofs.Discovery.Isolation
import MeshAccess.Proofs.Discovery.Reply
import MeshAccess.Proofs.Discovery.Provenance
import MeshAccess.Proofs.Discovery.Observation
import MeshAccess.Proofs.Policy.Reading
import MeshAccess.Proofs.Mesh.Negation
import MeshAccess.Proofs.Regex.Bracket
import MeshAccess.Proofs.Regex.Span
import MeshAccess.Proofs.Regex.Anchor
import MeshAccess.Proofs.Match.StringMatcher
import MeshAccess.Proofs.Mesh.NamespacePattern
import MeshAccess.Proofs.Mesh.AnyItem
import MeshAccess.Proofs.Mesh.Enforcement
import MeshAccess.Proofs.Mesh.Inversion
import MeshAccess.Proofs.Mesh.LatestPrincipal
import MeshAccess.Proofs.Mesh.ManagerScan
import MeshAccess.Proofs.Policy.ProviderChoice
import MeshAccess.Proofs.Policy.OrderedChecks
import MeshAccess.Proofs.Discovery.Padding
import MeshAccess.Proofs.Wire.RoundTrip
import MeshAccess.Proofs.Token.Carrier
import MeshAccess.Proofs.Token.EmptyCarrier
import MeshAccess.Proofs.Token.UnreadableValue
import MeshAccess.Proofs.Token.Verification
import MeshAccess.Proofs.Net.CidrRange
import MeshAccess.Proofs.Match.IgnoredCase
import MeshAccess.Proofs.Mesh.Independence
import MeshAccess.Proofs.Mesh.Destinations
import MeshAccess.Proofs.Discovery.History
import MeshAccess.Proofs.Policy.Continuity
import MeshAccess.Proofs.Json.Token
import MeshAccess.Proofs.Mesh.RouteTable
import MeshAccess.Proofs.Text.Base64Url
import MeshAccess.Proofs.Json.Document
import MeshAccess.Proofs.Json.Number
import MeshAccess.Proofs.Json.Exact
import MeshAccess.Proofs.Json.RoundTrip
import MeshAccess.Proofs.Token.ForwardedClaims
import MeshAccess.Proofs.Match.PatternCache
import MeshAccess.Proofs.Discovery.PollingTimer
import MeshAccess.Proofs.Discovery.Shutdown
import MeshAccess.Proofs.Wire.Grammar
import MeshAccess.Proofs.Wire.Locality
import MeshAccess.Proofs.Wire.UnknownFields
