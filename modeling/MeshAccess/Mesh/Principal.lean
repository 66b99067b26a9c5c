import MeshAccess.Mesh.Pattern
import MeshAccess.NameSet
import MeshAccess.Policy.Caller
import MeshAccess.Policy.Connection

/-!
This file holds principals and makes rules of them.

A principal is a tree of the same form as a permission. Its matchers are about the workload that
calls, the addresses of the connection, the claims of a token, and header fields.
-/

namespace MeshAccess.Mesh

open Match
open Policy
open Wire

/-- A principal. -/
inductive Principal where
  | unset
  | all (items : List Principal)
  | oneOf (items : List Principal)
  | any (value : Bool)
  | authenticated (name : Option TextPattern)
  | header (pattern : HeaderPattern)
  | metadata (pattern : MetadataPattern)
  | not (item : Principal)
  | directAddress (range : Net.CidrRange)
  | remoteAddress (range : Net.CidrRange)
  deriving Repr, Inhabited

namespace Principal

/-- The name pattern of a message. -/
def nameOf : Value → Option TextPattern
  | .message [.optional pattern] => pattern.map TextPattern.ofMessage
  | _ => none

mutual

def ofMessage : Value → Principal
  | .message [.choice (some (1, .message [.repeated items]))] => .all (ofMessages items)
  | .message [.choice (some (2, .message [.repeated items]))] => .oneOf (ofMessages items)
  | .message [.choice (some (3, .bool value))] => .any value
  | .message [.choice (some (4, name))] => .authenticated (nameOf name)
  | .message [.choice (some (6, pattern))] => .header (.ofMessage pattern)
  | .message [.choice (some (7, pattern))] => .metadata (.ofMessage pattern)
  | .message [.choice (some (8, item))] => .not (ofMessage item)
  | .message [.choice (some (10, range))] => .directAddress (rangeOf range)
  | .message [.choice (some (11, range))] => .remoteAddress (rangeOf range)
  | _ => .unset

def ofMessages : List Value → List Principal
  | [] => []
  | message :: rest => ofMessage message :: ofMessages rest

end

/-- The principal holds for every caller. -/
def isAny : Principal → Bool
  | .any value => value
  | _ => false

/-- The items at the root. -/
def items : Principal → List Principal
  | .all items => items
  | .unset => []
  | principal => [principal]

/-- The alternatives of an item, and whether it is negated. -/
def alternatives : Principal → List Principal × Bool
  | .oneOf items => (items, false)
  | .not (.oneOf items) => (items, true)
  | .not item => ([item], true)
  | principal => ([principal], false)

/-- The matcher of an alternative, with the part of the request that it is about. -/
inductive Test where
  | principal (matcher : StringMatcher)
  | namespaceName (matcher : StringMatcher)
  | source (range : Net.CidrRange)
  | remote (range : Net.CidrRange)
  | requestPrincipal (matcher : StringMatcher)
  | audience (matcher : StringMatcher)
  | presenter (matcher : StringMatcher)
  | claim (name : String) (matcher : StringMatcher)
  | header (matcher : HeaderMatcher)
  deriving DecidableEq, Repr

namespace Test

def principal? : Test → Option StringMatcher
  | .principal matcher => some matcher
  | _ => none

def namespaceName? : Test → Option StringMatcher
  | .namespaceName matcher => some matcher
  | _ => none

def source? : Test → Option Net.CidrRange
  | .source range => some range
  | _ => none

def remote? : Test → Option Net.CidrRange
  | .remote range => some range
  | _ => none

def requestPrincipal? : Test → Option StringMatcher
  | .requestPrincipal matcher => some matcher
  | _ => none

def audience? : Test → Option StringMatcher
  | .audience matcher => some matcher
  | _ => none

def presenter? : Test → Option StringMatcher
  | .presenter matcher => some matcher
  | _ => none

def claim? : Test → Option (String × StringMatcher)
  | .claim name matcher => some (name, matcher)
  | _ => none

def header? : Test → Option HeaderMatcher
  | .header matcher => some matcher
  | _ => none

end Test

/-- The text around the name of a namespace in a pattern for principals. -/
def namespaceStart : List Char := ".*/ns/".toList

def namespaceEnd : List Char := "/.*".toList

/-- The namespace of a pattern that asks for nothing else: a name without a slash between the two
fixed texts. -/
def namespaceOfPattern? (pattern : String) : Option String :=
  let text := pattern.toList
  let rest := text.drop namespaceStart.length
  let name := rest.takeWhile (· ≠ '/')
  if namespaceStart.isPrefixOf text && !name.isEmpty && rest.drop name.length = namespaceEnd then
    some (String.ofList name)
  else none

/-- The test of an authenticated name. A regular expression for a namespace alone becomes a comparison
with its name. -/
def nameTest (matcher : StringMatcher) : Test :=
  match if matcher.comparison = .regex then namespaceOfPattern? matcher.pattern else none with
  | some name => .namespaceName ⟨.exact, name, false⟩
  | none => .principal matcher

/-- The filter whose metadata tell about the token of a request. -/
def authenticationFilter : String := "istio_authn"

def claimsKey : String := "request.auth.claims"

/-- The kinds of metadata that are compared with one text. -/
def textTest? (key : String) (matcher : StringMatcher) : Option Test :=
  if key = "request.auth.principal" then some (.requestPrincipal matcher)
  else if key = "request.auth.audiences" then some (.audience matcher)
  else if key = "request.auth.presenter" then some (.presenter matcher)
  else none

/-- The test of metadata. A claim has a list of values, and all else is a text. The inversion does not
count. -/
def metadataTest? (pattern : MetadataPattern) : Option Test :=
  if pattern.filter ≠ authenticationFilter then none
  else
    match pattern.path, pattern.value with
    | key :: rest, some value =>
        if key = claimsKey then
          match rest, value with
          | claim :: _, .oneOf (.text text) => text.matcher?.map (.claim claim)
          | _, _ => none
        else
          match value with
          | .text text => text.matcher?.bind (textTest? key)
          | _ => none
    | _, _ => none

/-- The test of an alternative, if it makes one. -/
def test? : Principal → Option Test
  | .authenticated name => (name.bind TextPattern.matcher?).map nameTest
  | .directAddress range => some (.source range)
  | .remoteAddress range => some (.remote range)
  | .header pattern => pattern.matcher?.map .header
  | .metadata pattern => metadataTest? pattern
  | _ => none

/-- The tests of an item, and whether it is negated. -/
def tests (item : Principal) : List Test × Bool :=
  (item.alternatives.1.filterMap test?, item.alternatives.2)

/-- The rules that one principal makes. -/
structure Rules where
  caller : CallerRule
  connection : ConnectionRule
  identity : IdentityRule
  headers : Condition HeaderMatcher
  deriving DecidableEq, Repr

namespace Rules

def empty : Rules := ⟨.empty, .empty, .empty, .empty⟩

/-- This function adds one group for each claim that the tests are about. -/
def pushClaims (claims : NameMap (Condition StringMatcher)) (tests : List (String × StringMatcher))
    (negated : Bool) : NameMap (Condition StringMatcher) :=
  (NameSet.ofList (tests.map Prod.fst)).toList.foldl (fun claims name =>
    let matchers := (tests.filter fun test => test.1 = name).map Prod.snd
    claims.insert name (((claims.find? name).getD .empty).push ⟨matchers, negated⟩)) claims

/-- This function adds an item, which makes one group of the tests about each part. -/
def push (rules : Rules) (tests : List Test × Bool) : Rules where
  caller := { rules.caller with
    principals := rules.caller.principals.push ⟨tests.1.filterMap Test.principal?, tests.2⟩
    namespaces := rules.caller.namespaces.push ⟨tests.1.filterMap Test.namespaceName?, tests.2⟩ }
  connection := { rules.connection with
    sources := rules.connection.sources.push ⟨tests.1.filterMap Test.source?, tests.2⟩
    remotes := rules.connection.remotes.push ⟨tests.1.filterMap Test.remote?, tests.2⟩ }
  identity :=
    { principals :=
        rules.identity.principals.push ⟨tests.1.filterMap Test.requestPrincipal?, tests.2⟩
      audiences := rules.identity.audiences.push ⟨tests.1.filterMap Test.audience?, tests.2⟩
      presenters := rules.identity.presenters.push ⟨tests.1.filterMap Test.presenter?, tests.2⟩
      claims := pushClaims rules.identity.claims (tests.1.filterMap Test.claim?) tests.2 }
  headers := rules.headers.push ⟨tests.1.filterMap Test.header?, tests.2⟩

end Rules

/-- The rules of a principal. One that holds for every caller makes none, and neither does one with
such an item. -/
def rules? (principal : Principal) : Option Rules :=
  if principal.items.any isAny then none
  else some ((principal.items.map tests).foldl Rules.push .empty)

end Principal

end MeshAccess.Mesh
