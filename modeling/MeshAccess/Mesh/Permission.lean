import MeshAccess.Mesh.Pattern
import MeshAccess.Policy.Target

/-!
This file holds permissions and makes rules of them.

A permission is a tree. At its root stand items that must all hold, and an item has alternatives and
may be negated. An alternative makes at most one matcher. Deeper trees do not count.
-/

namespace MeshAccess.Mesh

open Match
open Policy
open Wire

/-- A permission. -/
inductive Permission where
  | unset
  | all (items : List Permission)
  | oneOf (items : List Permission)
  | any (value : Bool)
  | header (pattern : HeaderPattern)
  | destination (range : Net.CidrRange)
  | port (port : Nat)
  | not (item : Permission)
  | path (pattern : Option TextPattern)
  deriving Repr, Inhabited

namespace Permission

/-- The path pattern of a message. -/
def pathOf : Value → Option TextPattern
  | .message [.optional pattern] => pattern.map TextPattern.ofMessage
  | _ => none

mutual

def ofMessage : Value → Permission
  | .message [.choice (some (1, .message [.repeated items]))] => .all (ofMessages items)
  | .message [.choice (some (2, .message [.repeated items]))] => .oneOf (ofMessages items)
  | .message [.choice (some (3, .bool value))] => .any value
  | .message [.choice (some (4, pattern))] => .header (.ofMessage pattern)
  | .message [.choice (some (5, range))] => .destination (rangeOf range)
  | .message [.choice (some (6, .uint32 number))] => .port number
  | .message [.choice (some (8, item))] => .not (ofMessage item)
  | .message [.choice (some (10, pattern))] => .path (pathOf pattern)
  | _ => .unset

def ofMessages : List Value → List Permission
  | [] => []
  | message :: rest => ofMessage message :: ofMessages rest

end

/-- The permission holds for every request. -/
def isAny : Permission → Bool
  | .any value => value
  | _ => false

/-- The items at the root. -/
def items : Permission → List Permission
  | .all items => items
  | .unset => []
  | permission => [permission]

/-- The alternatives of an item, and whether it is negated. -/
def alternatives : Permission → List Permission × Bool
  | .oneOf items => (items, false)
  | .not (.oneOf items) => (items, true)
  | .not item => ([item], true)
  | permission => ([permission], false)

/-- The matcher of an alternative, with the part of the request that it is about. -/
inductive Test where
  | host (matcher : StringMatcher)
  | port (matcher : PortMatcher)
  | method (matcher : StringMatcher)
  | path (matcher : StringMatcher)
  | destination (range : Net.CidrRange)
  deriving DecidableEq, Repr

namespace Test

def host? : Test → Option StringMatcher
  | .host matcher => some matcher
  | _ => none

def port? : Test → Option PortMatcher
  | .port matcher => some matcher
  | _ => none

def method? : Test → Option StringMatcher
  | .method matcher => some matcher
  | _ => none

def path? : Test → Option StringMatcher
  | .path matcher => some matcher
  | _ => none

def destination? : Test → Option Net.CidrRange
  | .destination range => some range
  | _ => none

end Test

/-- The header name that stands for the host. -/
def authorityHeader : String := ":authority"

/-- The header name that stands for the method. -/
def methodHeader : String := ":method"

/-- The largest port. -/
def maxPort : Nat := 65535

/-- The test of an alternative, if it makes one. The inversion of a header does not count. -/
def test? : Permission → Option Test
  | .port number => if 1 ≤ number && number ≤ maxPort then some (.port ⟨number⟩) else none
  | .header pattern =>
      if pattern.name = authorityHeader then pattern.valueMatcher?.map .host
      else if pattern.name = methodHeader then pattern.valueMatcher?.map .method
      else none
  | .path pattern => (pattern.bind TextPattern.matcher?).map .path
  | .destination range => some (.destination range)
  | _ => none

/-- The tests of an item, and whether it is negated. -/
def tests (item : Permission) : List Test × Bool :=
  (item.alternatives.1.filterMap test?, item.alternatives.2)

/-- The rules that permissions make: one about the target, and one about the destination address. -/
structure Rules where
  target : TargetRule
  destinations : Condition Net.CidrRange
  deriving DecidableEq, Repr

namespace Rules

def empty : Rules := ⟨.empty, .empty⟩

/-- This function adds an item, which makes one group of the tests about each part. -/
def push (rules : Rules) (tests : List Test × Bool) : Rules where
  target :=
    { hosts := rules.target.hosts.push ⟨tests.1.filterMap Test.host?, tests.2⟩
      ports := rules.target.ports.push ⟨tests.1.filterMap Test.port?, tests.2⟩
      methods := rules.target.methods.push ⟨tests.1.filterMap Test.method?, tests.2⟩
      paths := rules.target.paths.push ⟨tests.1.filterMap Test.path?, tests.2⟩ }
  destinations := rules.destinations.push ⟨tests.1.filterMap Test.destination?, tests.2⟩

/-- This function adds a permission. One that holds for every request adds nothing, and neither does
one with such an item. -/
def add (rules : Rules) (permission : Permission) : Rules :=
  if permission.items.any isAny then rules
  else (permission.items.map Permission.tests).foldl push rules

def ofPermissions (permissions : List Permission) : Rules := permissions.foldl add empty

end Rules

end Permission

end MeshAccess.Mesh
