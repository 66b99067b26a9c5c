import MeshAccess.NameMap
import MeshAccess.NameSet

/-!
This file holds the registry of the policies of one kind.

A registry has one map for policies that allow and one for policies that deny. It changes by single
writes, each on one of the maps, so the states in between can be looked at too.
-/

namespace MeshAccess.Policy

/-- What a policy does with the requests that it matches. -/
inductive Action where
  | allow
  | deny
  deriving DecidableEq, Repr

def Action.opposite : Action → Action
  | .allow => .deny
  | .deny => .allow

/-- A rule under a name, with its action. -/
structure NamedRule (α : Type) where
  name : String
  action : Action
  rule : α
  deriving DecidableEq, Repr

/-- The names that stay in each of the two maps when all policies are replaced. -/
structure Kept where
  allowed : NameSet
  denied : NameSet
  deriving DecidableEq, Repr

namespace Kept

variable {α : Type}

def empty : Kept := ⟨.empty, .empty⟩

/-- The names that stay in the map of an action. -/
def names (kept : Kept) : Action → NameSet
  | .allow => kept.allowed
  | .deny => kept.denied

/-- The name of a policy stays under its action only. -/
def add (kept : Kept) (policy : NamedRule α) : Kept :=
  match policy.action with
  | .allow => ⟨kept.allowed.insert policy.name, kept.denied.erase policy.name⟩
  | .deny => ⟨kept.allowed.erase policy.name, kept.denied.insert policy.name⟩

def ofPolicies (policies : List (NamedRule α)) : Kept := policies.foldl add empty

end Kept

/-- The policies of one kind. -/
structure Registry (α : Type) where
  allowed : NameMap (NamedRule α)
  denied : NameMap (NamedRule α)
  deriving DecidableEq, Repr

/-- A change of one entry in one of the maps. -/
inductive Write (α : Type) where
  | put (policy : NamedRule α)
  | drop (action : Action) (name : String)
  deriving DecidableEq, Repr

namespace Registry

variable {α : Type}

def empty : Registry α := ⟨.empty, .empty⟩

instance : Inhabited (Registry α) := ⟨empty⟩

/-- The map of an action. -/
def policies (registry : Registry α) : Action → NameMap (NamedRule α)
  | .allow => registry.allowed
  | .deny => registry.denied

/-- This function changes one map as a write says. -/
def write (registry : Registry α) : Write α → Registry α
  | .put policy =>
      match policy.action with
      | .allow => { registry with allowed := registry.allowed.insert policy.name policy }
      | .deny => { registry with denied := registry.denied.insert policy.name policy }
  | .drop .allow name => { registry with allowed := registry.allowed.erase name }
  | .drop .deny name => { registry with denied := registry.denied.erase name }

def writeAll (registry : Registry α) (writes : List (Write α)) : Registry α :=
  writes.foldl write registry

/-- The writes that register a policy. Its name leaves the opposite map after the policy is in. -/
def addWrites (policy : NamedRule α) : List (Write α) :=
  [.put policy, .drop policy.action.opposite policy.name]

def add (registry : Registry α) (policy : NamedRule α) : Registry α :=
  registry.writeAll (addWrites policy)

def addAll (registry : Registry α) (policies : List (NamedRule α)) : Registry α :=
  policies.foldl add registry

def get? (registry : Registry α) (name : String) : Option (NamedRule α) :=
  registry.allowed.find? name <|> registry.denied.find? name

/-- This function drops a name from both maps and gives the policy that was there. -/
def remove (registry : Registry α) (name : String) : Option (NamedRule α) × Registry α :=
  (registry.get? name, registry.writeAll [.drop .allow name, .drop .deny name])

/-- This function drops all policies. -/
def clear (_ : Registry α) : Registry α := empty

/-- The writes that drop from the map of an action all names that do not stay in it. -/
def pruneWrites (registry : Registry α) (kept : Kept) (action : Action) : List (Write α) :=
  ((registry.policies action).names.filter fun name =>
    !(kept.names action).contains name).map (.drop action)

/-- The writes that put the policies of a list in the place of all policies. Every policy of the list
is in before the first name leaves for good. -/
def replaceWrites (registry : Registry α) (policies : List (NamedRule α)) : List (Write α) :=
  let added := registry.addAll policies
  let kept := Kept.ofPolicies policies
  policies.flatMap addWrites ++ added.pruneWrites kept .allow ++ added.pruneWrites kept .deny

/-- The registry with the policies of a list. The last policy of a name counts. -/
def replaceAll (registry : Registry α) (policies : List (NamedRule α)) : Registry α :=
  registry.writeAll (registry.replaceWrites policies)

def size (registry : Registry α) : Nat := registry.allowed.size + registry.denied.size

def isEmpty (registry : Registry α) : Bool := registry.allowed.isEmpty && registry.denied.isEmpty

/-- The names of all policies in ascending order. -/
def names (registry : Registry α) : List String :=
  (registry.allowed.names ++ registry.denied.names).mergeSort fun first second => first ≤ second

/-- Whether all policies of a list pass a test, if there is one. -/
def allPass? (policies : List (NamedRule α)) (passes : α → Bool) : Option Bool :=
  if policies.isEmpty then none else some (policies.all fun policy => passes policy.rule)

/-- The verdict of one look at the policies that deny and one at those that allow, each in some
order. -/
def permitsInOrder (denied allowed : List (NamedRule α)) (passes : α → Bool) : Bool :=
  if allPass? denied passes = some true then false else (allPass? allowed passes).getD true

/-- The registry lets a request through, given the rules that the request passes. It does not if
there are policies that deny and the request passes all of them, and it does if there are no policies
that allow or the request passes all of them. -/
def permits (registry : Registry α) (passes : α → Bool) : Bool :=
  permitsInOrder registry.denied.values registry.allowed.values passes

end Registry

end MeshAccess.Policy
