import MeshAccess.Policy.Caller
import MeshAccess.Policy.Connection
import MeshAccess.Policy.HeaderRule
import MeshAccess.Policy.Registry
import MeshAccess.Policy.Target
import MeshAccess.Token.Provider

/-!
This file holds all policies and token providers together.
-/

namespace MeshAccess.Policy

/-- The policies and the token providers that one source gives. Names may repeat. -/
structure Snapshot where
  targets : List (NamedRule TargetRule)
  callers : List (NamedRule CallerRule)
  identities : List (NamedRule IdentityRule)
  connections : List (NamedRule ConnectionRule)
  headers : List (NamedRule HeaderRule)
  providers : List Token.Provider
  deriving DecidableEq, Repr, Inhabited

namespace Snapshot

def empty : Snapshot := ⟨[], [], [], [], [], []⟩

/-- The number of the policies, without the token providers. -/
def policyCount (snapshot : Snapshot) : Nat :=
  snapshot.targets.length + snapshot.callers.length + snapshot.identities.length +
    snapshot.connections.length + snapshot.headers.length

/-- The policies of two snapshots, one after the other. -/
def append (first second : Snapshot) : Snapshot where
  targets := first.targets ++ second.targets
  callers := first.callers ++ second.callers
  identities := first.identities ++ second.identities
  connections := first.connections ++ second.connections
  headers := first.headers ++ second.headers
  providers := first.providers ++ second.providers

instance : Append Snapshot := ⟨append⟩

end Snapshot

/-- The registries of all kinds and the token providers. -/
structure Store where
  targets : Registry TargetRule
  callers : Registry CallerRule
  identities : Registry IdentityRule
  connections : Registry ConnectionRule
  headers : Registry HeaderRule
  providers : NameMap Token.Provider
  deriving DecidableEq, Repr, Inhabited

namespace Store

def empty : Store := ⟨.empty, .empty, .empty, .empty, .empty, .empty⟩

def addProvider (store : Store) (provider : Token.Provider) : Store :=
  { store with providers := store.providers.insert provider.name provider }

/-- This function drops a provider and gives it. -/
def removeProvider (store : Store) (name : String) : Option Token.Provider × Store :=
  (store.providers.find? name, { store with providers := store.providers.erase name })

/-- The providers of a list in the place of all providers. The last provider of a name counts. -/
def replaceProviders (providers : NameMap Token.Provider) (list : List Token.Provider) :
    NameMap Token.Provider :=
  let added := list.foldl (fun map provider => map.insert provider.name provider) providers
  added.filter fun entry => list.any fun provider => provider.name = entry.1

/-- The store with the contents of a snapshot. -/
def apply (store : Store) (snapshot : Snapshot) : Store where
  targets := store.targets.replaceAll snapshot.targets
  callers := store.callers.replaceAll snapshot.callers
  identities := store.identities.replaceAll snapshot.identities
  connections := store.connections.replaceAll snapshot.connections
  headers := store.headers.replaceAll snapshot.headers
  providers := replaceProviders store.providers snapshot.providers

def isEmpty (store : Store) : Bool :=
  store.targets.isEmpty && store.callers.isEmpty && store.identities.isEmpty &&
    store.connections.isEmpty && store.headers.isEmpty && store.providers.isEmpty

end Store

end MeshAccess.Policy
