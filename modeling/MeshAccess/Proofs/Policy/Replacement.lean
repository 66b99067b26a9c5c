import MeshAccess.Mesh.Listener
import MeshAccess.Proofs.Policy.Registry

/-! This file says what a store holds after a snapshot is applied. -/

namespace MeshAccess.Policy

namespace Registry

variable {α : Type}

/-- The registry holds the policies of a list and no others. The last policy of a name counts. -/
structure Mirrors (registry : Registry α) (policies : List (NamedRule α)) : Prop where
  /-- Exactly the names of the list are registered. -/
  registered : ∀ name, (registry.get? name).isSome ↔ ∃ policy ∈ policies, policy.name = name
  /-- The last policy of a name stands in the map of its action. -/
  entry : ∀ action name policy, (registry.policies action).find? name = some policy ↔
    policy.action = action ∧ policy.name = name ∧ IsLastNamed NamedRule.name policies policy
  /-- No name is in both maps. -/
  once : ∀ name, ¬(registry.allowed.contains name ∧ registry.denied.contains name)

theorem mirrors_replaceAll (registry : Registry α) (policies : List (NamedRule α)) :
    (registry.replaceAll policies).Mirrors policies where
  registered name := by
    rw [get?_replaceAll, last?, isSome_lastNamed?]
  entry action name policy := by
    change (registry.replaceAll policies).lookup? action name = some policy ↔ _
    rw [lookup?_replaceAll, Option.filter_eq_some_iff, last?, lastNamed?_eq_some_iff,
      decide_eq_true_iff, and_comm]
  once name both := by
    change ((registry.replaceAll policies).lookup? .allow name).isSome ∧
      ((registry.replaceAll policies).lookup? .deny name).isSome at both
    rw [lookup?_replaceAll, lookup?_replaceAll] at both
    cases found : last? policies name with
    | none => simp [found] at both
    | some policy => cases given : policy.action <;> simp [found, given] at both

end Registry

namespace Store

theorem find?_replaceProviders (providers : NameMap Token.Provider) (list : List Token.Provider)
    (name : String) :
    (replaceProviders providers list).find? name = lastNamed? Token.Provider.name list name := by
  rw [replaceProviders, NameMap.find?_filter_name _ fun name => list.any (·.name = name),
    NameMap.find?_foldl_insert]
  cases found : lastNamed? Token.Provider.name list name with
  | none =>
      have absent : (list.any fun provider => provider.name = name) = false := by
        simpa using lastNamed?_eq_none_iff.mp found
      simp [absent]
  | some provider =>
      have occurs : ∃ other ∈ list, other.name = name :=
        isSome_lastNamed?.mp (Option.isSome_iff_exists.mpr ⟨provider, found⟩)
      simpa using occurs

/-- The store holds the policies and providers of a snapshot and no others. -/
structure Mirrors (store : Store) (snapshot : Snapshot) : Prop where
  targets : store.targets.Mirrors snapshot.targets
  callers : store.callers.Mirrors snapshot.callers
  identities : store.identities.Mirrors snapshot.identities
  connections : store.connections.Mirrors snapshot.connections
  headers : store.headers.Mirrors snapshot.headers
  providers : ∀ name provider, store.providers.find? name = some provider ↔
    provider.name = name ∧ IsLastNamed Token.Provider.name snapshot.providers provider

theorem mirrors_apply (store : Store) (snapshot : Snapshot) :
    (store.apply snapshot).Mirrors snapshot where
  targets := Registry.mirrors_replaceAll _ _
  callers := Registry.mirrors_replaceAll _ _
  identities := Registry.mirrors_replaceAll _ _
  connections := Registry.mirrors_replaceAll _ _
  headers := Registry.mirrors_replaceAll _ _
  providers name provider := by
    rw [apply, find?_replaceProviders, lastNamed?_eq_some_iff]

/-- A snapshot leaves the same store whatever the store held before. -/
theorem apply_eq (store other : Store) (snapshot : Snapshot) :
    store.apply snapshot = other.apply snapshot := by
  rw [apply, apply, Store.mk.injEq]
  refine ⟨Registry.replaceAll_eq _ _ _, Registry.replaceAll_eq _ _ _,
    Registry.replaceAll_eq _ _ _, Registry.replaceAll_eq _ _ _, Registry.replaceAll_eq _ _ _, ?_⟩
  exact NameMap.ext_find? fun name => by rw [find?_replaceProviders, find?_replaceProviders]

/-- The last push of listeners determines the store. -/
theorem foldl_enforce (store : Store) (pushes : List (List Mesh.Listener))
    (last : List Mesh.Listener) :
    (pushes ++ [last]).foldl Mesh.Listener.enforce store =
      Mesh.Listener.enforce .empty last := by
  rw [List.foldl_append]
  exact apply_eq _ _ _

/-- A snapshot replaces the contents of a store by its own, and after a history of pushes only the
last push counts. -/
theorem apply_replaces (store : Store) (snapshot : Snapshot) :
    store.apply snapshot = Store.empty.apply snapshot ∧
      (store.apply snapshot).Mirrors snapshot ∧
      ∀ (pushes : List (List Mesh.Listener)) (last : List Mesh.Listener),
        (pushes ++ [last]).foldl Mesh.Listener.enforce store =
          Store.empty.apply (Mesh.Listener.snapshot last) :=
  ⟨apply_eq _ _ _, mirrors_apply store snapshot, foldl_enforce store⟩

end Store

end MeshAccess.Policy
