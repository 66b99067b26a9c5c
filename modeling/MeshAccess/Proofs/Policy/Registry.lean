import MeshAccess.Policy.Registry
import MeshAccess.Proofs.LastNamed
import MeshAccess.Proofs.NameSet

/-! This file says what each operation on a registry does to the entries of its two maps. -/

namespace MeshAccess.Policy

namespace Registry

variable {α : Type}

/-- The policy under a name in the map of an action. -/
def lookup? (registry : Registry α) (action : Action) (name : String) : Option (NamedRule α) :=
  (registry.policies action).find? name

/-- Two registries with the same entries are equal. -/
theorem ext_lookup? {first second : Registry α}
    (agree : ∀ action name, first.lookup? action name = second.lookup? action name) :
    first = second := by
  have allowed : first.allowed = second.allowed := NameMap.ext_find? (agree .allow)
  have denied : first.denied = second.denied := NameMap.ext_find? (agree .deny)
  cases first
  cases second
  rw [Registry.mk.injEq]
  exact ⟨allowed, denied⟩

@[simp] theorem lookup?_empty (action : Action) (name : String) :
    (empty : Registry α).lookup? action name = none := by
  cases action <;> rfl

theorem lookup?_put (registry : Registry α) (policy : NamedRule α) (action : Action)
    (name : String) :
    (registry.write (.put policy)).lookup? action name =
      if action = policy.action ∧ name = policy.name then some policy
      else registry.lookup? action name := by
  rw [write]
  cases given : policy.action <;> cases action <;>
    simp [lookup?, policies, NameMap.find?_insert]

theorem lookup?_drop (registry : Registry α) (dropped action : Action) (other name : String) :
    (registry.write (.drop dropped other)).lookup? action name =
      if action = dropped ∧ name = other then none else registry.lookup? action name := by
  cases dropped <;> cases action <;>
    simp [write, lookup?, policies, NameMap.find?_erase]

theorem writeAll_append (registry : Registry α) (first second : List (Write α)) :
    registry.writeAll (first ++ second) = (registry.writeAll first).writeAll second :=
  List.foldl_append

/-- An addition puts a policy into the map of its action and takes its name out of the other map. -/
theorem lookup?_add (registry : Registry α) (policy : NamedRule α) (action : Action)
    (name : String) :
    (registry.add policy).lookup? action name =
      if name = policy.name then (some policy).filter fun policy => policy.action = action
      else registry.lookup? action name := by
  change ((registry.write (.put policy)).write
    (.drop policy.action.opposite policy.name)).lookup? action name = _
  rw [lookup?_drop, lookup?_put]
  by_cases named : name = policy.name
  · rw [Option.filter_some]
    cases given : policy.action <;> cases action <;> simp [named, Action.opposite]
  · simp [named]

/-- The last policy of a name in a list. -/
def last? (policies : List (NamedRule α)) (name : String) : Option (NamedRule α) :=
  lastNamed? NamedRule.name policies name

theorem lookup?_addAll (registry : Registry α) (policies : List (NamedRule α)) (action : Action)
    (name : String) :
    (registry.addAll policies).lookup? action name =
      match last? policies name with
      | some policy => (some policy).filter fun policy => policy.action = action
      | none => registry.lookup? action name := by
  induction policies generalizing registry with
  | nil => rfl
  | cons policy rest inductionHypothesis =>
      change ((registry.add policy).addAll rest).lookup? action name = _
      rw [inductionHypothesis, last?, last?, lastNamed?]
      cases lastNamed? NamedRule.name rest name with
      | some later => rfl
      | none =>
          rw [lookup?_add]
          by_cases named : policy.name = name
          · simp [named]
          · simp [named, Ne.symm named]

/-- The writes of several additions have the effect of the additions. -/
theorem writeAll_flatMap_addWrites (registry : Registry α) (policies : List (NamedRule α)) :
    registry.writeAll (policies.flatMap addWrites) = registry.addAll policies := by
  induction policies generalizing registry with
  | nil => rfl
  | cons policy rest inductionHypothesis =>
      rw [List.flatMap_cons, writeAll_append, inductionHypothesis]
      rfl

theorem lookup?_writeAll_drop (registry : Registry α) (dropped action : Action)
    (names : List String) (name : String) :
    (registry.writeAll (names.map (.drop dropped))).lookup? action name =
      if action = dropped ∧ name ∈ names then none else registry.lookup? action name := by
  induction names generalizing registry with
  | nil => simp [writeAll]
  | cons other rest inductionHypothesis =>
      change ((registry.write (.drop dropped other)).writeAll
        (rest.map (.drop dropped))).lookup? action name = _
      rw [inductionHypothesis, lookup?_drop]
      by_cases same : action = dropped <;> by_cases named : name = other <;> simp [same, named]

end Registry

namespace Kept

variable {α : Type}

theorem contains_add (kept : Kept) (policy : NamedRule α) (action : Action) (name : String) :
    ((kept.add policy).names action).contains name =
      if name = policy.name then decide (policy.action = action)
      else (kept.names action).contains name := by
  rw [add]
  cases given : policy.action <;> cases action <;> by_cases named : name = policy.name <;>
    simp [names, NameSet.contains_insert, NameSet.contains_erase, named]

theorem contains_foldl_add (kept : Kept) (policies : List (NamedRule α)) (action : Action)
    (name : String) :
    ((policies.foldl add kept).names action).contains name =
      match Registry.last? policies name with
      | some policy => decide (policy.action = action)
      | none => (kept.names action).contains name := by
  induction policies generalizing kept with
  | nil => rfl
  | cons policy rest inductionHypothesis =>
      rw [List.foldl_cons, inductionHypothesis, Registry.last?, Registry.last?, lastNamed?]
      cases lastNamed? NamedRule.name rest name with
      | some later => rfl
      | none =>
          rw [contains_add]
          by_cases named : policy.name = name
          · simp [named]
          · simp [named, Ne.symm named]

/-- A name stays under the action of its last policy, however often it changed before. -/
theorem contains_ofPolicies (policies : List (NamedRule α)) (action : Action) (name : String) :
    ((ofPolicies policies).names action).contains name =
      (Registry.last? policies name).any fun policy => policy.action = action := by
  rw [ofPolicies, contains_foldl_add]
  cases Registry.last? policies name with
  | some policy => rfl
  | none => cases action <;> rfl

end Kept

namespace Registry

variable {α : Type}

theorem lookup?_prune (registry added : Registry α) (kept : Kept) (pruned action : Action)
    (name : String) :
    (registry.writeAll (added.pruneWrites kept pruned)).lookup? action name =
      if action = pruned ∧ (added.lookup? pruned name).isSome ∧ !(kept.names pruned).contains name
      then none else registry.lookup? action name := by
  rw [pruneWrites, lookup?_writeAll_drop]
  simp only [List.mem_filter, NameMap.mem_names]
  rfl

/-- A replacement leaves the last policy of each name in the map of its action, and nothing else. -/
theorem lookup?_replaceAll (registry : Registry α) (policies : List (NamedRule α)) (action : Action)
    (name : String) :
    (registry.replaceAll policies).lookup? action name =
      (last? policies name).filter fun policy => policy.action = action := by
  rw [replaceAll, replaceWrites, writeAll_append, writeAll_append, writeAll_flatMap_addWrites,
    lookup?_prune, lookup?_prune, Kept.contains_ofPolicies, Kept.contains_ofPolicies,
    lookup?_addAll, lookup?_addAll, lookup?_addAll]
  cases last? policies name with
  | some policy => cases given : policy.action <;> cases action <;> simp [given]
  | none => cases action <;> simp +contextual [Option.isSome_iff_ne_none]

/-- After a replacement the last policy of a name is found. -/
theorem get?_replaceAll (registry : Registry α) (policies : List (NamedRule α)) (name : String) :
    (registry.replaceAll policies).get? name = last? policies name := by
  change ((registry.replaceAll policies).lookup? .allow name <|>
    (registry.replaceAll policies).lookup? .deny name) = _
  rw [lookup?_replaceAll, lookup?_replaceAll]
  cases last? policies name with
  | none => rfl
  | some policy => cases given : policy.action <;> simp [given]

/-- A replacement does not depend on what the registry held before. -/
theorem replaceAll_eq (registry other : Registry α) (policies : List (NamedRule α)) :
    registry.replaceAll policies = other.replaceAll policies :=
  ext_lookup? fun action name => by rw [lookup?_replaceAll, lookup?_replaceAll]

end Registry

end MeshAccess.Policy
