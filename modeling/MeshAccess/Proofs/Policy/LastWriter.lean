import MeshAccess.Proofs.Policy.Registry

/-! This file compares a registry with one map from names to policies. -/

namespace MeshAccess.Policy

/-- A change of a registry. -/
inductive Operation (α : Type) where
  | add (policy : NamedRule α)
  | remove (name : String)
  | clear
  | replaceAll (policies : List (NamedRule α))

namespace Operation

variable {α : Type}

def apply (registry : Registry α) : Operation α → Registry α
  | .add policy => registry.add policy
  | .remove name => (registry.remove name).2
  | .clear => registry.clear
  | .replaceAll policies => registry.replaceAll policies

/-- The registry after a history of changes. -/
def applyAll (operations : List (Operation α)) : Registry α := operations.foldl apply .empty

/-- This function writes a policy under its name. -/
def put (map : String → Option (NamedRule α)) (policy : NamedRule α) :
    String → Option (NamedRule α) :=
  fun name => if name = policy.name then some policy else map name

/-- The same change of one map. -/
def write (map : String → Option (NamedRule α)) : Operation α → String → Option (NamedRule α)
  | .add policy => put map policy
  | .remove other => fun name => if name = other then none else map name
  | .clear => fun _ => none
  | .replaceAll policies => policies.foldl put fun _ => none

/-- The map after a history of changes. -/
def writeAll (operations : List (Operation α)) : String → Option (NamedRule α) :=
  operations.foldl write fun _ => none

theorem foldl_put (map : String → Option (NamedRule α)) (policies : List (NamedRule α))
    (name : String) :
    policies.foldl put map name =
      match Registry.last? policies name with
      | some policy => some policy
      | none => map name := by
  induction policies generalizing map with
  | nil => rfl
  | cons policy rest inductionHypothesis =>
      rw [List.foldl_cons, inductionHypothesis, Registry.last?, Registry.last?, lastNamed?]
      cases lastNamed? NamedRule.name rest name with
      | some later => rfl
      | none =>
          by_cases named : policy.name = name
          · simp [put, named]
          · simp [put, named, Ne.symm named]

end Operation

namespace Registry

variable {α : Type}

/-- The map of each action holds exactly the policies with this action. -/
structure Represents (registry : Registry α) (map : String → Option (NamedRule α)) : Prop where
  entry : ∀ action name,
    registry.lookup? action name = (map name).filter fun policy => policy.action = action
  named : ∀ name policy, map name = some policy → policy.name = name

theorem represents_empty : (empty : Registry α).Represents fun _ => none :=
  ⟨fun action name => lookup?_empty action name, fun _ _ found => by cases found⟩

theorem lookup?_remove (registry : Registry α) (other : String) (action : Action) (name : String) :
    (registry.remove other).2.lookup? action name =
      if name = other then none else registry.lookup? action name := by
  change ((registry.write (.drop .allow other)).write (.drop .deny other)).lookup? action name = _
  rw [lookup?_drop, lookup?_drop]
  by_cases named : name = other <;> cases action <;> simp [named]

theorem represents_add {registry : Registry α} {map : String → Option (NamedRule α)}
    (represents : registry.Represents map) (policy : NamedRule α) :
    (registry.add policy).Represents (Operation.put map policy) where
  entry action name := by
    rw [lookup?_add, Operation.put, represents.entry]
    by_cases named : name = policy.name <;> simp [named]
  named name found equal := by
    rw [Operation.put] at equal
    by_cases named : name = policy.name
    · cases (if_pos named).symm.trans equal
      exact named.symm
    · exact represents.named name found ((if_neg named).symm.trans equal)

theorem represents_remove {registry : Registry α} {map : String → Option (NamedRule α)}
    (represents : registry.Represents map) (other : String) :
    (registry.remove other).2.Represents (Operation.write map (.remove other)) where
  entry action name := by
    rw [lookup?_remove, Operation.write, represents.entry]
    by_cases named : name = other <;> simp [named]
  named name found equal := by
    rw [Operation.write] at equal
    by_cases named : name = other
    · cases (if_pos named).symm.trans equal
    · exact represents.named name found ((if_neg named).symm.trans equal)

theorem represents_replaceAll (registry : Registry α) (policies : List (NamedRule α)) :
    (registry.replaceAll policies).Represents (policies.foldl Operation.put fun _ => none) where
  entry action name := by
    rw [lookup?_replaceAll, Operation.foldl_put]
    cases last? policies name <;> rfl
  named name found equal := by
    rw [Operation.foldl_put] at equal
    cases last : last? policies name with
    | none =>
        rw [last] at equal
        cases equal
    | some policy =>
        rw [last] at equal
        cases equal
        exact nameOf_lastNamed? last

/-- Every change keeps the registry and the map in step. -/
theorem represents_apply {registry : Registry α} {map : String → Option (NamedRule α)}
    (represents : registry.Represents map) (operation : Operation α) :
    (operation.apply registry).Represents (operation.write map) := by
  cases operation with
  | add policy => exact represents_add represents policy
  | remove name => exact represents_remove represents name
  | clear => exact represents_empty
  | replaceAll policies => exact represents_replaceAll registry policies

theorem represents_applyAll (operations : List (Operation α)) :
    (Operation.applyAll operations).Represents (Operation.writeAll operations) := by
  suffices run : ∀ (registry : Registry α) (map : String → Option (NamedRule α)),
      registry.Represents map →
        (operations.foldl Operation.apply registry).Represents
          (operations.foldl Operation.write map) from
    run _ _ represents_empty
  induction operations with
  | nil => exact fun _ _ represents => represents
  | cons operation rest inductionHypothesis =>
      exact fun _ _ represents => inductionHypothesis _ _ (represents_apply represents operation)

/-- The verdict depends only on which policies are looked at, not on their order. -/
theorem permitsInOrder_eq_false_iff (denied allowed : List (NamedRule α)) (passes : α → Bool) :
    permitsInOrder denied allowed passes = false ↔
      ((∃ policy, policy ∈ denied) ∧ ∀ policy ∈ denied, passes policy.rule) ∨
        ∃ policy ∈ allowed, passes policy.rule = false := by
  have refuses : (allPass? allowed passes).getD true = false ↔
      ∃ policy ∈ allowed, passes policy.rule = false := by
    cases allowed with
    | nil => simp [allPass?]
    | cons policy rest => cases passed : passes policy.rule <;> simp [allPass?, passed]
  have denies : allPass? denied passes = some true ↔
      (∃ policy, policy ∈ denied) ∧ ∀ policy ∈ denied, passes policy.rule := by
    cases denied with
    | nil => simp [allPass?]
    | cons policy rest =>
        have there : ∃ other, other ∈ policy :: rest := ⟨policy, List.mem_cons_self⟩
        simp only [there, true_and]
        simp [allPass?]
  rw [permitsInOrder, ← denies, ← refuses]
  by_cases all : allPass? denied passes = some true <;> simp [all]

theorem permitsInOrder_perm {denied allowed otherDenied otherAllowed : List (NamedRule α)}
    (sameDenied : denied.Perm otherDenied) (sameAllowed : allowed.Perm otherAllowed)
    (passes : α → Bool) :
    permitsInOrder denied allowed passes = permitsInOrder otherDenied otherAllowed passes := by
  have agree : permitsInOrder denied allowed passes = false ↔
      permitsInOrder otherDenied otherAllowed passes = false := by
    rw [permitsInOrder_eq_false_iff, permitsInOrder_eq_false_iff]
    simp only [sameDenied.mem_iff, sameAllowed.mem_iff]
  rw [← Bool.not_inj_iff, Bool.eq_iff_iff]
  simpa using agree

/-- Each question about a registry has the answer that one map from names to policies gives. -/
structure ActsAs (registry : Registry α) (map : String → Option (NamedRule α)) : Prop where
  /-- No name is in both maps. -/
  disjoint : ∀ name, ¬(registry.allowed.contains name ∧ registry.denied.contains name)
  /-- Every entry stands under its own name in the map of its own action. -/
  placed : ∀ action name policy, (registry.policies action).find? name = some policy →
    policy.name = name ∧ policy.action = action
  get? : ∀ name, registry.get? name = map name
  /-- A removal gives the policy that was there. -/
  remove : ∀ name, (registry.remove name).1 = map name
  ascending : registry.names.Pairwise (· < ·)
  mem_names : ∀ name, name ∈ registry.names ↔ (map name).isSome
  size : registry.size = registry.names.length
  /-- The size of the map of an action is the number of the names with this action. -/
  size_policies : ∀ action, (registry.policies action).size =
    (registry.names.filter fun name => (map name).any fun policy => policy.action = action).length
  isEmpty : registry.isEmpty ↔ ∀ name, map name = none
  /-- A request is refused if it passes all policies that deny, and there are some, or if it fails a
  policy that allows. -/
  permits : ∀ passes, registry.permits passes = false ↔
    ((∃ name policy, map name = some policy ∧ policy.action = .deny) ∧
        ∀ name policy, map name = some policy → policy.action = .deny → passes policy.rule) ∨
      ∃ name policy, map name = some policy ∧ policy.action = .allow ∧ passes policy.rule = false
  /-- The verdict is the same in whatever order the policies are looked at. -/
  anyOrder : ∀ passes denied allowed, denied.Perm registry.denied.values →
    allowed.Perm registry.allowed.values →
      permitsInOrder denied allowed passes = registry.permits passes

namespace Represents

variable {registry : Registry α} {map : String → Option (NamedRule α)}

theorem find?_eq_some_iff (represents : registry.Represents map) {action : Action} {name : String}
    {policy : NamedRule α} :
    (registry.policies action).find? name = some policy ↔
      map name = some policy ∧ policy.action = action := by
  change registry.lookup? action name = some policy ↔ _
  rw [represents.entry, Option.filter_eq_some_iff, decide_eq_true_iff]

theorem mem_values (represents : registry.Represents map) (action : Action)
    (policy : NamedRule α) :
    policy ∈ (registry.policies action).values ↔
      ∃ name, map name = some policy ∧ policy.action = action := by
  rw [NameMap.mem_values]
  simp only [represents.find?_eq_some_iff]

theorem mem_policies_names (represents : registry.Represents map) {action : Action}
    {name : String} :
    name ∈ (registry.policies action).names ↔
      (map name).any fun policy => policy.action = action := by
  rw [NameMap.mem_names, Option.isSome_iff_exists, Option.any_eq_true_iff_get]
  simp only [represents.find?_eq_some_iff]
  cases map name <;> simp

/-- No name is in the maps of two actions. -/
theorem action_unique (represents : registry.Represents map) (first second : Action) {name : String}
    (inFirst : name ∈ (registry.policies first).names)
    (inSecond : name ∈ (registry.policies second).names) : first = second := by
  rw [represents.mem_policies_names] at inFirst inSecond
  cases found : map name with
  | none => simp [found] at inFirst
  | some policy =>
      rw [found, Option.any_some, decide_eq_true_iff] at inFirst inSecond
      exact inFirst.symm.trans inSecond

theorem get?_eq (represents : registry.Represents map) (name : String) :
    registry.get? name = map name := by
  change (registry.lookup? .allow name <|> registry.lookup? .deny name) = map name
  rw [represents.entry, represents.entry]
  cases map name with
  | none => rfl
  | some policy => cases given : policy.action <;> simp [given]

theorem mem_names (represents : registry.Represents map) (name : String) :
    name ∈ registry.names ↔ (map name).isSome := by
  rw [names, List.mem_mergeSort, List.mem_append]
  change name ∈ (registry.policies .allow).names ∨ name ∈ (registry.policies .deny).names ↔ _
  rw [represents.mem_policies_names, represents.mem_policies_names]
  cases map name with
  | none => simp
  | some policy => cases given : policy.action <;> simp [given]

/-- The names of both maps are distinct, so sorting them leaves no repetition. -/
theorem ascending (represents : registry.Represents map) :
    registry.names.Pairwise (· < ·) := by
  have distinct (action : Action) : (registry.policies action).names.Nodup :=
    (NameMap.names_pairwise _).imp String.ne_of_lt
  have both : (registry.allowed.names ++ registry.denied.names).Nodup := by
    refine List.nodup_append.mpr ⟨distinct .allow, distinct .deny, ?_⟩
    intro name allowed other denied equal
    subst equal
    cases represents.action_unique .allow .deny allowed denied
  have sorted : registry.names.Pairwise (· ≤ ·) := by
    have ordered := @List.pairwise_mergeSort String (fun first second => first ≤ second)
      (fun first second third => by simpa using String.le_trans)
      (fun first second => by simpa using String.le_total first second)
      (registry.allowed.names ++ registry.denied.names)
    simpa [names] using ordered
  have nodup : registry.names.Nodup := (List.mergeSort_perm _ _).nodup_iff.mpr both
  exact (sorted.and nodup).imp fun ⟨below, different⟩ =>
    Classical.byContradiction fun above => different (String.le_antisymm below above)

theorem size_policies (represents : registry.Represents map) (action : Action) :
    (registry.policies action).size =
      (registry.names.filter fun name =>
        (map name).any fun policy => policy.action = action).length := by
  rw [← NameMap.length_names]
  apply List.Perm.length_eq
  refine (List.perm_ext_iff_of_nodup ?_ ?_).mpr fun name => ?_
  · exact (NameMap.names_pairwise _).imp String.ne_of_lt
  · exact (represents.ascending.filter _).imp String.ne_of_lt
  · rw [represents.mem_policies_names, List.mem_filter, represents.mem_names]
    cases map name <;> simp

theorem isEmpty_iff (represents : registry.Represents map) :
    registry.isEmpty ↔ ∀ name, map name = none := by
  rw [isEmpty, Bool.and_eq_true, NameMap.isEmpty_iff, NameMap.isEmpty_iff, ← forall_and]
  refine forall_congr' fun name => ?_
  change registry.lookup? .allow name = none ∧ registry.lookup? .deny name = none ↔ _
  rw [represents.entry, represents.entry]
  cases map name with
  | none => simp
  | some policy => cases given : policy.action <;> simp [given]

theorem permits_eq_false_iff (represents : registry.Represents map) (passes : α → Bool) :
    registry.permits passes = false ↔
      ((∃ name policy, map name = some policy ∧ policy.action = .deny) ∧
          ∀ name policy, map name = some policy → policy.action = .deny → passes policy.rule) ∨
        ∃ name policy, map name = some policy ∧ policy.action = .allow ∧
          passes policy.rule = false := by
  have denied := represents.mem_values .deny
  have allowed := represents.mem_values .allow
  rw [permits, permitsInOrder_eq_false_iff]
  change ((∃ policy, policy ∈ (registry.policies .deny).values) ∧
      ∀ policy ∈ (registry.policies .deny).values, passes policy.rule) ∨
    (∃ policy ∈ (registry.policies .allow).values, passes policy.rule = false) ↔ _
  simp only [denied, allowed]
  grind

theorem actsAs (represents : registry.Represents map) : registry.ActsAs map where
  disjoint name both := by
    rw [NameMap.contains, NameMap.contains, ← NameMap.mem_names, ← NameMap.mem_names] at both
    cases represents.action_unique .allow .deny both.1 both.2
  placed action name policy found := by
    obtain ⟨given, action⟩ := represents.find?_eq_some_iff.mp found
    exact ⟨represents.named name policy given, action⟩
  get? := represents.get?_eq
  remove := represents.get?_eq
  ascending := represents.ascending
  mem_names := represents.mem_names
  size := by
    rw [names, List.length_mergeSort, List.length_append, NameMap.length_names,
      NameMap.length_names]
    rfl
  size_policies := represents.size_policies
  isEmpty := represents.isEmpty_iff
  permits := represents.permits_eq_false_iff
  anyOrder _ _ _ sameDenied sameAllowed := permitsInOrder_perm sameDenied sameAllowed _

end Represents

/-- After every history of changes a registry acts as one map in which the last write of a name
counts. -/
theorem actsAs_lastWrites (operations : List (Operation α)) :
    (Operation.applyAll operations).ActsAs (Operation.writeAll operations) :=
  (represents_applyAll operations).actsAs

end Registry

end MeshAccess.Policy
