import MeshAccess.Proofs.Policy.LastWriter
import MeshAccess.Proofs.Policy.Rebuild

/-! This file says that a registry is at no moment empty or torn while its policies are replaced. -/

namespace MeshAccess.Policy.Registry

variable {α : Type} {registry : Registry α} {policies : List (NamedRule α)} {name : String}

/-- The name is in one of the two maps. -/
def Lists (registry : Registry α) (name : String) : Prop :=
  ∃ action, (registry.lookup? action name).isSome

/-- Every policy stands under its own name in the map of its own action. -/
def IsFiled (registry : Registry α) : Prop :=
  ∀ action name policy, registry.lookup? action name = some policy →
    policy.name = name ∧ policy.action = action

theorem isEmpty_eq_false_iff : registry.isEmpty = false ↔ ∃ name, registry.Lists name := by
  rw [← Bool.not_eq_true, isEmpty, Bool.and_eq_true, NameMap.isEmpty_iff, NameMap.isEmpty_iff,
    ← forall_and, not_forall]
  refine exists_congr fun name => ?_
  change ¬(registry.lookup? .allow name = none ∧ registry.lookup? .deny name = none) ↔ _
  constructor
  · intro listed
    by_cases allowed : registry.lookup? .allow name = none
    · exact ⟨.deny, Option.isSome_iff_ne_none.mpr fun denied => listed ⟨allowed, denied⟩⟩
    · exact ⟨.allow, Option.isSome_iff_ne_none.mpr allowed⟩
  · rintro ⟨action, there⟩ ⟨allowed, denied⟩
    cases action with
    | allow => simp [allowed] at there
    | deny => simp [denied] at there

/-- Every history of changes leaves a registry whose policies stand in their places. -/
theorem isFiled_applyAll (operations : List (Operation α)) :
    (Operation.applyAll operations).IsFiled := by
  intro action name policy found
  have represents := represents_applyAll operations
  obtain ⟨mapped, acts⟩ := represents.find?_eq_some_iff.mp found
  exact ⟨represents.named name policy mapped, acts⟩

theorem Lists.put (listed : registry.Lists name) (policy : NamedRule α) :
    (registry.write (.put policy)).Lists name := by
  obtain ⟨action, there⟩ := listed
  refine ⟨action, ?_⟩
  rw [lookup?_put]
  split
  · rfl
  · exact there

/-- A name is still listed when an added policy has left the other map, also if it is its own name. -/
theorem Lists.add (listed : registry.Lists name) (policy : NamedRule α) :
    (registry.add policy).Lists name := by
  by_cases own : name = policy.name
  · refine ⟨policy.action, ?_⟩
    rw [lookup?_add, if_pos own]
    simp
  · obtain ⟨action, there⟩ := listed
    refine ⟨action, ?_⟩
    rw [lookup?_add, if_neg own]
    exact there

/-- No name is lost at any moment while policies are added. -/
theorem Lists.writeAll (listed : registry.Lists name) {moment : List (Write α)}
    (reached : moment <+: policies.flatMap addWrites) : (registry.writeAll moment).Lists name := by
  induction policies generalizing registry moment with
  | nil =>
      rw [List.flatMap_nil, List.prefix_nil] at reached
      rw [reached]
      exact listed
  | cons policy rest inductionHypothesis =>
      rw [List.flatMap_cons, addWrites, List.cons_append, List.prefix_cons_iff] at reached
      rcases reached with rfl | ⟨second, rfl, reached⟩
      · exact listed
      rw [List.cons_append, List.nil_append, List.prefix_cons_iff] at reached
      rcases reached with rfl | ⟨later, rfl, reached⟩
      · exact listed.put policy
      · exact inductionHypothesis (listed.add policy) reached

namespace Rebuild

variable (rebuild : Rebuild registry policies)

/-- After the additions the names of the new policies are listed to the end. -/
theorem lists_of_added {moment : List (Write α)} (added : rebuild.additions <+: moment)
    (reached : moment <+: rebuild.writes) (given : ∃ policy ∈ policies, policy.name = name) :
    (registry.writeAll moment).Lists name := by
  obtain ⟨policy, last⟩ := Option.isSome_iff_exists.mp (isSome_lastNamed?.mpr given)
  refine ⟨policy.action, ?_⟩
  rw [rebuild.lookup?_of_added added reached last]
  rfl

/-- What is in a registry while the policies of a list take the place of those in it. -/
structure IsIntact (registry : Registry α) (policies : List (NamedRule α)) (state : Registry α) :
    Prop where
  /-- Some policy is registered. -/
  filled : state.isEmpty = false
  /-- An old name that the list has too is in one of the maps. -/
  staying : ∀ name, registry.Lists name → (∃ policy ∈ policies, policy.name = name) →
    state.Lists name
  /-- Every policy is an old one in its old place, or one of the list under its own name in the map
  of its own action. -/
  origin : ∀ action name policy, state.lookup? action name = some policy →
    registry.lookup? action name = some policy ∨
      policy ∈ policies ∧ policy.action = action ∧ policy.name = name
  /-- The policies stand in their places, as they did before. -/
  filed : registry.IsFiled → state.IsFiled

/-- At every moment of a replacement the registry is intact, if it is not empty before and the list is
not empty. -/
theorem isIntact_throughout (filled : registry.isEmpty = false) (given : policies ≠ [])
    {moment : List (Write α)} (reached : moment <+: rebuild.writes) :
    IsIntact registry policies (registry.writeAll moment) := by
  have origin (action : Action) (name : String) (policy : NamedRule α)
      (found : (registry.writeAll moment).lookup? action name = some policy) :=
    rebuild.eq_or_mem_of_lookup? reached found
  have filed (placed : registry.IsFiled) : (registry.writeAll moment).IsFiled := by
    intro action name policy found
    rcases origin action name policy found with old | ⟨_, acts, named⟩
    · exact placed action name policy old
    · exact ⟨named, acts⟩
  -- The policies are still coming in, or all of them are in.
  rcases List.prefix_or_prefix_of_prefix reached rebuild.additions_first with early | late
  · obtain ⟨name, listed⟩ := isEmpty_eq_false_iff.mp filled
    exact ⟨isEmpty_eq_false_iff.mpr ⟨name, listed.writeAll early⟩,
      fun name old _ => old.writeAll early, origin, filed⟩
  · obtain ⟨policy, member⟩ := List.exists_mem_of_ne_nil policies given
    have listed := rebuild.lists_of_added late reached ⟨policy, member, rfl⟩
    exact ⟨isEmpty_eq_false_iff.mpr ⟨policy.name, listed⟩,
      fun name _ new => rebuild.lists_of_added late reached new, origin, filed⟩

/-- Two policies with their ports as rules. -/
def twoPorts : Registry Nat :=
  Operation.applyAll [.add ⟨"cart", .allow, 80⟩, .add ⟨"office", .deny, 443⟩]

/-- Both names change their action. -/
def exchanged : List (NamedRule Nat) := [⟨"cart", .deny, 80⟩, ⟨"office", .allow, 443⟩]

/-- The second name is still in the map of its old action. -/
def exchanging : List (Write Nat) :=
  [.put ⟨"cart", .deny, 80⟩, .drop .allow "cart", .put ⟨"office", .allow, 443⟩]

theorem isIntact_exchanging : twoPorts.isEmpty = false ∧ exchanged ≠ [] ∧
    exchanging <+: (inOrder twoPorts exchanged).writes ∧
      IsIntact twoPorts exchanged (twoPorts.writeAll exchanging) ∧
        (twoPorts.writeAll exchanging).IsFiled := by
  have filled : twoPorts.isEmpty = false := by decide
  have given : exchanged ≠ [] := by decide
  have reached : exchanging <+: (inOrder twoPorts exchanged).writes := ⟨_, rfl⟩
  have intact := (inOrder twoPorts exchanged).isIntact_throughout filled given reached
  exact ⟨filled, given, reached, intact, intact.filed (isFiled_applyAll _)⟩

end Rebuild

end MeshAccess.Policy.Registry
