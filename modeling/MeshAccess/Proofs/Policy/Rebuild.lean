import MeshAccess.Proofs.Policy.Registry

/-! This file describes the states that a registry goes through while its policies are replaced. -/

namespace MeshAccess.Policy

variable {α : Type}

/-- The write changes the entry of a name in the map of an action. -/
def Write.Touches (action : Action) (name : String) : Write α → Prop
  | .put policy => policy.action = action ∧ policy.name = name
  | .drop dropped other => dropped = action ∧ other = name

namespace Registry

theorem lookup?_write_of_not_touches (registry : Registry α) {write : Write α} {action : Action}
    {name : String} (untouched : ¬write.Touches action name) :
    (registry.write write).lookup? action name = registry.lookup? action name := by
  cases write with
  | put policy =>
      rw [lookup?_put, if_neg]
      rintro ⟨rfl, rfl⟩
      exact untouched ⟨rfl, rfl⟩
  | drop dropped other =>
      rw [lookup?_drop, if_neg]
      rintro ⟨rfl, rfl⟩
      exact untouched ⟨rfl, rfl⟩

/-- Writes leave the entries alone that none of them touches. -/
theorem lookup?_writeAll_of_not_touches (registry : Registry α) {writes : List (Write α)}
    {action : Action} {name : String}
    (untouched : ∀ write ∈ writes, ¬write.Touches action name) :
    (registry.writeAll writes).lookup? action name = registry.lookup? action name := by
  induction writes generalizing registry with
  | nil => rfl
  | cons write rest inductionHypothesis =>
      obtain ⟨here, later⟩ := List.forall_mem_cons.mp untouched
      change ((registry.write write).writeAll rest).lookup? action name = _
      rw [inductionHypothesis _ later, lookup?_write_of_not_touches registry here]

/-- An entry was there before the writes, or one of them put it in. -/
theorem eq_or_put_mem_of_lookup?_writeAll (registry : Registry α) {writes : List (Write α)}
    {action : Action} {name : String} {policy : NamedRule α}
    (found : (registry.writeAll writes).lookup? action name = some policy) :
    registry.lookup? action name = some policy ∨
      .put policy ∈ writes ∧ policy.action = action ∧ policy.name = name := by
  induction writes generalizing registry with
  | nil => exact .inl found
  | cons write rest inductionHypothesis =>
      rcases inductionHypothesis (registry.write write) found with here | ⟨member, placed⟩
      · cases write with
        | put other =>
            rw [lookup?_put] at here
            split at here
            next same =>
              cases here
              exact .inr ⟨List.mem_cons_self, same.1.symm, same.2.symm⟩
            next => exact .inl here
        | drop dropped other =>
            rw [lookup?_drop] at here
            split at here
            next => cases here
            next => exact .inl here
      · exact .inr ⟨List.mem_cons_of_mem _ member, placed⟩

/-- A name is in the map of an action for as long as no write drops it. -/
theorem isSome_lookup?_writeAll (registry : Registry α) {writes : List (Write α)} {action : Action}
    {name : String} (there : (registry.lookup? action name).isSome)
    (notDropped : .drop action name ∉ writes) :
    ((registry.writeAll writes).lookup? action name).isSome := by
  induction writes generalizing registry with
  | nil => exact there
  | cons write rest inductionHypothesis =>
      rw [List.mem_cons, not_or] at notDropped
      obtain ⟨different, later⟩ := notDropped
      refine inductionHypothesis (registry.write write) ?_ later
      cases write with
      | put policy =>
          rw [lookup?_put]
          split
          next => rfl
          next => exact there
      | drop dropped other =>
          rw [lookup?_drop, if_neg fun same => different (by rw [same.1, same.2])]
          exact there

/-- A replacement of the policies of a registry by those of a list, with the order in which names
leave each map. -/
structure Rebuild (registry : Registry α) (policies : List (NamedRule α)) where
  leaving : Action → List String
  isPerm : ∀ action, ((leaving action).map (.drop action)).Perm
    ((registry.addAll policies).pruneWrites (.ofPolicies policies) action)

namespace Rebuild

variable {registry : Registry α} {policies : List (NamedRule α)}

/-- The names leave each map in ascending order. -/
def inOrder (registry : Registry α) (policies : List (NamedRule α)) : Rebuild registry policies where
  leaving action := ((registry.addAll policies).policies action).names.filter fun name =>
    !((Kept.ofPolicies policies).names action).contains name
  isPerm _ := .refl _

def additions (_ : Rebuild registry policies) : List (Write α) := policies.flatMap addWrites

def drops (rebuild : Rebuild registry policies) (action : Action) : List (Write α) :=
  (rebuild.leaving action).map (.drop action)

/-- The writes in their order. -/
def writes (rebuild : Rebuild registry policies) : List (Write α) :=
  rebuild.additions ++ rebuild.drops .allow ++ rebuild.drops .deny

theorem writes_inOrder : (inOrder registry policies).writes = registry.replaceWrites policies := rfl

variable (rebuild : Rebuild registry policies)

theorem additions_first : rebuild.additions <+: rebuild.writes := by
  rw [writes, List.append_assoc]
  exact List.prefix_append _ _

/-- Exactly those names leave a map that are in it after the additions and do not stay. -/
theorem mem_leaving {action : Action} {name : String} :
    name ∈ rebuild.leaving action ↔
      ((registry.addAll policies).lookup? action name).isSome ∧
        !((Kept.ofPolicies policies).names action).contains name := by
  have member := (rebuild.isPerm action).mem_iff (a := Write.drop action name)
  rw [pruneWrites, List.mem_map_of_injective fun _ _ equal => (Write.drop.inj equal).2,
    List.mem_map_of_injective fun _ _ equal => (Write.drop.inj equal).2, List.mem_filter,
    NameMap.mem_names] at member
  exact member

/-- The order in which names leave does not matter in the end. -/
theorem writeAll_writes : registry.writeAll rebuild.writes = registry.replaceAll policies := by
  refine ext_lookup? fun action name => ?_
  rw [replaceAll, replaceWrites, writes, additions, drops, drops, pruneWrites, pruneWrites]
  simp only [writeAll_append, lookup?_writeAll_drop, mem_leaving, List.mem_filter,
    NameMap.mem_names]
  rfl

theorem not_touches_of_mem_drops {write : Write α} {dropped action : Action} {name : String}
    (member : write ∈ rebuild.drops dropped)
    (stays : action = dropped → name ∉ rebuild.leaving dropped) : ¬write.Touches action name := by
  obtain ⟨other, leaves, rfl⟩ := List.mem_map.mp member
  rintro ⟨rfl, rfl⟩
  exact stays rfl leaves

/-- Only policies of the list are put in. -/
theorem mem_of_put_mem {policy : NamedRule α} (member : .put policy ∈ rebuild.writes) :
    policy ∈ policies := by
  rw [writes, List.mem_append, List.mem_append] at member
  have notDropped (action : Action) : .put policy ∉ rebuild.drops action := fun member => by
    obtain ⟨_, _, equal⟩ := List.mem_map.mp member
    cases equal
  rcases member with (added | dropped) | dropped
  · obtain ⟨other, listed, member⟩ := List.mem_flatMap.mp added
    rw [addWrites, List.mem_cons, List.mem_singleton] at member
    rcases member with equal | equal <;> cases equal
    exact listed
  · exact absurd dropped (notDropped .allow)
  · exact absurd dropped (notDropped .deny)

/-- At every moment each entry is an old one or a policy of the list. -/
theorem eq_or_mem_of_lookup? {moment : List (Write α)} (reached : moment <+: rebuild.writes)
    {action : Action} {name : String} {policy : NamedRule α}
    (found : (registry.writeAll moment).lookup? action name = some policy) :
    registry.lookup? action name = some policy ∨
      policy ∈ policies ∧ policy.action = action ∧ policy.name = name :=
  (eq_or_put_mem_of_lookup?_writeAll registry found).imp_right fun ⟨member, placed⟩ =>
    ⟨rebuild.mem_of_put_mem (reached.subset member), placed⟩

/-- After the additions the last policy of a name is in the map of its action. -/
theorem lookup?_of_added {moment : List (Write α)} (added : rebuild.additions <+: moment)
    (reached : moment <+: rebuild.writes) {name : String} {policy : NamedRule α}
    (last : last? policies name = some policy) :
    (registry.writeAll moment).lookup? policy.action name = some policy := by
  obtain ⟨dropped, rfl⟩ := added
  rw [writes, List.append_assoc, List.prefix_append_right_inj] at reached
  have stays (action : Action) (same : policy.action = action) : name ∉ rebuild.leaving action := by
    subst same
    rw [mem_leaving, Kept.contains_ofPolicies, last]
    simp
  rw [writeAll_append, lookup?_writeAll_of_not_touches]
  · rw [additions, writeAll_flatMap_addWrites, lookup?_addAll, last]
    simp
  · intro write member
    rcases List.mem_append.mp (reached.subset member) with member | member
    · exact rebuild.not_touches_of_mem_drops member (stays .allow)
    · exact rebuild.not_touches_of_mem_drops member (stays .deny)

end Rebuild

end Registry

end MeshAccess.Policy
