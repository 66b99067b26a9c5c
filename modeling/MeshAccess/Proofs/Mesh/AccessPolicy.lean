import MeshAccess.Mesh.AccessPolicy

/-! This file says which policies of each kind an access rule makes. -/

namespace MeshAccess.Policy

@[simp] theorem Snapshot.append_empty (snapshot : Snapshot) : append snapshot .empty = snapshot := by
  simp [append, empty]

/-- The policies of one kind in several snapshots stand one after the other. -/
theorem Snapshot.foldl_append_field {β : Type} (field : Snapshot → List β) (none : field .empty = [])
    (joins : ∀ first second, field (append first second) = field first ++ field second)
    (snapshots : List Snapshot) :
    field (snapshots.foldl append .empty) = snapshots.flatMap field := by
  suffices run : ∀ start, field (snapshots.foldl append start) =
      field start ++ snapshots.flatMap field by
    rw [run, none, List.nil_append]
  induction snapshots with
  | nil => simp
  | cons snapshot rest inductionHypothesis =>
      intro start
      rw [List.foldl_cons, inductionHypothesis, joins, List.flatMap_cons, List.append_assoc]

/-- The rule asks something of the caller, and not only of the destination. -/
def ConnectionRule.asksCaller (rule : ConnectionRule) : Bool :=
  !(rule.sources.isEmpty && rule.remotes.isEmpty)

end MeshAccess.Policy

namespace MeshAccess.Mesh

/-- A principal asks nothing of the destination. -/
theorem Principal.destinations_of_rules? {principal : Principal} {rules : Rules}
    (made : principal.rules? = some rules) : rules.connection.destinations = .empty := by
  rw [rules?] at made
  split at made
  · cases made
  · cases made
    exact List.foldlRecOn (motive := fun rules : Rules => rules.connection.destinations = .empty)
      _ _ rfl fun rules same tests _ => same

namespace AccessRule

open Policy

/-- An empty rule makes no policy. -/
@[simp] theorem policy_empty {α : Type} (name : String) (action : Action) (rule : α) :
    policy name action rule true = [] := rfl

section Policies

variable {α : Type} {name : String} {action : Action} {rule : α} {isEmpty : Bool}

theorem policy_eq_nil_iff :
    policy name action rule isEmpty = [] ↔ isEmpty = true := by
  rw [policy]
  cases isEmpty <;> simp

theorem mem_policy {other : NamedRule α} :
    other ∈ policy name action rule isEmpty ↔ isEmpty = false ∧ other = ⟨name, action, rule⟩ := by
  rw [policy]
  cases isEmpty <;> simp

end Policies

/-- The policies of one kind are those of the rules that are not empty. -/
theorem flatMap_policy {α : Type} (name : String) (action : Action) (all : List Principal.Rules)
    (ruleOf : Principal.Rules → α) (isEmpty : Principal.Rules → Bool) :
    (all.flatMap fun rules => policy name action (ruleOf rules) (isEmpty rules)) =
      (all.filter fun rules => !isEmpty rules).map fun rules => ⟨name, action, ruleOf rules⟩ := by
  induction all with
  | nil => rfl
  | cons rules rest inductionHypothesis =>
      rw [List.flatMap_cons, inductionHypothesis, policy]
      cases none : isEmpty rules with
      | true => simp [none]
      | false => simp [none]

variable (name : String) (action : Action) (rule : AccessRule)

/-- The rules that the permissions make. -/
def permitted : Permission.Rules := .ofPermissions rule.permissions

/-- The rules that each of the principals makes. -/
def principalRules : List Principal.Rules := rule.principals.filterMap Principal.rules?

theorem snapshot_targets :
    (rule.snapshot name action).targets =
      policy name action rule.permitted.target rule.permitted.target.isEmpty := by
  change (_ ++ _) ++ [] = _
  rw [Snapshot.foldl_append_field Snapshot.targets rfl fun _ _ => rfl, List.flatMap_map]
  simp [principalSnapshot, permitted]

theorem snapshot_callers :
    (rule.snapshot name action).callers =
      rule.principalRules.flatMap fun rules =>
        policy name action rules.caller rules.caller.isEmpty := by
  change ([] ++ _) ++ [] = _
  rw [Snapshot.foldl_append_field Snapshot.callers rfl fun _ _ => rfl, List.flatMap_map]
  simp [principalSnapshot, principalRules]

theorem snapshot_identities :
    (rule.snapshot name action).identities =
      rule.principalRules.flatMap fun rules =>
        policy name action rules.identity rules.identity.isEmpty := by
  change ([] ++ _) ++ [] = _
  rw [Snapshot.foldl_append_field Snapshot.identities rfl fun _ _ => rfl, List.flatMap_map]
  simp [principalSnapshot, principalRules]

theorem snapshot_connections :
    (rule.snapshot name action).connections =
      (rule.principalRules.flatMap fun rules =>
        policy name action { rules.connection with destinations := rule.permitted.destinations }
          rules.connection.isEmpty) ++
      policy name action ⟨.empty, rule.permitted.destinations, .empty⟩
        (!(rule.principalRules.all fun rules => rules.connection.isEmpty) ||
          rule.permitted.destinations.isEmpty) := by
  change ([] ++ _) ++ policy _ _ _ _ = _
  rw [Snapshot.foldl_append_field Snapshot.connections rfl fun _ _ => rfl, List.flatMap_map]
  rfl

theorem snapshot_headers :
    (rule.snapshot name action).headers =
      rule.principalRules.flatMap fun rules =>
        policy name action ⟨rules.headers⟩ rules.headers.isEmpty := by
  change ([] ++ _) ++ [] = _
  rw [Snapshot.foldl_append_field Snapshot.headers rfl fun _ _ => rfl, List.flatMap_map]
  simp [principalSnapshot, principalRules]

theorem snapshot_providers : (rule.snapshot name action).providers = [] := by
  change ([] ++ _) ++ [] = _
  rw [Snapshot.foldl_append_field Snapshot.providers rfl fun _ _ => rfl, List.flatMap_map]
  simp [principalSnapshot]

variable {name action}

/-- The policies depend on a rule only by the rules that its permissions and principals make. -/
theorem snapshot_congr {first second : AccessRule} (permitted : first.permitted = second.permitted)
    (principals : first.principalRules = second.principalRules) :
    first.snapshot name action = second.snapshot name action := by
  unfold AccessRule.permitted at permitted
  unfold AccessRule.principalRules at principals
  simp only [snapshot, permitted, principals]

/-- What a principal asks of the connection it asks of the caller. -/
theorem asksCaller_of_mem {rule : AccessRule} {rules : Principal.Rules}
    (member : rules ∈ rule.principalRules) (asks : rules.connection.isEmpty = false) :
    rules.connection.asksCaller = true := by
  obtain ⟨principal, _, isRules⟩ := List.mem_filterMap.mp member
  have noRanges : rules.connection.destinations.isEmpty = true := by
    rw [Principal.destinations_of_rules? isRules]
    rfl
  rw [ConnectionRule.isEmpty, noRanges, Bool.and_true] at asks
  rw [ConnectionRule.asksCaller, asks]
  rfl

/-- The policies about the connection that ask something of the caller. The others only have ranges
of the destination. -/
theorem filter_connections (rule : AccessRule) :
    ((rule.snapshot name action).connections.filter fun policy => policy.rule.asksCaller) =
      rule.principalRules.flatMap fun rules => policy name action
        { rules.connection with destinations := rule.permitted.destinations }
        rules.connection.isEmpty := by
  have dropped : (policy name action (⟨.empty, rule.permitted.destinations, .empty⟩ : ConnectionRule)
      (!(rule.principalRules.all fun rules => rules.connection.isEmpty) ||
        rule.permitted.destinations.isEmpty)).filter (fun policy => policy.rule.asksCaller) = [] := by
    rw [List.filter_eq_nil_iff]
    intro other member
    obtain ⟨_, rfl⟩ := mem_policy.mp member
    exact Bool.false_ne_true
  rw [snapshot_connections, List.filter_append, dropped, List.append_nil, List.filter_eq_self]
  intro other member
  obtain ⟨rules, among, made⟩ := List.mem_flatMap.mp member
  obtain ⟨asks, rfl⟩ := mem_policy.mp made
  exact asksCaller_of_mem among asks

end AccessRule

end MeshAccess.Mesh
