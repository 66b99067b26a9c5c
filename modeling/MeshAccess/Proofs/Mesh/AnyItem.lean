import MeshAccess.Proofs.Match.Condition
import MeshAccess.Proofs.Mesh.Destinations

/-! This file says what becomes of a conjunction with an item that holds always. -/

namespace MeshAccess

open Match
open Policy

namespace Match.Condition

variable {α : Type}

/-- The groups of two conditions, one after the other. -/
def append (first second : Condition α) : Condition α := ⟨first.groups ++ second.groups⟩

theorem append_empty (condition : Condition α) : condition.append .empty = condition := by
  rw [append, empty, List.append_nil]

theorem push_append (first second : Condition α) (group : Group α) :
    (first.append second).push group = first.append (second.push group) := by
  rw [push, push]
  cases group.isEmpty with
  | true => rfl
  | false => simp [append]

/-- Groups in the middle show, unless there are none. -/
theorem append_middle_eq_iff (first middle last : Condition α) :
    first.append (middle.append last) = first.append last ↔ middle = .empty := by
  obtain ⟨groups⟩ := middle
  rw [append, append, append, Condition.mk.injEq, List.append_cancel_left_eq,
    List.append_left_eq_self, empty, Condition.mk.injEq]

end Match.Condition

namespace Mesh

namespace Permission.Rules

/-- The rules of two lists of permissions together. -/
def append (first second : Rules) : Rules where
  target :=
    { hosts := first.target.hosts.append second.target.hosts
      ports := first.target.ports.append second.target.ports
      methods := first.target.methods.append second.target.methods
      paths := first.target.paths.append second.target.paths }
  destinations := first.destinations.append second.destinations

theorem append_empty (rules : Rules) : rules.append .empty = rules := by
  rw [append, empty, TargetRule.empty]
  simp only [Condition.append_empty]

theorem push_append (first second : Rules) (tests : List Test × Bool) :
    (first.append second).push tests = first.append (second.push tests) := by
  rw [push, push, append, append]
  simp only [Condition.push_append]

theorem foldl_push_append (first second : Rules) (items : List (List Test × Bool)) :
    items.foldl push (first.append second) = first.append (items.foldl push second) := by
  induction items generalizing second with
  | nil => rfl
  | cons item rest inductionHypothesis =>
      rw [List.foldl_cons, List.foldl_cons, push_append, inductionHypothesis]

/-- What a permission adds does not depend on the permissions before it. -/
theorem add_append (first second : Rules) (permission : Permission) :
    (first.append second).add permission = first.append (second.add permission) := by
  rw [add, add]
  split
  · rfl
  · exact foldl_push_append first second _

theorem foldl_add_append (first second : Rules) (permissions : List Permission) :
    permissions.foldl add (first.append second) = first.append (permissions.foldl add second) := by
  induction permissions generalizing second with
  | nil => rfl
  | cons permission rest inductionHypothesis =>
      rw [List.foldl_cons, List.foldl_cons, add_append, inductionHypothesis]

/-- The rules of two lists of permissions are those of each list, one after the other. -/
theorem ofPermissions_append (first second : List Permission) :
    ofPermissions (first ++ second) = (ofPermissions first).append (ofPermissions second) := by
  have start := foldl_add_append (ofPermissions first) .empty second
  rw [append_empty] at start
  rw [ofPermissions, List.foldl_append]
  exact start

/-- A permission in the middle shows in the rules, unless it makes none. -/
theorem append_middle_eq_iff (first middle last : Rules) :
    first.append (middle.append last) = first.append last ↔ middle = .empty := by
  obtain ⟨⟨hosts, ports, methods, paths⟩, destinations⟩ := middle
  rw [append, append, append, Rules.mk.injEq, TargetRule.mk.injEq]
  simp only [Condition.append_middle_eq_iff]
  rw [empty, TargetRule.empty, Rules.mk.injEq, TargetRule.mk.injEq]

end Permission.Rules

namespace Permission

/-- The items of a conjunction make no test together, or one of them holds always. -/
def MakeNothing (items : List Permission) : Prop :=
  items.any isAny = true ∨ ∀ item ∈ items, item.tests.1 = []

theorem ofPermissions_all_eq_empty_iff (items : List Permission) :
    Rules.ofPermissions [.all items] = .empty ↔ MakeNothing items := by
  change Rules.empty.add (.all items) = .empty ↔ _
  rw [Rules.add, MakeNothing]
  change (if items.any isAny then Rules.empty
    else (items.map tests).foldl Rules.push .empty) = .empty ↔ _
  cases holdsAlways : items.any isAny with
  | true => simp
  | false =>
      rw [if_neg Bool.false_ne_true, Rules.eq_empty_iff, List.foldl_map,
        foldl_eq_and_all Rules.isEmpty _ (fun item => item.tests.1.isEmpty) items .empty
          fun rules item _ => Rules.isEmpty_push rules item.tests]
      have start : Rules.empty.isEmpty = true := rfl
      simp [start]

end Permission

namespace Principal

/-- The items of a conjunction make no test together, or one of them holds always. -/
def MakeNothing (items : List Principal) : Prop :=
  items.any isAny = true ∨ ∀ item ∈ items, item.tests.1 = []

/-- The rules of a conjunction are missing or empty exactly when its items make nothing. -/
theorem makeNothing_iff (items : List Principal) :
    MakeNothing items ↔ ∀ rules, rules? (.all items) = some rules → rules.isEmpty = true := by
  rw [MakeNothing, rules?]
  change _ ↔ ∀ rules, (if items.any isAny then none
    else some ((items.map tests).foldl Rules.push .empty)) = some rules → _
  cases holdsAlways : items.any isAny with
  | true => simp
  | false =>
      have start : Rules.empty.isEmpty = true := rfl
      have folded := foldl_eq_and_all Rules.isEmpty _ (fun item : Principal => item.tests.1.isEmpty)
        items .empty fun rules item _ => Rules.isEmpty_push rules item.tests
      rw [if_neg Bool.false_ne_true, List.foldl_map]
      simp only [Option.some.injEq, forall_eq', folded, start]
      simp

end Principal

namespace AccessRule

variable {name : String} {action : Action}

/-- The policies tell the rules that the permissions made. -/
theorem permitted_eq_of_snapshot_eq {first second : AccessRule}
    (same : first.snapshot name action = second.snapshot name action) :
    first.permitted = second.permitted := by
  have target : first.permitted.target = second.permitted.target := by
    have policies := congrArg Snapshot.targets same
    rw [snapshot_targets, snapshot_targets] at policies
    cases none : first.permitted.target.isEmpty with
    | true =>
        rw [none, policy_empty, eq_comm, policy_eq_nil_iff] at policies
        rw [TargetRule.eq_empty_of_isEmpty none, TargetRule.eq_empty_of_isEmpty policies]
    | false =>
        have member : ⟨name, action, first.permitted.target⟩ ∈
            policy name action first.permitted.target first.permitted.target.isEmpty :=
          mem_policy.mpr ⟨none, rfl⟩
        rw [policies, mem_policy, NamedRule.mk.injEq] at member
        exact member.2.2.2
  have destinations : first.permitted.destinations = second.permitted.destinations := by
    cases found : (first.snapshot name action).connections with
    | nil => rw [destinations_of_nil found, destinations_of_nil (same ▸ found)]
    | cons policy rest =>
        have member : policy ∈ (first.snapshot name action).connections :=
          found ▸ List.mem_cons_self
        rw [← destinations_of_mem member, destinations_of_mem (same ▸ member)]
  rw [Permission.Rules.mk.injEq]
  exact ⟨target, destinations⟩

section Principals

variable {permissions : List Permission} {earlier later : List Principal} {entry : Principal}

theorem principalRules_middle :
    principalRules ⟨permissions, earlier ++ entry :: later⟩ =
      earlier.filterMap Principal.rules? ++
        (entry.rules?.toList ++ later.filterMap Principal.rules?) := by
  rw [principalRules, List.filterMap_append]
  cases made : entry.rules? with
  | none => rw [List.filterMap_cons_none made, Option.toList_none, List.nil_append]
  | some rules => rw [List.filterMap_cons_some made, Option.toList_some, List.singleton_append]

theorem principalRules_without :
    principalRules ⟨permissions, earlier ++ later⟩ =
      earlier.filterMap Principal.rules? ++ later.filterMap Principal.rules? :=
  List.filterMap_append

/-- A principal without rules can be left out. -/
theorem snapshot_of_rules?_eq_none (missing : entry.rules? = none) :
    snapshot name action ⟨permissions, earlier ++ entry :: later⟩ =
      snapshot name action ⟨permissions, earlier ++ later⟩ := by
  refine snapshot_congr rfl ?_
  rw [principalRules_middle, principalRules_without, missing, Option.toList_none, List.nil_append]

theorem principalSnapshot_of_isEmpty (destinations : Condition Net.CidrRange)
    {rules : Principal.Rules} (none : rules.isEmpty = true) :
    principalSnapshot name action destinations rules = .empty := by
  simp only [Principal.Rules.isEmpty, Bool.and_eq_true] at none
  obtain ⟨⟨⟨caller, connection⟩, identity⟩, headers⟩ := none
  rw [principalSnapshot, caller, connection, identity, headers]
  rfl

/-- A principal with empty rules can be left out too. -/
theorem snapshot_of_isEmpty {rules : Principal.Rules} (made : entry.rules? = some rules)
    (none : rules.isEmpty = true) :
    snapshot name action ⟨permissions, earlier ++ entry :: later⟩ =
      snapshot name action ⟨permissions, earlier ++ later⟩ := by
  have connection : rules.connection.isEmpty = true := by
    simp only [Principal.Rules.isEmpty, Bool.and_eq_true] at none
    exact none.1.1.2
  rw [snapshot, snapshot, List.filterMap_append, List.filterMap_cons_some made,
    List.filterMap_append]
  simp only [List.map_append, List.map_cons, principalSnapshot_of_isEmpty _ none,
    List.foldl_append, List.foldl_cons, Snapshot.append_empty, List.all_append, List.all_cons,
    connection, Bool.true_and]

/-- What one element adds in the middle shows, unless it is nothing. -/
theorem eq_nil_of_flatMap_middle {α β : Type} {make : α → List β} {before after : List α}
    {element : α}
    (same : (before ++ ([element] ++ after)).flatMap make = (before ++ after).flatMap make) :
    make element = [] := by
  rw [List.flatMap_append, List.flatMap_append, List.flatMap_append, List.append_cancel_left_eq,
    List.append_left_eq_self, List.flatMap_singleton] at same
  exact same

/-- A principal whose rules are not empty shows in the policies. -/
theorem isEmpty_of_snapshot_eq {rules : Principal.Rules} (made : entry.rules? = some rules)
    (same : snapshot name action ⟨permissions, earlier ++ entry :: later⟩ =
      snapshot name action ⟨permissions, earlier ++ later⟩) : rules.isEmpty = true := by
  have middle : principalRules ⟨permissions, earlier ++ entry :: later⟩ =
      earlier.filterMap Principal.rules? ++ ([rules] ++ later.filterMap Principal.rules?) := by
    rw [principalRules_middle, made]
    rfl
  have caller : rules.caller.isEmpty = true := by
    have policies := congrArg Snapshot.callers same
    rw [snapshot_callers, snapshot_callers, middle, principalRules_without] at policies
    have none := eq_nil_of_flatMap_middle policies
    exact policy_eq_nil_iff.mp none
  have connection : rules.connection.isEmpty = true := by
    have policies := congrArg (fun snapshot : Snapshot =>
      snapshot.connections.filter fun policy => policy.rule.asksCaller) same
    simp only [filter_connections] at policies
    rw [middle, principalRules_without] at policies
    have none := eq_nil_of_flatMap_middle policies
    exact policy_eq_nil_iff.mp none
  have identity : rules.identity.isEmpty = true := by
    have policies := congrArg Snapshot.identities same
    rw [snapshot_identities, snapshot_identities, middle, principalRules_without] at policies
    have none := eq_nil_of_flatMap_middle policies
    exact policy_eq_nil_iff.mp none
  have headers : rules.headers.isEmpty = true := by
    have policies := congrArg Snapshot.headers same
    rw [snapshot_headers, snapshot_headers, middle, principalRules_without] at policies
    have none := eq_nil_of_flatMap_middle policies
    exact policy_eq_nil_iff.mp none
  rw [Principal.Rules.isEmpty, caller, connection, identity, headers]
  rfl

/-- A conjunction can be left out of the principals exactly when its items make nothing. -/
theorem snapshot_eq_without_principal_iff (items : List Principal) :
    snapshot name action ⟨permissions, earlier ++ .all items :: later⟩ =
        snapshot name action ⟨permissions, earlier ++ later⟩ ↔
      Principal.MakeNothing items := by
  rw [Principal.makeNothing_iff]
  constructor
  · intro same rules made
    exact isEmpty_of_snapshot_eq made same
  · intro none
    cases made : (Principal.all items).rules? with
    | none => exact snapshot_of_rules?_eq_none made
    | some rules => exact snapshot_of_isEmpty made (none rules made)

end Principals

/-- A conjunction can be left out of the permissions exactly when its items make nothing. -/
theorem snapshot_eq_without_permission_iff {earlier later : List Permission}
    {principals : List Principal} (items : List Permission) :
    snapshot name action ⟨earlier ++ .all items :: later, principals⟩ =
        snapshot name action ⟨earlier ++ later, principals⟩ ↔
      Permission.MakeNothing items := by
  have middle : permitted ⟨earlier ++ .all items :: later, principals⟩ =
      (Permission.Rules.ofPermissions earlier).append
        ((Permission.Rules.ofPermissions [.all items]).append (.ofPermissions later)) := by
    rw [permitted, Permission.Rules.ofPermissions_append,
      ← Permission.Rules.ofPermissions_append [.all items] later]
    rfl
  have without : permitted ⟨earlier ++ later, principals⟩ =
      (Permission.Rules.ofPermissions earlier).append (.ofPermissions later) :=
    Permission.Rules.ofPermissions_append earlier later
  rw [← Permission.ofPermissions_all_eq_empty_iff, ← Permission.Rules.append_middle_eq_iff,
    ← middle, ← without]
  exact ⟨permitted_eq_of_snapshot_eq, fun same => snapshot_congr same rfl⟩

/-- An item that holds always takes the whole conjunction out of the policies, wherever it stands. The
policies stay as they are exactly when the other items of the conjunction make nothing. -/
theorem snapshot_insert_any (name : String) (action : Action) :
    (∀ (earlier later first second : List Permission) (principals : List Principal),
      snapshot name action
          ⟨earlier ++ .all (first ++ .any true :: second) :: later, principals⟩ =
        snapshot name action ⟨earlier ++ later, principals⟩ ∧
      (snapshot name action
          ⟨earlier ++ .all (first ++ .any true :: second) :: later, principals⟩ =
        snapshot name action ⟨earlier ++ .all (first ++ second) :: later, principals⟩ ↔
          Permission.MakeNothing (first ++ second))) ∧
    ∀ (earlier later first second : List Principal) (permissions : List Permission),
      snapshot name action
          ⟨permissions, earlier ++ .all (first ++ .any true :: second) :: later⟩ =
        snapshot name action ⟨permissions, earlier ++ later⟩ ∧
      (snapshot name action
          ⟨permissions, earlier ++ .all (first ++ .any true :: second) :: later⟩ =
        snapshot name action ⟨permissions, earlier ++ .all (first ++ second) :: later⟩ ↔
          Principal.MakeNothing (first ++ second)) := by
  constructor
  · intro earlier later first second principals
    have makesNothing : Permission.MakeNothing (first ++ .any true :: second) :=
      .inl (by simp [Permission.isAny])
    have leftOut : snapshot name action
          ⟨earlier ++ .all (first ++ .any true :: second) :: later, principals⟩ =
        snapshot name action ⟨earlier ++ later, principals⟩ :=
      (snapshot_eq_without_permission_iff _).mpr makesNothing
    refine ⟨leftOut, ?_⟩
    rw [leftOut, eq_comm, snapshot_eq_without_permission_iff]
  · intro earlier later first second permissions
    have makesNothing : Principal.MakeNothing (first ++ .any true :: second) :=
      .inl (by simp [Principal.isAny])
    have leftOut : snapshot name action
          ⟨permissions, earlier ++ .all (first ++ .any true :: second) :: later⟩ =
        snapshot name action ⟨permissions, earlier ++ later⟩ :=
      (snapshot_eq_without_principal_iff _).mpr makesNothing
    refine ⟨leftOut, ?_⟩
    rw [leftOut, eq_comm, snapshot_eq_without_principal_iff]

/-- A port next to an item that holds always is not asked for any more. -/
theorem not_any_is_unit :
    ¬ ∀ (name : String) (action : Action) (earlier later first second : List Permission)
      (principals : List Principal),
      snapshot name action
          ⟨earlier ++ .all (first ++ .any true :: second) :: later, principals⟩ =
        snapshot name action ⟨earlier ++ .all (first ++ second) :: later, principals⟩ := by
  intro isUnit
  have same := isUnit "shop" .allow [] [] [.port 80] [] []
  exact absurd same (by decide)

end AccessRule

end Mesh

end MeshAccess
