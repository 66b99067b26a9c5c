import MeshAccess.Proofs.Mesh.AccessPolicy
import MeshAccess.Proofs.Mesh.Emptiness
import MeshAccess.Proofs.Policy.Registry

/-! This file says what becomes of the ranges of the destination that the permissions ask for. -/

namespace MeshAccess.Mesh.AccessRule

open Match
open Policy

variable {name : String} {action : Action} {rule : AccessRule}

/-- The rules of the principals that ask for addresses of the caller. -/
def asking (rule : AccessRule) : List Principal.Rules :=
  rule.principalRules.filter fun rules => rules.connection.asksCaller

/-- A rule about the connection that a principal makes is empty unless it asks for the caller. -/
theorem isEmpty_connection {rules : Principal.Rules} (member : rules ∈ rule.principalRules) :
    rules.connection.isEmpty = !rules.connection.asksCaller := by
  cases asks : rules.connection.isEmpty with
  | false => rw [asksCaller_of_mem member asks, Bool.not_true]
  | true =>
      simp only [ConnectionRule.isEmpty, Bool.and_eq_true] at asks
      rw [ConnectionRule.asksCaller, asks.1.1, asks.2]
      rfl

theorem asking_eq_filter :
    rule.asking = rule.principalRules.filter fun rules => !rules.connection.isEmpty :=
  List.filter_congr fun rules member => by rw [isEmpty_connection member, Bool.not_not]

/-- Each principal that asks for addresses makes a policy, which has the ranges of the destination too.
If none asks, the ranges make a policy by themselves. -/
theorem connections_eq (name : String) (action : Action) (rule : AccessRule) :
    (rule.snapshot name action).connections =
      if rule.asking = [] then
        policy name action ⟨.empty, rule.permitted.destinations, .empty⟩
          rule.permitted.destinations.isEmpty
      else rule.asking.map fun rules =>
        ⟨name, action, { rules.connection with destinations := rule.permitted.destinations }⟩ := by
  have isAlone : (rule.principalRules.all fun rules => rules.connection.isEmpty) =
      decide (rule.asking = []) := by
    rw [Bool.eq_iff_iff, List.all_eq_true, decide_eq_true_iff, asking_eq_filter,
      List.filter_eq_nil_iff]
    simp
  rw [snapshot_connections, flatMap_policy, ← asking_eq_filter, isAlone]
  by_cases noneAsks : rule.asking = []
  · rw [if_pos noneAsks, decide_eq_true noneAsks, noneAsks]
    rfl
  · rw [if_neg noneAsks, decide_eq_false noneAsks, Bool.not_false, Bool.true_or, policy_empty,
      List.append_nil]

/-- Every policy about the connection has the name and the action of the rule and its ranges of the
destination. -/
theorem eq_of_mem_connections {policy : NamedRule ConnectionRule}
    (member : policy ∈ (rule.snapshot name action).connections) :
    policy.name = name ∧ policy.action = action ∧
      policy.rule.destinations = rule.permitted.destinations := by
  rw [connections_eq] at member
  split at member
  · obtain ⟨_, rfl⟩ := mem_policy.mp member
    exact ⟨rfl, rfl, rfl⟩
  · obtain ⟨rules, _, rfl⟩ := List.mem_map.mp member
    exact ⟨rfl, rfl, rfl⟩

theorem destinations_of_mem {policy : NamedRule ConnectionRule}
    (member : policy ∈ (rule.snapshot name action).connections) :
    policy.rule.destinations = rule.permitted.destinations :=
  (eq_of_mem_connections member).2.2

/-- There are ranges of the destination only if there is a policy about the connection. -/
theorem destinations_of_nil (none : (rule.snapshot name action).connections = []) :
    rule.permitted.destinations = .empty := by
  rw [connections_eq] at none
  split at none
  next => exact Condition.eq_empty_of_isEmpty (policy_eq_nil_iff.mp none)
  next asked => exact absurd (List.map_eq_nil_iff.mp none) asked

/-- A principal by itself has no ranges of the destination. -/
theorem destinations_of_mem_asking {rules : Principal.Rules} (member : rules ∈ rule.asking) :
    rules.connection.destinations = .empty := by
  obtain ⟨principal, _, made⟩ := List.mem_filterMap.mp (List.mem_filter.mp member).1
  exact Principal.destinations_of_rules? made

/-- Without ranges of the destination the policies about the connection are those of the principals that
ask for addresses. -/
theorem connections_of_isEmpty (none : rule.permitted.destinations.isEmpty = true) :
    (rule.snapshot name action).connections =
      rule.asking.map fun rules => ⟨name, action, rules.connection⟩ := by
  have noDestinations : rule.permitted.destinations = .empty := Condition.eq_empty_of_isEmpty none
  rw [connections_eq]
  split
  next noneAsks =>
    rw [none, policy_empty, noneAsks]
    rfl
  next =>
    refine List.map_congr_left fun rules member => ?_
    rw [noDestinations, ← destinations_of_mem_asking member]

/-- After the policies of the rule are applied, whatever was in force before, the last of those about
the connection is in force. -/
theorem get?_connections_apply (store : Store) (name : String) (action : Action)
    (rule : AccessRule) :
    (store.apply (rule.snapshot name action)).connections.get? name =
      (rule.snapshot name action).connections.getLast? :=
  (Registry.get?_replaceAll _ _ _).trans
    (lastNamed?_of_named fun _ member => (eq_of_mem_connections member).1)

/-- The ranges of the destination are never lost. Every policy about the connection has them, there is
one if there are any, and one is in force then. Without them there is one policy for each principal that
asks for addresses, and no other. -/
theorem keepsDestinations (name : String) (action : Action) (rule : AccessRule) :
    (∀ policy ∈ (rule.snapshot name action).connections, policy.name = name ∧
        policy.action = action ∧ policy.rule.destinations = rule.permitted.destinations) ∧
      (rule.permitted.destinations.isEmpty = false →
        (rule.snapshot name action).connections ≠ [] ∧
          ∀ store : Store, ∃ policy,
            (store.apply (rule.snapshot name action)).connections.get? name = some policy ∧
              policy.rule.destinations = rule.permitted.destinations) ∧
      (rule.permitted.destinations.isEmpty = true →
        (rule.snapshot name action).connections =
          rule.asking.map fun rules => ⟨name, action, rules.connection⟩) := by
  refine ⟨fun policy member => eq_of_mem_connections member, fun some => ?_, connections_of_isEmpty⟩
  have emitted : (rule.snapshot name action).connections ≠ [] := by
    intro none
    rw [destinations_of_nil none] at some
    cases some
  refine ⟨emitted, fun store => ?_⟩
  have isLast := List.getLast?_eq_some_getLast emitted
  exact ⟨_, (get?_connections_apply store name action rule).trans isLast,
    destinations_of_mem (List.getLast_mem emitted)⟩

/-- Connections to one network, for an office, for every caller, or for a team. -/
def networkRule : AccessRule where
  permissions := [.all [.port 443, .destination ⟨"10.0.0.0", some 8⟩], .any true]
  principals :=
    [.directAddress ⟨"192.0.2.0", some 24⟩, .any true,
      .header ⟨"x-team", some (.text ⟨some (.exact, "shop"), false⟩), false⟩]

theorem networkRule_keepsDestinations :
    networkRule.permitted.destinations.isEmpty = false ∧
      (networkRule.snapshot "network" .allow).connections ≠ [] ∧
        ∃ policy, (Store.empty.apply (networkRule.snapshot "network" .allow)).connections.get?
            "network" = some policy ∧
          policy.rule.destinations = networkRule.permitted.destinations := by
  have asked : networkRule.permitted.destinations.isEmpty = false := by decide
  obtain ⟨emitted, inForce⟩ := (keepsDestinations "network" .allow networkRule).2.1 asked
  exact ⟨asked, emitted, inForce Store.empty⟩

end MeshAccess.Mesh.AccessRule
