import MeshAccess.Proofs.Mesh.AccessPolicy
import MeshAccess.Proofs.Policy.Registry

/-! This file says what is in force under the name of a rule with several principals. -/

namespace MeshAccess

open Match
open Policy

namespace Mesh

/-- What is asked of a caller, by the registry in which it is asked. -/
structure Constraints where
  caller : Option CallerRule
  /-- The ranges of the source and of the original caller. -/
  addresses : Option (Condition Net.CidrRange × Condition Net.CidrRange)
  identity : Option IdentityRule
  headers : Option HeaderRule
  deriving DecidableEq, Repr

namespace Constraints

def none : Constraints := ⟨.none, .none, .none, .none⟩

/-- The constraints that the rules of one principal make. -/
def ofRules (rules : Principal.Rules) : Constraints where
  caller := if rules.caller.isEmpty then .none else some rules.caller
  addresses :=
    if rules.connection.isEmpty then .none
    else some (rules.connection.sources, rules.connection.remotes)
  identity := if rules.identity.isEmpty then .none else some rules.identity
  headers := if rules.headers.isEmpty then .none else some ⟨rules.headers⟩

/-- The constraints in force under a name. A policy about the connection that only has ranges of the
destination constrains no caller. -/
def inForce (store : Store) (name : String) : Constraints where
  caller := (store.callers.get? name).map NamedRule.rule
  addresses := ((store.connections.get? name).map NamedRule.rule).bind fun rule =>
    if rule.asksCaller then some (rule.sources, rule.remotes) else .none
  identity := (store.identities.get? name).map NamedRule.rule
  headers := (store.headers.get? name).map NamedRule.rule

/-- The last constraints of each registry. -/
def latest (all : List Constraints) : Constraints where
  caller := (all.filterMap caller).getLast?
  addresses := (all.filterMap addresses).getLast?
  identity := (all.filterMap identity).getLast?
  headers := (all.filterMap headers).getLast?

/-- The constraints of the last principal. -/
def last (all : List Constraints) : Constraints := all.getLast?.getD none

/-- The later constraints are in every registry in which the earlier ones are. -/
def covers (later earlier : Constraints) : Bool :=
  (later.caller.isSome || earlier.caller.isNone) &&
    (later.addresses.isSome || earlier.addresses.isNone) &&
    (later.identity.isSome || earlier.identity.isNone) &&
    (later.headers.isSome || earlier.headers.isNone)

/-- In one registry, the last constraints are those of the last principal if it has some, or if no
principal has any. -/
theorem getLast?_filterMap_eq_iff {α β : Type} (choose : α → Option β) (before : List α)
    (element : α) :
    ((before ++ [element]).filterMap choose).getLast? = choose element ↔
      ∀ other ∈ before ++ [element], (choose element).isSome || (choose other).isNone := by
  rw [List.filterMap_append]
  cases chosen : choose element with
  | some value => simp [chosen]
  | none =>
      rw [List.filterMap_cons_none chosen, List.filterMap_nil, List.append_nil,
        List.getLast?_eq_none_iff, List.filterMap_eq_nil_iff, List.forall_mem_append,
        List.forall_mem_singleton]
      simp [chosen]

/-- The last constraints are those of the last principal exactly when it constrains something in every
registry in which an earlier one does. -/
theorem latest_eq_last_iff (all : List Constraints) :
    latest all = last all ↔ (all.all fun earlier => (last all).covers earlier) = true := by
  rcases List.eq_nil_or_concat all with rfl | ⟨before, final, rfl⟩
  · exact ⟨fun _ => rfl, fun _ => rfl⟩
  · have isLast : last (before ++ [final]) = final := by
      rw [last, List.getLast?_concat, Option.getD_some]
    rw [List.concat_eq_append, isLast, latest]
    obtain ⟨caller, addresses, identity, headers⟩ := final
    rw [mk.injEq, getLast?_filterMap_eq_iff, getLast?_filterMap_eq_iff, getLast?_filterMap_eq_iff,
      getLast?_filterMap_eq_iff, List.all_eq_true]
    simp only [covers, Bool.and_eq_true, forall_and, and_assoc]

end Constraints

namespace AccessRule

variable {name : String} {action : Action}

/-- The policy in force is that of the last principal that makes one. -/
theorem get?_replaceAll_flatMap {α : Type} (all : List Principal.Rules)
    (ruleOf : Principal.Rules → α) (isEmpty : Principal.Rules → Bool) :
    ((Registry.empty.replaceAll
        (all.flatMap fun rules => policy name action (ruleOf rules) (isEmpty rules))).get? name).map
          NamedRule.rule =
      (all.filterMap fun rules => if isEmpty rules then none else some (ruleOf rules)).getLast? := by
  have named : ∀ item ∈ (all.filter fun rules => !isEmpty rules).map
      fun rules => (⟨name, action, ruleOf rules⟩ : NamedRule α), item.name = name := by
    intro item member
    obtain ⟨rules, _, rfl⟩ := List.mem_map.mp member
    rfl
  have chosen : (all.filterMap fun rules => if isEmpty rules then none else some (ruleOf rules)) =
      (all.filter fun rules => !isEmpty rules).map ruleOf := by
    rw [← List.filterMap_eq_map, List.filterMap_filter]
    apply congrArg (List.filterMap · all)
    funext rules
    cases isEmpty rules <;> rfl
  rw [Registry.get?_replaceAll, flatMap_policy, Registry.last?, lastNamed?_of_named named, chosen,
    List.getLast?_map, List.getLast?_map, Option.map_map]
  rfl

/-- The rule about the connection that a principal makes, with the ranges of the destination. -/
def connectionRule? (rule : AccessRule) (rules : Principal.Rules) : Option ConnectionRule :=
  if rules.connection.isEmpty then none
  else some { rules.connection with destinations := rule.permitted.destinations }

theorem addresses_ofRules (rule : AccessRule) (rules : Principal.Rules) :
    (Constraints.ofRules rules).addresses =
      (rule.connectionRule? rules).map fun connection => (connection.sources, connection.remotes) := by
  rw [Constraints.ofRules, connectionRule?]
  cases rules.connection.isEmpty <;> rfl

theorem asksCaller_of_connectionRule? {rule : AccessRule} {connection : ConnectionRule}
    (member : connection ∈ rule.principalRules.filterMap rule.connectionRule?) :
    connection.asksCaller = true := by
  obtain ⟨rules, among, made⟩ := List.mem_filterMap.mp member
  rw [connectionRule?] at made
  cases asks : rules.connection.isEmpty with
  | true =>
      rw [asks] at made
      cases made
  | false =>
      rw [asks] at made
      cases made
      exact asksCaller_of_mem among asks

/-- The ranges of the destination may make a policy of their own, but that one constrains no caller. -/
theorem asksCaller_of_alone {name : String} {action : Action} {destinations : Condition Net.CidrRange}
    {isEmpty : Bool} {connection : ConnectionRule}
    (found : ((Registry.empty.replaceAll (policy name action
      (⟨.empty, destinations, .empty⟩ : ConnectionRule) isEmpty)).get? name).map NamedRule.rule =
        some connection) :
    connection.asksCaller = false := by
  rw [Registry.get?_replaceAll, Registry.last?] at found
  cases isEmpty with
  | true => cases found
  | false =>
      rw [policy, if_neg Bool.false_ne_true,
        lastNamed?_of_named (List.forall_mem_singleton.mpr rfl)] at found
      cases found
      rfl

theorem addresses_inForce (name : String) (action : Action) (rule : AccessRule) :
    (Constraints.inForce (Store.empty.apply (rule.snapshot name action)) name).addresses =
      (rule.principalRules.filterMap fun rules => (Constraints.ofRules rules).addresses).getLast? := by
  have chosen : (rule.principalRules.filterMap fun rules => (Constraints.ofRules rules).addresses) =
      (rule.principalRules.filterMap rule.connectionRule?).map fun connection =>
        (connection.sources, connection.remotes) := by
    rw [List.map_filterMap]
    apply congrArg (List.filterMap · rule.principalRules)
    funext rules
    exact addresses_ofRules rule rules
  change (((Registry.empty.replaceAll (rule.snapshot name action).connections).get? name).map
    NamedRule.rule).bind _ = _
  rw [chosen, List.getLast?_map, snapshot_connections]
  cases alone : rule.principalRules.all fun rules => rules.connection.isEmpty with
  | true =>
      have noPolicies : (rule.principalRules.flatMap fun rules => policy name action
          { rules.connection with destinations := rule.permitted.destinations }
          rules.connection.isEmpty) = [] :=
        List.flatMap_eq_nil_iff.mpr fun rules member =>
          policy_eq_nil_iff.mpr (List.all_eq_true.mp alone rules member)
      have noRules : rule.principalRules.filterMap rule.connectionRule? = [] :=
        List.filterMap_eq_nil_iff.mpr fun rules member =>
          if_pos (List.all_eq_true.mp alone rules member)
      rw [noPolicies, noRules, List.nil_append, List.getLast?_nil, Option.map_none,
        Option.bind_eq_none_iff]
      intro connection found
      exact if_neg (ne_true_of_eq_false (asksCaller_of_alone found))
  | false =>
      rw [Bool.not_false, Bool.true_or, policy_empty, List.append_nil, get?_replaceAll_flatMap]
      change (rule.principalRules.filterMap rule.connectionRule?).getLast?.bind _ = _
      cases found : (rule.principalRules.filterMap rule.connectionRule?).getLast? with
      | none => rfl
      | some connection =>
          exact if_pos (asksCaller_of_connectionRule? (List.mem_of_getLast? found))

/-- Each registry has the constraints of the last principal that makes some for it. -/
theorem inForce_eq_latest (name : String) (action : Action) (rule : AccessRule) :
    Constraints.inForce (Store.empty.apply (rule.snapshot name action)) name =
      .latest (rule.principalRules.map .ofRules) := by
  rw [Constraints.latest]
  simp only [List.filterMap_map]
  refine (Constraints.mk.injEq ..).mpr ⟨?_, addresses_inForce name action rule, ?_, ?_⟩
  · change ((Registry.empty.replaceAll (rule.snapshot name action).callers).get? name).map
      NamedRule.rule = _
    rw [snapshot_callers, get?_replaceAll_flatMap]
    rfl
  · change ((Registry.empty.replaceAll (rule.snapshot name action).identities).get? name).map
      NamedRule.rule = _
    rw [snapshot_identities, get?_replaceAll_flatMap]
    rfl
  · change ((Registry.empty.replaceAll (rule.snapshot name action).headers).get? name).map
      NamedRule.rule = _
    rw [snapshot_headers, get?_replaceAll_flatMap]
    rfl

/-- In each registry the last principal that constrains something there is in force. These are the
constraints of the last principal exactly when it constrains something in every registry in which an
earlier one does. -/
theorem inForce_by_registry (name : String) (action : Action) (rule : AccessRule) :
    Constraints.inForce (Store.empty.apply (rule.snapshot name action)) name =
        .latest (rule.principalRules.map .ofRules) ∧
      (Constraints.inForce (Store.empty.apply (rule.snapshot name action)) name =
          .last (rule.principalRules.map .ofRules) ↔
        ((rule.principalRules.map .ofRules).all fun earlier =>
          (Constraints.last (rule.principalRules.map .ofRules)).covers earlier) = true) := by
  refine ⟨inForce_eq_latest name action rule, ?_⟩
  rw [inForce_eq_latest]
  exact Constraints.latest_eq_last_iff _

/-- Either a header field of the team or the workload of the shop. -/
def teamOrWorkload : AccessRule where
  permissions := []
  principals :=
    [.all [.header ⟨"x-team", some (.text ⟨some (.exact, "shop"), false⟩), false⟩],
      .all [.authenticated (some ⟨some (.exact, "cluster.local/ns/shop/sa/web"), false⟩)]]

/-- The last principal asks for a workload only, but the header field of the first one stays in
force. -/
theorem not_inForce_last :
    ¬ ∀ (name : String) (action : Action) (rule : AccessRule),
      Constraints.inForce (Store.empty.apply (rule.snapshot name action)) name =
        .last (rule.principalRules.map .ofRules) := by
  intro isLast
  have same := isLast "shop" .allow teamOrWorkload
  exact absurd same (by decide +kernel)

end AccessRule

end Mesh

end MeshAccess
