import MeshAccess.Proofs.Mesh.AnyItem

/-! This file says that the entries of an access rule are translated apart from each other. -/

namespace MeshAccess.Mesh

open Match
open Policy

/-- If each entry of a kind can be left out of the middle of a list, all of them can be. -/
theorem apply_filter_of_middle {α β : Type} (make : List α → β) {isKept : α → Bool}
    (leaveOut : ∀ earlier entry later, isKept entry = false →
      make (earlier ++ entry :: later) = make (earlier ++ later)) (entries : List α) :
    make (entries.filter isKept) = make entries := by
  suffices run : ∀ earlier, make (earlier ++ entries.filter isKept) = make (earlier ++ entries) from
    run []
  induction entries with
  | nil => exact fun _ => rfl
  | cons entry rest inductionHypothesis =>
      intro earlier
      cases kept : isKept entry with
      | true =>
          rw [List.filter_cons_of_pos kept, List.append_cons, inductionHypothesis,
            List.append_cons earlier entry rest]
      | false =>
          rw [List.filter_cons_of_neg (ne_true_of_eq_false kept), inductionHypothesis,
            leaveOut earlier entry rest kept]

namespace Permission

/-- The permission holds for every request, or it is a conjunction of such permissions only. -/
def isTrivial : Permission → Bool
  | .all items => items.all isAny
  | permission => permission.isAny

theorem add_of_isTrivial {permission : Permission} (trivially : permission.isTrivial = true)
    (rules : Rules) : rules.add permission = rules := by
  rw [Rules.add]
  cases permission with
  | all items =>
      change (if items.any isAny then rules else (items.map tests).foldl Rules.push rules) = rules
      cases items with
      | nil => rfl
      | cons item rest =>
          rw [isTrivial, List.all_cons, Bool.and_eq_true] at trivially
          rw [List.any_cons, trivially.1, Bool.true_or, if_pos rfl]
  | any value =>
      cases trivially
      rfl
  | _ => cases trivially

theorem ofPermissions_filter (permissions : List Permission) :
    Rules.ofPermissions (permissions.filter fun permission => !permission.isTrivial) =
      Rules.ofPermissions permissions := by
  refine apply_filter_of_middle Rules.ofPermissions (fun earlier entry later dropped => ?_) permissions
  have trivially : entry.isTrivial = true := Bool.not_eq_eq_eq_not.mp dropped
  rw [Rules.ofPermissions, Rules.ofPermissions, List.foldl_append, List.foldl_append,
    List.foldl_cons, add_of_isTrivial trivially]

/-- The group of an item in the condition about one part: the matchers that its leaves make for this
part, if there are any. -/
def group? {α : Type} (matcher? : Test → Option α) (item : Permission) : Option (Match.Group α) :=
  let matchers := item.alternatives.1.filterMap fun leaf => leaf.test?.bind matcher?
  if matchers.isEmpty then none else some ⟨matchers, item.alternatives.2⟩

theorem isSome_group?_iff {α : Type} (matcher? : Test → Option α) (item : Permission) :
    (item.group? matcher?).isSome ↔
      ∃ leaf ∈ item.alternatives.1, (leaf.test?.bind matcher?).isSome := by
  rw [group?, Option.isSome_ite', List.isEmpty_iff, List.filterMap_eq_nil_iff]
  simp [Option.isSome_iff_ne_none]

theorem negated_of_group? {α : Type} {matcher? : Test → Option α} {item : Permission}
    {group : Match.Group α} (made : item.group? matcher? = some group) :
    group.negated = item.alternatives.2 := by
  rw [group?] at made
  split at made
  · cases made
  · cases made
    rfl

namespace Rules

variable {α : Type}

/-- The condition takes its matchers of every item. -/
structure Collects (condition : Rules → Condition α) (matcher? : Test → Option α) : Prop where
  empty : condition .empty = .empty
  push : ∀ rules tests,
    condition (rules.push tests) = (condition rules).push ⟨tests.1.filterMap matcher?, tests.2⟩

/-- The condition has the groups that the single permissions make, one after the other. Each item of a
permission makes a group exactly if one of its leaves makes a matcher, and the group is negated as the
item is. -/
structure IsConcatenated (condition : Rules → Condition α) (matcher? : Test → Option α)
    (permissions : List Permission) : Prop where
  together : (condition (ofPermissions permissions)).groups =
    permissions.flatMap fun permission => (condition (ofPermissions [permission])).groups
  alone : ∀ permission ∈ permissions, (condition (ofPermissions [permission])).groups =
    permission.items.filterMap (group? matcher?)
  appears : ∀ permission ∈ permissions, ∀ item ∈ permission.items,
    (item.group? matcher?).isSome ↔
      ∃ leaf ∈ item.alternatives.1, (leaf.test?.bind matcher?).isSome
  negated : ∀ permission ∈ permissions, ∀ item ∈ permission.items, ∀ group,
    item.group? matcher? = some group → group.negated = item.alternatives.2

section

variable {condition : Rules → Condition α} {matcher? : Test → Option α}

theorem Collects.groups_push (collects : Collects condition matcher?) (rules : Rules)
    (item : Permission) :
    (condition (rules.push item.tests)).groups =
      (condition rules).groups ++ (item.group? matcher?).toList := by
  have same : item.tests.1.filterMap matcher? =
      item.alternatives.1.filterMap fun leaf => leaf.test?.bind matcher? :=
    List.filterMap_filterMap
  rw [collects.push, same, Condition.push, Group.isEmpty, group?]
  cases List.isEmpty _ with
  | true => exact (List.append_nil _).symm
  | false => rfl

theorem Collects.groups_foldl_push (collects : Collects condition matcher?) (rules : Rules)
    (items : List Permission) :
    (condition ((items.map tests).foldl Rules.push rules)).groups =
      (condition rules).groups ++ items.filterMap (group? matcher?) := by
  induction items generalizing rules with
  | nil => exact (List.append_nil _).symm
  | cons item rest inductionHypothesis =>
      rw [List.map_cons, List.foldl_cons, inductionHypothesis, collects.groups_push,
        List.append_assoc]
      cases made : item.group? matcher? with
      | none => rw [List.filterMap_cons_none made, Option.toList_none, List.nil_append]
      | some group =>
          rw [List.filterMap_cons_some made, Option.toList_some, List.singleton_append]

theorem Collects.groups_singleton (collects : Collects condition matcher?)
    {permission : Permission} (noAny : permission.items.any isAny = false) :
    (condition (ofPermissions [permission])).groups =
      permission.items.filterMap (group? matcher?) := by
  change (condition (add .empty permission)).groups = _
  rw [add, if_neg (ne_true_of_eq_false noAny), collects.groups_foldl_push, collects.empty]
  rfl

/-- A permission adds the groups that it makes alone. -/
theorem Collects.groups_add (collects : Collects condition matcher?) (rules : Rules)
    (permission : Permission) :
    (condition (rules.add permission)).groups =
      (condition rules).groups ++ (condition (ofPermissions [permission])).groups := by
  cases hasAny : permission.items.any isAny with
  | true =>
      have nothing (other : Rules) : other.add permission = other := by
        rw [add, if_pos hasAny]
      change _ = _ ++ (condition (add .empty permission)).groups
      rw [nothing, nothing, collects.empty]
      exact (List.append_nil _).symm
  | false =>
      rw [collects.groups_singleton hasAny, add, if_neg (ne_true_of_eq_false hasAny),
        collects.groups_foldl_push]

theorem Collects.groups_foldl_add (collects : Collects condition matcher?) (rules : Rules)
    (permissions : List Permission) :
    (condition (permissions.foldl add rules)).groups = (condition rules).groups ++
      permissions.flatMap fun permission => (condition (ofPermissions [permission])).groups := by
  induction permissions generalizing rules with
  | nil => exact (List.append_nil _).symm
  | cons permission rest inductionHypothesis =>
      rw [List.foldl_cons, inductionHypothesis, collects.groups_add, List.flatMap_cons,
        List.append_assoc]

theorem Collects.isConcatenated (collects : Collects condition matcher?)
    {permissions : List Permission}
    (noAny : ∀ permission ∈ permissions, permission.items.any isAny = false) :
    IsConcatenated condition matcher? permissions where
  together := by
    rw [ofPermissions, collects.groups_foldl_add, collects.empty]
    rfl
  alone permission member := collects.groups_singleton (noAny permission member)
  appears _ _ item _ := isSome_group?_iff matcher? item
  negated _ _ _ _ _ made := negated_of_group? made

end

theorem collects_hosts : Collects (fun rules => rules.target.hosts) Test.host? :=
  ⟨rfl, fun _ _ => rfl⟩

theorem collects_ports : Collects (fun rules => rules.target.ports) Test.port? :=
  ⟨rfl, fun _ _ => rfl⟩

theorem collects_methods : Collects (fun rules => rules.target.methods) Test.method? :=
  ⟨rfl, fun _ _ => rfl⟩

theorem collects_paths : Collects (fun rules => rules.target.paths) Test.path? :=
  ⟨rfl, fun _ _ => rfl⟩

theorem collects_destinations : Collects Rules.destinations Test.destination? :=
  ⟨rfl, fun _ _ => rfl⟩

end Rules

end Permission

namespace Principal

/-- The principal holds for every caller, or it is a conjunction of such principals only. -/
def isTrivial : Principal → Bool
  | .all items => items.all isAny
  | principal => principal.isAny

/-- The rules that the items of a principal make. -/
def ownRules (principal : Principal) : Rules :=
  (principal.items.map tests).foldl Rules.push .empty

theorem rules?_eq_ownRules {principal : Principal} (noAny : principal.items.any isAny = false) :
    principal.rules? = some principal.ownRules :=
  if_neg (ne_true_of_eq_false noAny)

end Principal

namespace AccessRule

variable (name : String) (action : Action) (rule : AccessRule)

/-- The rule without the entries that ask for nothing. -/
def withoutTrivial : AccessRule where
  permissions := rule.permissions.filter fun permission => !permission.isTrivial
  principals := rule.principals.filter fun principal => !principal.isTrivial

/-- An entry, or an item of a conjunction, holds always. -/
def hasAny : Bool :=
  rule.permissions.any (fun permission => permission.items.any Permission.isAny) ||
    rule.principals.any fun principal => principal.items.any Principal.isAny

/-- The policies of one kind are those that the single principals make, in their order. A principal
makes the policy of its own rule, unless the rule is empty. -/
structure IsListed {α : Type} (policies : Snapshot → List (NamedRule α))
    (ruleOf : Principal.Rules → α) (isEmpty : α → Bool) : Prop where
  together : policies (rule.snapshot name action) =
    rule.principals.flatMap fun principal => policies (snapshot name action ⟨[], [principal]⟩)
  alone : ∀ principal ∈ rule.principals, policies (snapshot name action ⟨[], [principal]⟩) =
    policy name action (ruleOf principal.ownRules) (isEmpty (ruleOf principal.ownRules))

/-- Every entry of the rule adds what it makes alone, whatever the other entries are. -/
structure IsTranslatedByEntry : Prop where
  targets : (rule.snapshot name action).targets =
    policy name action rule.permitted.target rule.permitted.target.isEmpty
  hosts : Permission.Rules.IsConcatenated (fun rules => rules.target.hosts)
    Permission.Test.host? rule.permissions
  ports : Permission.Rules.IsConcatenated (fun rules => rules.target.ports)
    Permission.Test.port? rule.permissions
  methods : Permission.Rules.IsConcatenated (fun rules => rules.target.methods)
    Permission.Test.method? rule.permissions
  paths : Permission.Rules.IsConcatenated (fun rules => rules.target.paths)
    Permission.Test.path? rule.permissions
  connections : ∀ policy ∈ (rule.snapshot name action).connections,
    policy.rule.destinations = rule.permitted.destinations
  destinations : Permission.Rules.IsConcatenated Permission.Rules.destinations
    Permission.Test.destination? rule.permissions
  callers : rule.IsListed name action Snapshot.callers Principal.Rules.caller CallerRule.isEmpty
  identities : rule.IsListed name action Snapshot.identities Principal.Rules.identity
    IdentityRule.isEmpty
  headers : rule.IsListed name action Snapshot.headers (fun rules => ⟨rules.headers⟩)
    HeaderRule.isEmpty

variable {name action rule}

/-- A principal that asks for nothing can be left out. -/
theorem snapshot_of_isTrivial {permissions : List Permission} {earlier later : List Principal}
    {entry : Principal} (trivially : entry.isTrivial = true) :
    snapshot name action ⟨permissions, earlier ++ entry :: later⟩ =
      snapshot name action ⟨permissions, earlier ++ later⟩ := by
  cases entry with
  | all items =>
      refine (snapshot_eq_without_principal_iff items).mpr ?_
      cases items with
      | nil => exact .inr (by simp)
      | cons item rest =>
          rw [Principal.isTrivial, List.all_cons, Bool.and_eq_true] at trivially
          exact .inl (by rw [List.any_cons, trivially.1, Bool.true_or])
  | any value =>
      cases trivially
      exact snapshot_of_rules?_eq_none rfl
  | _ => cases trivially

theorem snapshot_withoutTrivial :
    rule.withoutTrivial.snapshot name action = rule.snapshot name action := by
  calc rule.withoutTrivial.snapshot name action
    _ = snapshot name action ⟨rule.permissions, rule.withoutTrivial.principals⟩ :=
        snapshot_congr (Permission.ofPermissions_filter rule.permissions) rfl
    _ = rule.snapshot name action :=
        apply_filter_of_middle (fun principals => snapshot name action ⟨rule.permissions, principals⟩)
          (fun _ entry _ dropped => snapshot_of_isTrivial
            (Bool.not_eq_eq_eq_not.mp dropped)) rule.principals

/-- The principals make their rules one after the other. -/
theorem principalRules_eq_flatMap :
    rule.principalRules =
      rule.principals.flatMap fun principal => principalRules ⟨[], [principal]⟩ := by
  have singles : rule.principals.flatMap (fun principal => [principal]) = rule.principals :=
    List.flatMap_singleton' _
  rw [principalRules, ← singles, List.filterMap_flatMap, singles]
  rfl

theorem isListed_of_flatMap {α : Type} {policies : Snapshot → List (NamedRule α)}
    {ruleOf : Principal.Rules → α} {isEmpty : α → Bool}
    (listed : ∀ rule : AccessRule, policies (rule.snapshot name action) =
      rule.principalRules.flatMap fun rules =>
        policy name action (ruleOf rules) (isEmpty (ruleOf rules)))
    (noAny : ∀ principal ∈ rule.principals, principal.items.any Principal.isAny = false) :
    rule.IsListed name action policies ruleOf isEmpty where
  together := by
    rw [listed, principalRules_eq_flatMap, List.flatMap_assoc]
    exact List.flatMap_congr fun principal _ => (listed _).symm
  alone principal member := by
    have made := Principal.rules?_eq_ownRules (noAny principal member)
    rw [listed, principalRules, List.filterMap_cons_some made, List.filterMap_nil,
      List.flatMap_singleton]

/-- Entries that ask for nothing can be left out of a rule. If nothing in the rule holds always, every
entry adds what it makes alone. -/
theorem snapshot_by_entry (name : String) (action : Action) (rule : AccessRule) :
    rule.withoutTrivial.snapshot name action = rule.snapshot name action ∧
      (rule.hasAny = false → rule.IsTranslatedByEntry name action) := by
  refine ⟨snapshot_withoutTrivial, fun noAny => ?_⟩
  rw [hasAny, Bool.or_eq_false_iff, List.any_eq_false, List.any_eq_false] at noAny
  have permissions (permission : Permission) (member : permission ∈ rule.permissions) :
      permission.items.any Permission.isAny = false :=
    Bool.eq_false_iff.mpr (noAny.1 permission member)
  have principals (principal : Principal) (member : principal ∈ rule.principals) :
      principal.items.any Principal.isAny = false :=
    Bool.eq_false_iff.mpr (noAny.2 principal member)
  exact {
    targets := snapshot_targets name action rule
    hosts := Permission.Rules.collects_hosts.isConcatenated permissions
    ports := Permission.Rules.collects_ports.isConcatenated permissions
    methods := Permission.Rules.collects_methods.isConcatenated permissions
    paths := Permission.Rules.collects_paths.isConcatenated permissions
    connections := fun policy member => destinations_of_mem member
    destinations := Permission.Rules.collects_destinations.isConcatenated permissions
    callers := isListed_of_flatMap (snapshot_callers name action) principals
    identities := isListed_of_flatMap (snapshot_identities name action) principals
    headers := isListed_of_flatMap (snapshot_headers name action) principals }

/-- Reading pages over two ports, apart from the administration, for a team or from an office. -/
def pagesRule : AccessRule where
  permissions :=
    [.all [.oneOf [.port 80, .path (some ⟨some (.start, "/pages"), false⟩), .port 443],
      .not (.path (some ⟨some (.start, "/admin"), false⟩))],
      .header ⟨":method", some (.text ⟨some (.exact, "GET"), false⟩), false⟩]
  principals :=
    [.header ⟨"x-team", some (.text ⟨some (.exact, "shop"), false⟩), false⟩,
      .not (.remoteAddress ⟨"192.0.2.0", some 24⟩)]

theorem pagesRule_isTranslatedByEntry :
    pagesRule.hasAny = false ∧ pagesRule.IsTranslatedByEntry "pages" .allow :=
  ⟨by decide, (snapshot_by_entry "pages" .allow pagesRule).2 (by decide)⟩

end AccessRule

end MeshAccess.Mesh
