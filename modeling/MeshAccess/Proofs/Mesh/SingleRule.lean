import MeshAccess.Proofs.Mesh.AccessPolicy
import MeshAccess.Proofs.Mesh.Permission
import MeshAccess.Proofs.Mesh.Principal
import MeshAccess.Proofs.Policy.LastWriter

/-! This file says what one access rule means when it is the only one. -/

namespace MeshAccess

open Policy

namespace Policy

/-- A registry with at most one policy, which allows, permits what the policy accepts. -/
theorem Registry.permits_single {α : Type} (name : String) (rule : α) (isEmpty : Bool)
    (passes : α → Bool) (trivially : isEmpty = true → passes rule = true) :
    ((empty : Registry α).replaceAll (Mesh.AccessRule.policy name .allow rule isEmpty)).permits
      passes = passes rule := by
  cases isEmpty with
  | true =>
      rw [trivially rfl]
      rfl
  | false =>
      have added : (empty : Registry α).replaceAll [⟨name, .allow, rule⟩] =
          empty.add ⟨name, .allow, rule⟩ := by
        refine ext_lookup? fun action other => ?_
        rw [lookup?_replaceAll, lookup?_add, last?, lastNamed?, lastNamed?]
        by_cases named : name = other
        · simp [named]
        · simp [named, Ne.symm named]
      change (replaceAll empty [⟨name, .allow, rule⟩]).permits passes = _
      rw [added]
      exact Bool.and_true _

theorem TargetRule.accepts_of_isEmpty {rule : TargetRule} (isEmpty : rule.isEmpty = true)
    (target : Target) : rule.accepts target = true := by
  simp only [TargetRule.isEmpty, Bool.and_eq_true] at isEmpty
  obtain ⟨⟨⟨hosts, ports⟩, methods⟩, paths⟩ := isEmpty
  rw [accepts, Match.Condition.holds_of_isEmpty hosts, Match.Condition.holds_of_isEmpty ports,
    Match.Condition.holds_of_isEmpty methods, Match.Condition.holds_of_isEmpty paths]
  rfl

theorem CallerRule.accepts_of_isEmpty {rule : CallerRule} (isEmpty : rule.isEmpty = true)
    (caller : Caller) (claims : Option Token.Claims) : rule.accepts caller claims = true := by
  simp only [CallerRule.isEmpty, Bool.and_eq_true] at isEmpty
  obtain ⟨⟨⟨⟨principals, namespaces⟩, sources⟩, remotes⟩, identity⟩ := isEmpty
  rw [accepts, Match.Condition.holds_of_isEmpty principals,
    Match.Condition.holds_of_isEmpty namespaces, Match.Condition.holds_of_isEmpty sources,
    Match.Condition.holds_of_isEmpty remotes, acceptsClaims, identity]
  rfl

/-- The checks that come after the token, which has been verified. -/
def Store.permits (store : Store) (request : Request) (claims : Option Token.Claims) : Bool :=
  store.permitsConnection ⟨request.caller.sourceAddress, request.caller.destinationAddress,
      request.caller.remoteAddress⟩ &&
    store.permitsTarget request.target && store.permitsCaller request.caller claims &&
    (!store.checksClaims claims || store.permitsClaims claims) &&
    store.permitsHeaders request.headers

/-- With a good token, or without one, the other checks decide. -/
theorem Store.isAllowed_authorize_of_ok {store : Store} {request : Request}
    {verified : Option VerifiedToken}
    (authenticated : store.authenticate request.headers request.query = .ok verified) :
    (store.authorize request).isAllowed =
      store.permits request (verified.map VerifiedToken.claims) := by
  rw [authorize, authenticated, permits]
  dsimp only
  cases store.permitsConnection _ with
  | false => rfl
  | true =>
      cases store.permitsTarget _ with
      | false => rfl
      | true =>
          cases store.permitsCaller _ _ with
          | false => rfl
          | true =>
              cases store.checksClaims _ <;> cases store.permitsClaims _ <;>
                cases store.permitsHeaders _ <;> rfl

/-- Without providers and without policies about claims, the other four checks decide. -/
theorem Store.isAllowed_authorize {store : Store} (noProviders : store.providers = .empty)
    (noClaims : store.identities = .empty) (request : Request) :
    (store.authorize request).isAllowed =
      (store.permitsConnection ⟨request.caller.sourceAddress, request.caller.destinationAddress,
          request.caller.remoteAddress⟩ &&
        store.permitsTarget request.target && store.permitsCaller request.caller none &&
        store.permitsHeaders request.headers) := by
  have anonymous : store.authenticate request.headers request.query = .ok none := by
    rw [authenticate, findToken?, noProviders]
    rfl
  have unchecked : store.checksClaims none = false := by
    rw [checksClaims, noClaims]
    rfl
  rw [isAllowed_authorize_of_ok anonymous, permits, Option.map_none, unchecked, Bool.not_false,
    Bool.true_or, Bool.and_true]

end Policy

namespace Mesh.AccessRule

/-- At most one canonical principal makes at most one set of rules, which asks for no token. -/
theorem exists_principalRules {rule : AccessRule}
    (areCanonical : ∀ principal ∈ rule.principals, principal.IsCanonical)
    (single : rule.principals.length ≤ 1) :
    ∃ rules : Principal.Rules,
      (rule.principalRules = [rules] ∨ rule.principalRules = [] ∧ rules = .empty) ∧
        rules.identity = .empty ∧
          ∀ request claims, rules.accepts request claims =
            rule.principals.all (Principal.holds request) := by
  rw [principalRules]
  cases given : rule.principals with
  | nil => exact ⟨.empty, .inr ⟨rfl, rfl⟩, rfl, fun _ _ => rfl⟩
  | cons principal rest =>
      have alone : rest = [] := by
        rw [given, List.length_cons] at single
        exact List.eq_nil_of_length_eq_zero (by omega)
      have isCanonical := areCanonical principal (given ▸ List.mem_cons_self)
      obtain ⟨rules, made, noToken, accepts⟩ := isCanonical.rules?_eq
      subst alone
      refine ⟨rules, .inl ?_, noToken, fun request claims => ?_⟩
      · rw [List.filterMap_cons_some made, List.filterMap_nil]
      · rw [accepts, List.all_cons, List.all_nil, Bool.and_true]

/-- The policies that the principals make are those of one set of rules, which may be empty. -/
theorem flatMap_principalRules {rule : AccessRule} {rules : Principal.Rules}
    (made : rule.principalRules = [rules] ∨ rule.principalRules = [] ∧ rules = .empty) {β : Type}
    (policies : Principal.Rules → List β) (none : policies .empty = []) :
    rule.principalRules.flatMap policies = policies rules := by
  rcases made with one | ⟨zero, rfl⟩
  · rw [one, List.flatMap_singleton]
  · rw [zero, none, List.flatMap_nil]

theorem permits_targets (name : String) (rule : AccessRule) (target : Target) :
    (Registry.empty.replaceAll (rule.snapshot name .allow).targets).permits (·.accepts target) =
      rule.permitted.target.accepts target := by
  rw [snapshot_targets]
  exact Registry.permits_single name _ _ _ fun none => TargetRule.accepts_of_isEmpty none target

theorem permits_callers (name : String) {rule : AccessRule} {rules : Principal.Rules}
    (made : rule.principalRules = [rules] ∨ rule.principalRules = [] ∧ rules = .empty)
    (caller : Caller) (claims : Option Token.Claims) :
    (Registry.empty.replaceAll (rule.snapshot name .allow).callers).permits
        (·.accepts caller claims) = rules.caller.accepts caller claims := by
  rw [snapshot_callers, flatMap_principalRules made _ rfl]
  exact Registry.permits_single name _ _ _ fun none =>
    CallerRule.accepts_of_isEmpty none caller claims

theorem permits_headers (name : String) {rule : AccessRule} {rules : Principal.Rules}
    (made : rule.principalRules = [rules] ∨ rule.principalRules = [] ∧ rules = .empty)
    (headers : Http.Headers) :
    (Registry.empty.replaceAll (rule.snapshot name .allow).headers).permits (·.accepts headers) =
      rules.headers.holds (·.accepts headers) := by
  rw [snapshot_headers, flatMap_principalRules made _ rfl]
  exact Registry.permits_single name _ _ _ fun none => Match.Condition.holds_of_isEmpty none _

/-- Exactly one of the two possible policies about the connection carries the ranges of the
destination. -/
theorem permits_connections (name : String) {rule : AccessRule} {rules : Principal.Rules}
    (made : rule.principalRules = [rules] ∨ rule.principalRules = [] ∧ rules = .empty)
    (connection : Connection) :
    (Registry.empty.replaceAll (rule.snapshot name .allow).connections).permits
        (·.accepts connection) =
      (rules.connection.sources.holds (·.matchesText connection.source) &&
        rule.permitted.destinations.holds (·.matchesText connection.destination) &&
          rules.connection.remotes.holds (·.matchesText connection.remote)) := by
  have isAlone : (rule.principalRules.all fun rules => rules.connection.isEmpty) =
      rules.connection.isEmpty := by
    rcases made with one | ⟨zero, rfl⟩
    · rw [one, List.all_cons, List.all_nil, Bool.and_true]
    · rw [zero]
      rfl
  rw [snapshot_connections, isAlone, flatMap_principalRules made _ rfl]
  cases empty : rules.connection.isEmpty with
  | true =>
      simp only [ConnectionRule.isEmpty, Bool.and_eq_true] at empty
      obtain ⟨⟨sources, _⟩, remotes⟩ := empty
      rw [Match.Condition.holds_of_isEmpty sources, Match.Condition.holds_of_isEmpty remotes,
        Bool.true_and, Bool.and_true, policy_empty, List.nil_append, Registry.permits_single]
      · exact Bool.and_true _
      · intro none
        exact (Bool.and_true _).trans (Match.Condition.holds_of_isEmpty none _)
  | false =>
      rw [Bool.not_false, Bool.true_or, policy_empty, List.append_nil, Registry.permits_single]
      · rfl
      · intro none
        cases none

/-- A rule that allows and stands alone lets exactly those requests through for which all its
permissions and its principal hold. -/
theorem isAllowed_single_iff (name : String) (action : Int) (rule : AccessRule)
    (allows : AccessRules.actionOf? action = some .allow)
    (permissionsCanonical : ∀ permission ∈ rule.permissions, permission.IsCanonical)
    (principalsCanonical : ∀ principal ∈ rule.principals, principal.IsCanonical)
    (single : rule.principals.length ≤ 1) (request : Request) :
    ((Store.empty.apply (AccessRules.snapshot ⟨action, [(name, rule)]⟩)).authorize
        request).isAllowed ↔
      (∀ permission ∈ rule.permissions, permission.holds request) ∧
        ∀ principal ∈ rule.principals, principal.holds request := by
  obtain ⟨rules, made, noToken, meaning⟩ := exists_principalRules principalsCanonical single
  have alone : AccessRules.snapshot ⟨action, [(name, rule)]⟩ = rule.snapshot name .allow := by
    rw [AccessRules.snapshot, allows]
    rfl
  have noProviders : (Store.empty.apply (rule.snapshot name .allow)).providers = .empty := by
    rw [Store.apply, snapshot_providers]
    rfl
  have noClaims : (Store.empty.apply (rule.snapshot name .allow)).identities = .empty := by
    rw [Store.apply, snapshot_identities, flatMap_principalRules made _ rfl, noToken]
    rfl
  have checks : ((Store.empty.apply (rule.snapshot name .allow)).authorize request).isAllowed =
      (rule.permitted.accepts request && rules.accepts request none) := by
    rw [Store.isAllowed_authorize noProviders noClaims, Store.permitsConnection,
      Store.permitsTarget, Store.permitsCaller, Store.permitsHeaders]
    simp only [Store.apply, Store.empty]
    rw [permits_connections name made, permits_targets, permits_callers name made,
      permits_headers name made, Permission.Rules.accepts, Principal.Rules.accepts]
    ac_rfl
  rw [alone, checks, permitted, Permission.Rules.accepts_ofPermissions permissionsCanonical,
    meaning, Bool.and_eq_true]
  simp only [List.all_eq_true]

/-- Workloads of the shop may read its pages over two ports, apart from the administration. -/
def shopRule : AccessRule where
  permissions :=
    [.all [.oneOf [.port 80, .port 443],
      .not (.oneOf [.path (some ⟨some (.start, "/admin"), false⟩),
        .destination ⟨"10.0.0.0", some 8⟩])],
      .header ⟨":method", some (.text ⟨some (.exact, "GET"), false⟩), false⟩]
  principals :=
    [.all [.authenticated (some ⟨some (.regex, ".*/ns/shop/.*"), false⟩),
      .not (.remoteAddress ⟨"192.0.2.0", some 24⟩)]]

def shopRequest : Request where
  target := ⟨"cart.shop", 443, "GET", "/cart"⟩
  headers := default
  query := default
  caller := ⟨"cluster.local/ns/shop/sa/web", "", "198.51.100.7", "172.16.0.1", "198.51.100.7"⟩

theorem shopRule_permissionsCanonical :
    ∀ permission ∈ shopRule.permissions, permission.IsCanonical := by
  have isPort {number : Nat} (within : 1 ≤ number ∧ number ≤ 65535) :
      (Permission.port number).IsAbout .port := .port within
  have ports : Permission.IsItem (.oneOf [.port 80, .port 443]) := by
    refine .oneOf (List.cons_ne_nil _ _) ?_ ⟨.port, ?_⟩
    · exact List.forall_mem_cons.mpr ⟨⟨⟨_, isPort (by decide)⟩, nofun⟩,
        List.forall_mem_singleton.mpr ⟨⟨_, isPort (by decide)⟩, nofun⟩⟩
    · exact List.forall_mem_cons.mpr ⟨isPort (by decide),
        List.forall_mem_singleton.mpr (isPort (by decide))⟩
  have others : Permission.IsItem (.not (.oneOf [.path (some ⟨some (.start, "/admin"), false⟩),
      .destination ⟨"10.0.0.0", some 8⟩])) :=
    .notOneOf (List.cons_ne_nil _ _)
      (List.forall_mem_cons.mpr ⟨⟨⟨_, .path (by decide +kernel)⟩, nofun⟩,
        List.forall_mem_singleton.mpr ⟨⟨_, .destination⟩, nofun⟩⟩)
  have method : Permission.IsItem
      (.header ⟨":method", some (.text ⟨some (.exact, "GET"), false⟩), false⟩) :=
    .leaf ⟨⟨_, .method rfl (by decide +kernel)⟩, by rintro _ ⟨⟩; rfl⟩
  have both := List.forall_mem_cons.mpr ⟨ports, List.forall_mem_singleton.mpr others⟩
  exact List.forall_mem_cons.mpr ⟨.all both, List.forall_mem_singleton.mpr (.item method)⟩

theorem shopRule_principalsCanonical :
    ∀ principal ∈ shopRule.principals, principal.IsCanonical := by
  have converts : TextPattern.matcher? ⟨some (.regex, ".*/ns/shop/.*"), false⟩ =
      some ⟨.regex, ".*/ns/shop/.*", false⟩ := by decide +kernel
  have asks : Principal.AsksForNamespace ⟨.regex, ".*/ns/shop/.*", false⟩ "shop" :=
    ⟨rfl, by decide +kernel, rfl⟩
  have workload : Principal.IsItem
      (.authenticated (some ⟨some (.regex, ".*/ns/shop/.*"), false⟩)) :=
    .leaf ⟨⟨_, .namespaceName converts asks⟩, nofun⟩
  have office : Principal.IsItem (.not (.remoteAddress ⟨"192.0.2.0", some 24⟩)) :=
    .notLeaf ⟨⟨_, .remote⟩, nofun⟩
  have both := List.forall_mem_cons.mpr ⟨workload, List.forall_mem_singleton.mpr office⟩
  exact List.forall_mem_singleton.mpr (.all both)

theorem isAllowed_shopRule :
    ((Store.empty.apply (AccessRules.snapshot ⟨0, [("shop", shopRule)]⟩)).authorize
      shopRequest).isAllowed = true :=
  (isAllowed_single_iff "shop" 0 shopRule rfl shopRule_permissionsCanonical
    shopRule_principalsCanonical (by decide) shopRequest).mpr
      ⟨by decide +kernel, by decide +kernel⟩

end Mesh.AccessRule

end MeshAccess
