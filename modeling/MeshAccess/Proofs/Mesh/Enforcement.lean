import MeshAccess.Proofs.Mesh.Negation
import MeshAccess.Proofs.Mesh.SingleRule

/-! This file says what a store enforces that has only the policies of one access rule. -/

namespace MeshAccess

open Policy

namespace Policy

/-- A registry whose policies were all replaced is empty if no policies were given. -/
theorem Registry.isEmpty_replaceAll {α : Type} (registry : Registry α)
    (policies : List (NamedRule α)) :
    (registry.replaceAll policies).isEmpty = policies.isEmpty := by
  rw [Bool.eq_iff_iff, (represents_replaceAll registry policies).isEmpty_iff, List.isEmpty_iff]
  constructor
  · intro none
    refine List.eq_nil_iff_forall_not_mem.mpr fun policy member => ?_
    have noLast : last? policies policy.name = Option.none := by
      have unregistered := none policy.name
      rw [Operation.foldl_put] at unregistered
      cases last : last? policies policy.name with
      | none => rfl
      | some other =>
          rw [last] at unregistered
          cases unregistered
    exact lastNamed?_eq_none_iff.mp noLast policy member rfl
  · rintro rfl name
    rfl

theorem IdentityRule.accepts_of_isEmpty {rule : IdentityRule} (isEmpty : rule.isEmpty = true)
    (claims : Token.Claims) : rule.accepts claims = true := by
  simp only [IdentityRule.isEmpty, Bool.and_eq_true] at isEmpty
  obtain ⟨⟨⟨principals, audiences⟩, presenters⟩, noClaims⟩ := isEmpty
  have unasked : rule.acceptsAudiences claims.audiences = true := by
    rw [acceptsAudiences]
    split
    · exact audiences
    · exact Match.Condition.holds_of_isEmpty audiences _
  have unnamed : rule.acceptsClaims claims = true := by
    rw [acceptsClaims, List.isEmpty_iff.mp noClaims]
    rfl
  rw [accepts, Match.Condition.holds_of_isEmpty presenters,
    Match.Condition.holds_of_isEmpty principals, unasked, unnamed]
  rfl

end Policy

namespace Mesh.AccessRule

variable (name : String) {rule : AccessRule} {rules : Principal.Rules}

/-- The check of the claims is passed if nothing is asked of them. -/
theorem permits_identities
    (made : rule.principalRules = [rules] ∨ rule.principalRules = [] ∧ rules = .empty)
    (claims : Option Token.Claims) :
    (!(Store.empty.apply (rule.snapshot name .allow)).checksClaims claims ||
        (Store.empty.apply (rule.snapshot name .allow)).permitsClaims claims) =
      (rules.identity.isEmpty || claims.any rules.identity.accepts) := by
  have identities : (Store.empty.apply (rule.snapshot name .allow)).identities =
      Registry.empty.replaceAll
        (policy name .allow rules.identity rules.identity.isEmpty) := by
    rw [Store.apply, snapshot_identities, flatMap_principalRules made _ rfl]
    rfl
  rw [Store.checksClaims, identities, Registry.isEmpty_replaceAll]
  cases claims with
  | none => cases given : rules.identity.isEmpty <;> simp [policy, Store.permitsClaims]
  | some token =>
      have trivially (none : rules.identity.isEmpty = true) : rules.identity.accepts token = true :=
        IdentityRule.accepts_of_isEmpty none token
      have passed := Registry.permits_single name rules.identity rules.identity.isEmpty
        (·.accepts token) trivially
      rw [Store.permitsClaims, identities, passed]
      cases given : rules.identity.isEmpty with
      | true => simp [trivially given]
      | false => simp

/-- The checks are passed together exactly when the rules of the permissions and those of the
principal are. -/
theorem permits_apply
    (made : rule.principalRules = [rules] ∨ rule.principalRules = [] ∧ rules = .empty)
    (request : Request) (claims : Option Token.Claims) :
    (Store.empty.apply (rule.snapshot name .allow)).permits request claims =
      (rule.permitted.accepts request && rules.admits request claims) := by
  rw [Store.permits, permits_identities name made, Store.permitsConnection, Store.permitsTarget,
    Store.permitsCaller, Store.permitsHeaders]
  simp only [Store.apply, Store.empty]
  rw [permits_connections name made, permits_targets, permits_callers name made,
    permits_headers name made, Permission.Rules.accepts, Principal.Rules.admits,
    Principal.Rules.accepts]
  ac_rfl

end Mesh.AccessRule

end MeshAccess
