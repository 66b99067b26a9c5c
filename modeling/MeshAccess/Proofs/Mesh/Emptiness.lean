import MeshAccess.Mesh.Permission
import MeshAccess.Mesh.Principal
import MeshAccess.Proofs.NameMap
import MeshAccess.Proofs.NameSet

/-! This file says when permissions and principals constrain nothing. -/

namespace MeshAccess

open Match
open Policy

namespace Match.Condition

variable {α : Type}

/-- A condition gets groups only from groups with matchers. -/
theorem isEmpty_push (condition : Condition α) (group : Group α) :
    (condition.push group).isEmpty = (condition.isEmpty && group.isEmpty) := by
  rw [push]
  cases without : group.isEmpty with
  | true => simp
  | false => simp [isEmpty]

theorem eq_empty_of_isEmpty {condition : Condition α} (none : condition.isEmpty = true) :
    condition = .empty := by
  have noGroups : condition.groups = [] := List.isEmpty_iff.mp none
  cases condition
  cases noGroups
  rfl

end Match.Condition

namespace NameMap

variable {α : Type}

/-- A map with an entry put into it is not empty. -/
theorem isEmpty_insert (map : NameMap α) (name : String) (value : α) :
    (map.insert name value).isEmpty = false := by
  have found : (map.insert name value).find? name = some value := by simp [find?_insert]
  rw [← Bool.not_eq_true, isEmpty_iff]
  intro absent
  rw [absent name] at found
  cases found

theorem isEmpty_foldl_insert {β : Type} (nameOf : β → String) (valueOf : NameMap α → β → α)
    (items : List β) (map : NameMap α) :
    (items.foldl (fun map item => map.insert (nameOf item) (valueOf map item)) map).isEmpty =
      (map.isEmpty && items.isEmpty) := by
  induction items generalizing map with
  | nil => simp
  | cons item rest inductionHypothesis =>
      rw [List.foldl_cons, inductionHypothesis, isEmpty_insert]
      simp

end NameMap

theorem Policy.TargetRule.eq_empty_of_isEmpty {rule : TargetRule} (none : rule.isEmpty = true) :
    rule = .empty := by
  simp only [isEmpty, Bool.and_eq_true] at none
  obtain ⟨⟨⟨hosts, ports⟩, methods⟩, paths⟩ := none
  have noHosts : rule.hosts = .empty := Condition.eq_empty_of_isEmpty hosts
  have noPorts : rule.ports = .empty := Condition.eq_empty_of_isEmpty ports
  have noMethods : rule.methods = .empty := Condition.eq_empty_of_isEmpty methods
  have noPaths : rule.paths = .empty := Condition.eq_empty_of_isEmpty paths
  cases rule
  cases noHosts
  cases noPorts
  cases noMethods
  cases noPaths
  rfl

namespace Mesh

namespace Permission

/-- No test is made at all exactly when none is made about any part. -/
theorem Test.isEmpty_eq (tests : List Test) :
    tests.isEmpty = ((tests.filterMap host?).isEmpty && (tests.filterMap port?).isEmpty &&
      (tests.filterMap method?).isEmpty && (tests.filterMap path?).isEmpty &&
        (tests.filterMap destination?).isEmpty) := by
  cases tests with
  | nil => rfl
  | cons test rest => cases test <;> simp [host?, port?, method?, path?, destination?]

namespace Rules

/-- Nothing is asked of a request. -/
def isEmpty (rules : Rules) : Bool := rules.target.isEmpty && rules.destinations.isEmpty

theorem eq_empty_iff (rules : Rules) : rules = .empty ↔ rules.isEmpty = true := by
  constructor
  · rintro rfl
    rfl
  · intro none
    rw [isEmpty, Bool.and_eq_true] at none
    have target : rules.target = .empty := TargetRule.eq_empty_of_isEmpty none.1
    have destinations : rules.destinations = .empty := Condition.eq_empty_of_isEmpty none.2
    cases rules
    cases target
    cases destinations
    rfl

theorem isEmpty_push (rules : Rules) (tests : List Test × Bool) :
    (rules.push tests).isEmpty = (rules.isEmpty && tests.1.isEmpty) := by
  rw [Test.isEmpty_eq, isEmpty, isEmpty, TargetRule.isEmpty, TargetRule.isEmpty, push]
  simp only [Condition.isEmpty_push, Group.isEmpty]
  ac_rfl

end Rules

end Permission

namespace Principal

theorem Test.isEmpty_eq (tests : List Test) :
    tests.isEmpty = ((tests.filterMap principal?).isEmpty &&
      (tests.filterMap namespaceName?).isEmpty && (tests.filterMap source?).isEmpty &&
      (tests.filterMap remote?).isEmpty && (tests.filterMap requestPrincipal?).isEmpty &&
      (tests.filterMap audience?).isEmpty && (tests.filterMap presenter?).isEmpty &&
      (tests.filterMap claim?).isEmpty && (tests.filterMap header?).isEmpty) := by
  cases tests with
  | nil => rfl
  | cons test rest =>
      cases test <;> simp [principal?, namespaceName?, source?, remote?, requestPrincipal?,
        audience?, presenter?, claim?, header?]

namespace Rules

/-- Nothing is asked of a caller. -/
def isEmpty (rules : Rules) : Bool :=
  rules.caller.isEmpty && rules.connection.isEmpty && rules.identity.isEmpty &&
    rules.headers.isEmpty

/-- Tests of claims make entries. -/
theorem isEmpty_pushClaims (claims : NameMap (Condition StringMatcher))
    (tests : List (String × StringMatcher)) (negated : Bool) :
    (pushClaims claims tests negated).isEmpty = (claims.isEmpty && tests.isEmpty) := by
  have folded := NameMap.isEmpty_foldl_insert id (fun claims name =>
    ((claims.find? name).getD .empty).push
      ⟨(tests.filter fun test => test.1 = name).map Prod.snd, negated⟩)
    (NameSet.ofList (tests.map Prod.fst)).toList claims
  refine folded.trans (congrArg (claims.isEmpty && ·) ?_)
  cases tests with
  | nil => rfl
  | cons test rest =>
      have named : test.1 ∈ (NameSet.ofList ((test :: rest).map Prod.fst)).toList :=
        NameSet.mem_ofList.mpr List.mem_cons_self
      rw [List.isEmpty_eq_false_iff_exists_mem.mpr ⟨test.1, named⟩]
      rfl

theorem isEmpty_push (rules : Rules) (tests : List Test × Bool) :
    (rules.push tests).isEmpty = (rules.isEmpty && tests.1.isEmpty) := by
  have caller : (rules.push tests).caller.isEmpty = (rules.caller.isEmpty &&
      ((tests.1.filterMap Test.principal?).isEmpty &&
        (tests.1.filterMap Test.namespaceName?).isEmpty)) := by
    rw [CallerRule.isEmpty, CallerRule.isEmpty, push]
    simp only [Condition.isEmpty_push, Group.isEmpty]
    ac_rfl
  have connection : (rules.push tests).connection.isEmpty = (rules.connection.isEmpty &&
      ((tests.1.filterMap Test.source?).isEmpty && (tests.1.filterMap Test.remote?).isEmpty)) := by
    rw [ConnectionRule.isEmpty, ConnectionRule.isEmpty, push]
    simp only [Condition.isEmpty_push, Group.isEmpty]
    ac_rfl
  have identity : (rules.push tests).identity.isEmpty = (rules.identity.isEmpty &&
      ((tests.1.filterMap Test.requestPrincipal?).isEmpty &&
        (tests.1.filterMap Test.audience?).isEmpty && (tests.1.filterMap Test.presenter?).isEmpty &&
          (tests.1.filterMap Test.claim?).isEmpty)) := by
    rw [IdentityRule.isEmpty, IdentityRule.isEmpty, push]
    simp only [Condition.isEmpty_push, isEmpty_pushClaims, Group.isEmpty]
    ac_rfl
  have headers : (rules.push tests).headers.isEmpty =
      (rules.headers.isEmpty && (tests.1.filterMap Test.header?).isEmpty) :=
    Condition.isEmpty_push _ _
  rw [Test.isEmpty_eq, isEmpty, caller, connection, identity, headers, isEmpty]
  ac_rfl

end Rules

end Principal

end Mesh

end MeshAccess
