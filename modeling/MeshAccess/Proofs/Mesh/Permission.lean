import MeshAccess.Authorization
import MeshAccess.Mesh.Permission
import MeshAccess.Proofs.Mesh.Alternatives

/-! This file says what permissions mean, and that the rules made of them mean the same. -/

namespace MeshAccess.Mesh.Permission

open Match
open Policy

/-- The parts of a request that permissions are about. -/
inductive Part where
  | host
  | port
  | method
  | path
  | destination
  deriving DecidableEq

namespace Part

def all : List Part := [.host, .port, .method, .path, .destination]

theorem mem_all (part : Part) : part ∈ all := by
  cases part <;> decide

end Part

namespace Test

def part : Test → Part
  | .host _ => .host
  | .port _ => .port
  | .method _ => .method
  | .path _ => .path
  | .destination _ => .destination

/-- The matcher accepts the part of a request that it is about. -/
def accepts (request : Request) : Test → Bool
  | .host matcher => matcher.accepts request.target.host
  | .port matcher => matcher.accepts request.target.port
  | .method matcher => matcher.accepts request.target.method
  | .path matcher => matcher.accepts request.target.path
  | .destination range => range.matchesText request.caller.destinationAddress

end Test

/-- The permission makes a matcher for this part of a request. -/
inductive IsAbout : Permission → Part → Prop where
  | port {number : Nat} (isPort : 1 ≤ number ∧ number ≤ 65535) : IsAbout (.port number) .port
  | host {pattern : HeaderPattern} (isNamed : pattern.name = ":authority")
      (converts : pattern.valueMatcher?.isSome) : IsAbout (.header pattern) .host
  | method {pattern : HeaderPattern} (isNamed : pattern.name = ":method")
      (converts : pattern.valueMatcher?.isSome) : IsAbout (.header pattern) .method
  | path {pattern : TextPattern} (converts : pattern.matcher?.isSome) :
      IsAbout (.path (some pattern)) .path
  | destination {range : Net.CidrRange} : IsAbout (.destination range) .destination

/-- A permission that makes a matcher by itself and does not ask for the opposite. -/
structure IsLeaf (leaf : Permission) : Prop where
  isAbout : ∃ part, leaf.IsAbout part
  plain : ∀ pattern, leaf = .header pattern → pattern.inverted = false

/-- All leaves are about one part of a request. -/
def AboutOnePart (leaves : List Permission) : Prop :=
  ∃ part, ∀ leaf ∈ leaves, leaf.IsAbout part

/-- A leaf, some leaves about one part, or the negation of a leaf or of any leaves. -/
inductive IsItem : Permission → Prop where
  | leaf {leaf : Permission} (isLeaf : leaf.IsLeaf) : IsItem leaf
  | oneOf {leaves : List Permission} (nonEmpty : leaves ≠ [])
      (areLeaves : ∀ leaf ∈ leaves, leaf.IsLeaf) (onePart : AboutOnePart leaves) :
      IsItem (.oneOf leaves)
  | notLeaf {leaf : Permission} (isLeaf : leaf.IsLeaf) : IsItem (.not leaf)
  | notOneOf {leaves : List Permission} (nonEmpty : leaves ≠ [])
      (areLeaves : ∀ leaf ∈ leaves, leaf.IsLeaf) : IsItem (.not (.oneOf leaves))

/-- One item, or a conjunction of items. -/
inductive IsCanonical : Permission → Prop where
  | item {permission : Permission} (isItem : permission.IsItem) : IsCanonical permission
  | all {items : List Permission} (areItems : ∀ item ∈ items, item.IsItem) :
      IsCanonical (.all items)

/-- What a leaf says about a request. -/
def leafHolds (request : Request) : Permission → Bool
  | .port number => request.target.port = number
  | .header pattern =>
      if pattern.name = ":authority" then
        pattern.valueMatcher?.any (·.accepts request.target.host)
      else if pattern.name = ":method" then
        pattern.valueMatcher?.any (·.accepts request.target.method)
      else false
  | .path pattern => (pattern.bind TextPattern.matcher?).any (·.accepts request.target.path)
  | .destination range => range.matchesText request.caller.destinationAddress
  | _ => false

/-- An item holds when one of its leaves does, or when none does and it is negated. -/
def itemHolds (request : Request) : Permission → Bool
  | .oneOf leaves => leaves.any (leafHolds request)
  | .not (.oneOf leaves) => !leaves.any (leafHolds request)
  | .not leaf => !leafHolds request leaf
  | leaf => leafHolds request leaf

/-- A conjunction holds when all of its items do. -/
def holds (request : Request) : Permission → Bool
  | .all items => items.all (itemHolds request)
  | item => item.itemHolds request

theorem itemHolds_eq (request : Request) (item : Permission) :
    item.itemHolds request =
      (item.alternatives.1.any (leafHolds request) != item.alternatives.2) := by
  cases item with
  | not inner => cases inner <;> simp [itemHolds, alternatives]
  | oneOf _ => simp [itemHolds, alternatives]
  | _ => simp [itemHolds, alternatives]

theorem IsAbout.map_part_test? {leaf : Permission} {part : Part} (about : leaf.IsAbout part) :
    leaf.test?.map Test.part = some part := by
  cases about with
  | port isPort => simp [test?, maxPort, isPort, Test.part]
  | host isNamed converts =>
      obtain ⟨matcher, made⟩ := Option.isSome_iff_exists.mp converts
      simp [test?, authorityHeader, isNamed, made, Test.part]
  | method isNamed converts =>
      obtain ⟨matcher, made⟩ := Option.isSome_iff_exists.mp converts
      simp [test?, authorityHeader, methodHeader, isNamed, made, Test.part]
  | path converts =>
      obtain ⟨matcher, made⟩ := Option.isSome_iff_exists.mp converts
      simp [test?, made, Test.part]
  | destination => rfl

theorem isAbout_of_test? {leaf : Permission} {test : Test} (isTest : leaf.test? = some test) :
    leaf.IsAbout test.part := by
  cases leaf with
  | port number =>
      simp only [test?, Bool.and_eq_true, decide_eq_true_eq, Option.ite_none_right_eq_some,
        Option.some_inj] at isTest
      obtain ⟨isPort, rfl⟩ := isTest
      exact .port isPort
  | header pattern =>
      rw [test?] at isTest
      split at isTest
      next isNamed =>
        obtain ⟨matcher, converts, rfl⟩ := Option.map_eq_some_iff.mp isTest
        exact .host isNamed (Option.isSome_of_mem converts)
      next =>
        split at isTest
        next isNamed =>
          obtain ⟨matcher, converts, rfl⟩ := Option.map_eq_some_iff.mp isTest
          exact .method isNamed (Option.isSome_of_mem converts)
        next => cases isTest
  | path pattern =>
      obtain ⟨matcher, converts, rfl⟩ := Option.map_eq_some_iff.mp isTest
      obtain ⟨pattern, rfl, converts⟩ := Option.bind_eq_some_iff.mp converts
      exact .path (Option.isSome_of_mem converts)
  | destination range =>
      cases isTest
      exact .destination
  | _ => cases isTest

/-- The tests of the translation are about the parts that the permissions are about. -/
theorem isAbout_iff {leaf : Permission} {part : Part} :
    leaf.IsAbout part ↔ leaf.test?.map Test.part = some part := by
  refine ⟨IsAbout.map_part_test?, fun made => ?_⟩
  obtain ⟨test, isTest, rfl⟩ := Option.map_eq_some_iff.mp made
  exact isAbout_of_test? isTest

theorem IsAbout.isSome_test? {leaf : Permission} {part : Part} (about : leaf.IsAbout part) :
    leaf.test?.isSome := by
  rw [← Option.isSome_map, about.map_part_test?]
  rfl

/-- The test of the translation accepts the requests for which the leaf holds. -/
theorem IsAbout.leafHolds_eq {leaf : Permission} {part : Part} (about : leaf.IsAbout part)
    (request : Request) : leaf.leafHolds request = leaf.test?.any (Test.accepts request) := by
  cases about with
  | port isPort =>
      simp [leafHolds, test?, maxPort, isPort, Test.accepts, PortMatcher.accepts, eq_comm]
  | host isNamed converts =>
      simp [leafHolds, test?, authorityHeader, isNamed, Option.any_map, Test.accepts]
  | method isNamed converts =>
      simp [leafHolds, test?, authorityHeader, methodHeader, isNamed, Option.any_map, Test.accepts]
  | path converts => simp [leafHolds, test?, Option.any_map, Test.accepts]
  | destination => rfl

theorem IsLeaf.isSome_test? {leaf : Permission} (isLeaf : leaf.IsLeaf) : leaf.test?.isSome := by
  obtain ⟨part, about⟩ := isLeaf.isAbout
  exact about.isSome_test?

theorem IsLeaf.leafHolds_eq {leaf : Permission} (isLeaf : leaf.IsLeaf) (request : Request) :
    leaf.leafHolds request = leaf.test?.any (Test.accepts request) := by
  obtain ⟨part, about⟩ := isLeaf.isAbout
  exact about.leafHolds_eq request

theorem IsLeaf.alternatives_eq {leaf : Permission} (isLeaf : leaf.IsLeaf) :
    leaf.alternatives = ([leaf], false) ∧ leaf.not.alternatives = ([leaf], true) := by
  obtain ⟨part, about⟩ := isLeaf.isAbout
  cases about <;> exact ⟨rfl, rfl⟩

theorem IsItem.areLeaves {item : Permission} (isItem : item.IsItem) :
    ∀ leaf ∈ item.alternatives.1, leaf.IsLeaf := by
  cases isItem with
  | leaf isLeaf =>
      rw [isLeaf.alternatives_eq.1]
      exact List.forall_mem_singleton.mpr isLeaf
  | oneOf _ areLeaves _ => exact areLeaves
  | notLeaf isLeaf =>
      rw [isLeaf.alternatives_eq.2]
      exact List.forall_mem_singleton.mpr isLeaf
  | notOneOf _ areLeaves => exact areLeaves

theorem AboutOnePart.areDivisible {leaves : List Permission} (onePart : AboutOnePart leaves)
    (nonEmpty : leaves ≠ []) : AreDivisible test? Test.part leaves false := by
  obtain ⟨part, about⟩ := onePart
  refine ⟨nonEmpty, fun leaf member => (about leaf member).isSome_test?, ?_⟩
  intro _ first isFirst second isSecond
  rw [(about first isFirst).map_part_test?, (about second isSecond).map_part_test?]

/-- The alternatives of an item are leaves, about one part unless they are negated. -/
theorem IsItem.areDivisible {item : Permission} (isItem : item.IsItem) :
    AreDivisible test? Test.part item.alternatives.1 item.alternatives.2 := by
  cases isItem with
  | leaf isLeaf =>
      rw [isLeaf.alternatives_eq.1]
      exact .single isLeaf.isSome_test? false
  | oneOf nonEmpty _ onePart => exact onePart.areDivisible nonEmpty
  | notLeaf isLeaf =>
      rw [isLeaf.alternatives_eq.2]
      exact .single isLeaf.isSome_test? true
  | notOneOf nonEmpty areLeaves =>
      exact ⟨nonEmpty, fun leaf member => (areLeaves leaf member).isSome_test?,
        fun plain => nomatch plain⟩

theorem IsItem.isAny_eq_false {item : Permission} (isItem : item.IsItem) : item.isAny = false := by
  cases isItem with
  | leaf isLeaf =>
      obtain ⟨part, about⟩ := isLeaf.isAbout
      cases about <;> rfl
  | _ => rfl

theorem IsItem.items_eq {item : Permission} (isItem : item.IsItem) : item.items = [item] := by
  cases isItem with
  | leaf isLeaf =>
      obtain ⟨part, about⟩ := isLeaf.isAbout
      cases about <;> rfl
  | _ => rfl

theorem IsItem.holds_eq {item : Permission} (isItem : item.IsItem) (request : Request) :
    item.holds request = item.itemHolds request := by
  cases isItem with
  | leaf isLeaf =>
      obtain ⟨part, about⟩ := isLeaf.isAbout
      cases about <;> rfl
  | _ => rfl

theorem IsCanonical.holds_eq {permission : Permission} (isCanonical : permission.IsCanonical)
    (request : Request) : permission.holds request = permission.items.all (itemHolds request) := by
  cases isCanonical with
  | item isItem => rw [isItem.holds_eq, isItem.items_eq, List.all_cons, List.all_nil, Bool.and_true]
  | all => rfl

/-- A canonical permission is the conjunction of items. -/
theorem IsCanonical.areItems {permission : Permission} (isCanonical : permission.IsCanonical) :
    ∀ item ∈ permission.items, item.IsItem := by
  cases isCanonical with
  | item isItem =>
      rw [isItem.items_eq]
      exact List.forall_mem_singleton.mpr isItem
  | all areItems => exact areItems

namespace Rules

/-- A request passes both rules that permissions make. -/
def accepts (rules : Rules) (request : Request) : Bool :=
  rules.target.accepts request.target &&
    rules.destinations.holds (·.matchesText request.caller.destinationAddress)

/-- A new item divides its tests over the five conditions of the rules. -/
theorem accepts_push (rules : Rules) (tests : List Test × Bool) (request : Request) :
    (rules.push tests).accepts request =
      (rules.accepts request &&
        Part.all.all (holdsForPart Test.part (Test.accepts request) tests.1 tests.2)) := by
  rw [accepts, TargetRule.accepts, push]
  simp only [Part.all, List.all_cons, List.all_nil, Bool.and_true]
  rw [holds_push_filterMap _ _ _ Test.part (Test.accepts request) .host
      (fun test => by cases test <;> rfl),
    holds_push_filterMap _ _ _ Test.part (Test.accepts request) .port
      (fun test => by cases test <;> rfl),
    holds_push_filterMap _ _ _ Test.part (Test.accepts request) .method
      (fun test => by cases test <;> rfl),
    holds_push_filterMap _ _ _ Test.part (Test.accepts request) .path
      (fun test => by cases test <;> rfl),
    holds_push_filterMap _ _ _ Test.part (Test.accepts request) .destination
      (fun test => by cases test <;> rfl),
    accepts, TargetRule.accepts]
  ac_rfl

@[simp] theorem accepts_empty (request : Request) : empty.accepts request = true := rfl

theorem accepts_push_item (rules : Rules) {item : Permission} (isItem : item.IsItem)
    (request : Request) :
    (rules.push item.tests).accepts request =
      (rules.accepts request && item.itemHolds request) := by
  rw [accepts_push, itemHolds_eq]
  exact congrArg (rules.accepts request && ·)
    (isItem.areDivisible.all_parts _ _ (fun test _ => Part.mem_all test.part)
      fun leaf member => (isItem.areLeaves leaf member).leafHolds_eq request)

/-- A canonical permission adds that it holds. -/
theorem accepts_add (rules : Rules) {permission : Permission}
    (isCanonical : permission.IsCanonical) (request : Request) :
    (rules.add permission).accepts request =
      (rules.accepts request && permission.holds request) := by
  have areItems := isCanonical.areItems
  have notAny : permission.items.any isAny = false := by
    rw [List.any_eq_false]
    exact fun item member => ne_true_of_eq_false (areItems item member).isAny_eq_false
  rw [add, if_neg (ne_true_of_eq_false notAny), List.foldl_map, isCanonical.holds_eq]
  exact foldl_eq_and_all (accepts · request) _ _ _ rules fun state item member =>
    accepts_push_item state (areItems item member) request

/-- The rules of canonical permissions mean what the permissions mean together. -/
theorem accepts_ofPermissions {permissions : List Permission}
    (areCanonical : ∀ permission ∈ permissions, permission.IsCanonical) (request : Request) :
    (ofPermissions permissions).accepts request = permissions.all (holds request) := by
  rw [ofPermissions, foldl_eq_and_all (accepts · request) add _ permissions empty
    fun rules permission member => accepts_add rules (areCanonical permission member) request,
    accepts_empty, Bool.true_and]

end Rules

end MeshAccess.Mesh.Permission
