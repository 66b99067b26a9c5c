import MeshAccess.Authorization
import MeshAccess.Mesh.Principal
import MeshAccess.Proofs.Match.StringMatcher
import MeshAccess.Proofs.Mesh.Alternatives

/-! This file says what principals mean, and that the rules made of them mean the same. -/

namespace MeshAccess

/-- A text between slashes. -/
structure IsSegment (text : String) : Prop where
  nonEmpty : text ≠ ""
  noSlash : '/' ∉ text.toList

instance (text : String) : Decidable (IsSegment text) :=
  decidable_of_iff (text ≠ "" ∧ '/' ∉ text.toList)
    ⟨fun ⟨nonEmpty, noSlash⟩ => ⟨nonEmpty, noSlash⟩, fun isSegment => ⟨isSegment.1, isSegment.2⟩⟩

theorem takeWhile_segment {segment : List Char} (noSlash : '/' ∉ segment) (rest : List Char) :
    (segment ++ '/' :: rest).takeWhile (· ≠ '/') = segment := by
  rw [List.takeWhile_append_of_pos, List.takeWhile_cons_of_neg (by simp), List.append_nil]
  exact fun character member => decide_eq_true fun same => noSlash (same ▸ member)

namespace Mesh.Principal

open Match
open Policy

/-- The pattern for the principals of a namespace. -/
def namespacePattern (name : String) : String := ".*/ns/" ++ name ++ "/.*"

theorem namespacePattern_toList (name : String) :
    (namespacePattern name).toList = namespaceStart ++ (name.toList ++ '/' :: ['.', '*']) := by
  simp [namespacePattern, namespaceStart]

/-- The patterns for the principals of a namespace are recognised, and no others are. -/
theorem namespaceOfPattern?_eq_some_iff {pattern name : String} :
    namespaceOfPattern? pattern = some name ↔ IsSegment name ∧ pattern = namespacePattern name := by
  simp only [namespaceOfPattern?, Option.ite_none_right_eq_some, Bool.and_eq_true,
    decide_eq_true_iff, Bool.not_eq_true', List.isEmpty_eq_false_iff, Option.some_inj]
  constructor
  · rintro ⟨⟨⟨isStart, nonEmpty⟩, isEnd⟩, rfl⟩
    obtain ⟨rest, split⟩ := List.isPrefixOf_iff_prefix.mp isStart
    rw [← split, List.drop_left] at nonEmpty isEnd ⊢
    have rest_eq := List.prefix_iff_eq_append.mp (List.takeWhile_prefix (· ≠ '/') (l := rest))
    rw [isEnd] at rest_eq
    refine ⟨⟨mt String.ofList_eq_empty_iff.mp nonEmpty, ?_⟩, ?_⟩
    · rw [String.toList_ofList]
      intro member
      simpa using List.mem_takeWhile_imp member
    · rw [← String.toList_inj, namespacePattern_toList, String.toList_ofList, ← split]
      exact congrArg (namespaceStart ++ ·) rest_eq.symm
  · rintro ⟨isSegment, rfl⟩
    rw [namespacePattern_toList, List.drop_left, takeWhile_segment isSegment.noSlash,
      List.drop_left, String.ofList_toList]
    refine ⟨⟨⟨List.isPrefixOf_iff_prefix.mpr (List.prefix_append _ _), ?_⟩, rfl⟩, rfl⟩
    exact mt String.toList_eq_nil_iff.mp isSegment.nonEmpty

/-- The parts of a request and of its token that principals are about. -/
inductive Part where
  | principal
  | namespaceName
  | source
  | remote
  | requestPrincipal
  | audience
  | presenter
  | claim (name : String)
  | header
  deriving DecidableEq

/-- The parts that can be looked at without a token. -/
def Part.ofRequest : List Part := [.principal, .namespaceName, .source, .remote, .header]

namespace Test

def part : Test → Part
  | .principal _ => .principal
  | .namespaceName _ => .namespaceName
  | .source _ => .source
  | .remote _ => .remote
  | .requestPrincipal _ => .requestPrincipal
  | .audience _ => .audience
  | .presenter _ => .presenter
  | .claim name _ => .claim name
  | .header _ => .header

/-- The matcher accepts the part of a request or of its claims that it is about. -/
def accepts (request : Request) (claims : Option Token.Claims) : Test → Bool
  | .principal matcher => matcher.accepts request.caller.principal
  | .namespaceName matcher => matcher.acceptsOptional request.caller.namespace?
  | .source range => range.matchesText request.caller.sourceAddress
  | .remote range => range.matchesText request.caller.remoteAddress
  | .requestPrincipal matcher => claims.any fun claims => matcher.accepts claims.requestPrincipal
  | .audience matcher => claims.any fun claims => claims.audiences.any matcher.accepts
  | .presenter matcher => claims.any fun claims => matcher.acceptsOptional claims.presenter?
  | .claim name matcher => claims.any fun claims => (claims.texts name).any matcher.accepts
  | .header matcher => matcher.accepts request.headers

end Test

theorem Test.skips_token {test : Test} (about : test.part ∈ Part.ofRequest) :
    test.requestPrincipal? = none ∧ test.audience? = none ∧ test.presenter? = none ∧
      test.claim? = none := by
  cases test <;>
    simp [part, Part.ofRequest, requestPrincipal?, audience?, presenter?, claim?] at about ⊢

/-- The matcher is a regular expression that asks for a namespace of this name and nothing else. -/
structure AsksForNamespace (matcher : StringMatcher) (name : String) : Prop where
  isRegex : matcher.comparison = .regex
  isSegment : IsSegment name
  spelled : matcher.pattern = namespacePattern name

theorem asksForNamespace_iff {matcher : StringMatcher} {name : String} :
    AsksForNamespace matcher name ↔
      matcher.comparison = .regex ∧ namespaceOfPattern? matcher.pattern = some name := by
  rw [namespaceOfPattern?_eq_some_iff]
  exact ⟨fun ⟨isRegex, isSegment, spelled⟩ => ⟨isRegex, isSegment, spelled⟩,
    fun ⟨isRegex, isSegment, spelled⟩ => ⟨isRegex, isSegment, spelled⟩⟩

instance (matcher : StringMatcher) (name : String) : Decidable (AsksForNamespace matcher name) :=
  decidable_of_iff _ asksForNamespace_iff.symm

instance (matcher : StringMatcher) : Decidable (∃ name, AsksForNamespace matcher name) :=
  decidable_of_iff
    (matcher.comparison = .regex ∧ (namespaceOfPattern? matcher.pattern).isSome = true) (by
      simp only [asksForNamespace_iff, exists_and_left, Option.isSome_iff_exists])

theorem AsksForNamespace.nameTest_eq {matcher : StringMatcher} {name : String}
    (asks : AsksForNamespace matcher name) :
    nameTest matcher = .namespaceName ⟨.exact, name, false⟩ := by
  obtain ⟨isRegex, isName⟩ := asksForNamespace_iff.mp asks
  rw [nameTest, if_pos isRegex, isName]

theorem nameTest_of_wide {matcher : StringMatcher} (wide : ¬∃ name, AsksForNamespace matcher name) :
    nameTest matcher = .principal matcher := by
  have noName : (if matcher.comparison = .regex then namespaceOfPattern? matcher.pattern
      else none) = none := by
    refine Option.eq_none_iff_forall_ne_some.mpr fun name isName => wide ⟨name, ?_⟩
    exact asksForNamespace_iff.mpr (Option.ite_none_right_eq_some.mp isName)
  rw [nameTest, noName]

/-- A pattern for a namespace has one name, with which the rule compares. -/
theorem AsksForNamespace.accepts_eq {matcher : StringMatcher} {name : String}
    (asks : AsksForNamespace matcher name) :
    (⟨.exact, name, false⟩ : StringMatcher).accepts =
      fun other => AsksForNamespace matcher other := by
  funext other
  rw [Bool.eq_iff_iff, StringMatcher.accepts_exact_iff, decide_eq_true_iff]
  constructor
  · rintro ⟨-, rfl⟩
    exact asks
  · intro asksOther
    have isName := (asksForNamespace_iff.mp asks).2
    rw [(asksForNamespace_iff.mp asksOther).2] at isName
    exact ⟨asksOther.isSegment.nonEmpty, Option.some_inj.mp isName⟩

/-- The first keys of metadata that are compared with one text. -/
def textKeys : List (String × Part) :=
  [("request.auth.principal", .requestPrincipal), ("request.auth.audiences", .audience),
    ("request.auth.presenter", .presenter)]

/-- The principal makes a matcher for this part of a request or of its token. -/
inductive IsAbout : Principal → Part → Prop where
  | principal {pattern : TextPattern} {matcher : StringMatcher}
      (converts : pattern.matcher? = some matcher) (wide : ¬∃ name, AsksForNamespace matcher name) :
      IsAbout (.authenticated (some pattern)) .principal
  | namespaceName {pattern : TextPattern} {matcher : StringMatcher} {name : String}
      (converts : pattern.matcher? = some matcher) (asks : AsksForNamespace matcher name) :
      IsAbout (.authenticated (some pattern)) .namespaceName
  | source {range : Net.CidrRange} : IsAbout (.directAddress range) .source
  | remote {range : Net.CidrRange} : IsAbout (.remoteAddress range) .remote
  | header {pattern : HeaderPattern} (converts : pattern.matcher?.isSome) :
      IsAbout (.header pattern) .header
  | text {key : String} {part : Part} (isKey : (key, part) ∈ textKeys) {rest : List String}
      {pattern : TextPattern} (converts : pattern.matcher?.isSome) {inverted : Bool} :
      IsAbout (.metadata ⟨"istio_authn", key :: rest, some (.text pattern), inverted⟩) part
  | claim {name : String} {rest : List String} {pattern : TextPattern}
      (converts : pattern.matcher?.isSome) {inverted : Bool} :
      IsAbout (.metadata ⟨"istio_authn", "request.auth.claims" :: name :: rest,
        some (.oneOf (.text pattern)), inverted⟩) (.claim name)

/-- A principal that makes a matcher by itself, and not one about a token. -/
structure IsLeaf (leaf : Principal) : Prop where
  isAbout : ∃ part, leaf.IsAbout part
  noToken : ∀ pattern, leaf ≠ .metadata pattern

/-- All leaves are about one part of a request. -/
def AboutOnePart (leaves : List Principal) : Prop :=
  ∃ part, ∀ leaf ∈ leaves, leaf.IsAbout part

/-- A leaf, some leaves about one part, or the negation of a leaf or of any leaves. -/
inductive IsItem : Principal → Prop where
  | leaf {leaf : Principal} (isLeaf : leaf.IsLeaf) : IsItem leaf
  | oneOf {leaves : List Principal} (nonEmpty : leaves ≠ [])
      (areLeaves : ∀ leaf ∈ leaves, leaf.IsLeaf) (onePart : AboutOnePart leaves) :
      IsItem (.oneOf leaves)
  | notLeaf {leaf : Principal} (isLeaf : leaf.IsLeaf) : IsItem (.not leaf)
  | notOneOf {leaves : List Principal} (nonEmpty : leaves ≠ [])
      (areLeaves : ∀ leaf ∈ leaves, leaf.IsLeaf) : IsItem (.not (.oneOf leaves))

/-- One item, or a conjunction of items. -/
inductive IsCanonical : Principal → Prop where
  | item {principal : Principal} (isItem : principal.IsItem) : IsCanonical principal
  | all {items : List Principal} (areItems : ∀ item ∈ items, item.IsItem) :
      IsCanonical (.all items)

/-- What an authenticated name asks of a caller. -/
def authenticates (caller : Caller) (matcher : StringMatcher) : Bool :=
  if ∃ name, AsksForNamespace matcher name then
    caller.namespace?.any (AsksForNamespace matcher ·)
  else matcher.accepts caller.principal

/-- What a leaf says about a request. -/
def leafHolds (request : Request) : Principal → Bool
  | .authenticated pattern =>
      (pattern.bind TextPattern.matcher?).any (authenticates request.caller)
  | .directAddress range => range.matchesText request.caller.sourceAddress
  | .remoteAddress range => range.matchesText request.caller.remoteAddress
  | .header pattern => pattern.matcher?.any (·.accepts request.headers)
  | _ => false

/-- An item holds when one of its leaves does, or when none does and it is negated. -/
def itemHolds (request : Request) : Principal → Bool
  | .oneOf leaves => leaves.any (leafHolds request)
  | .not (.oneOf leaves) => !leaves.any (leafHolds request)
  | .not leaf => !leafHolds request leaf
  | leaf => leafHolds request leaf

/-- A conjunction holds when all of its items do. -/
def holds (request : Request) : Principal → Bool
  | .all items => items.all (itemHolds request)
  | item => item.itemHolds request

theorem itemHolds_eq (request : Request) (item : Principal) :
    item.itemHolds request =
      (item.alternatives.1.any (leafHolds request) != item.alternatives.2) := by
  cases item with
  | not inner => cases inner <;> simp [itemHolds, alternatives]
  | oneOf _ => simp [itemHolds, alternatives]
  | _ => simp [itemHolds, alternatives]

/-- The kinds of metadata that are compared with one text make tests of their parts. -/
theorem textTest?_iff {key : String} {matcher : StringMatcher} {part : Part} :
    (textTest? key matcher).map Test.part = some part ↔ (key, part) ∈ textKeys := by
  rw [textTest?]
  split
  next isKey => simp [textKeys, isKey, Test.part, eq_comm]
  next isOther =>
    split
    next isKey => simp [textKeys, isKey, Test.part, eq_comm]
    next isThird =>
      split
      next isKey => simp [textKeys, isKey, Test.part, eq_comm]
      next isNone => simp [textKeys, isOther, isThird, isNone]

theorem isAbout_of_metadataTest? {pattern : MetadataPattern} {test : Test}
    (isTest : metadataTest? pattern = some test) : IsAbout (.metadata pattern) test.part := by
  obtain ⟨filter, path, value, inverted⟩ := pattern
  rw [metadataTest?] at isTest
  split at isTest
  next => cases isTest
  next isFilter =>
    obtain rfl := not_not.mp isFilter
    dsimp only at isTest
    split at isTest
    next key rest value =>
      split at isTest
      next isKey =>
        subst isKey
        split at isTest
        next name rest text =>
          obtain ⟨matcher, converts, rfl⟩ := Option.map_eq_some_iff.mp isTest
          exact .claim (Option.isSome_of_mem converts)
        next => cases isTest
      next =>
        split at isTest
        next text =>
          obtain ⟨matcher, converts, isText⟩ := Option.bind_eq_some_iff.mp isTest
          have isKey := textTest?_iff.mp (Option.map_eq_some_iff.mpr ⟨test, isText, rfl⟩)
          exact .text isKey (Option.isSome_of_mem converts)
        next => cases isTest
    next => cases isTest

theorem IsAbout.map_part_test? {leaf : Principal} {part : Part} (about : leaf.IsAbout part) :
    leaf.test?.map Test.part = some part := by
  cases about with
  | principal converts wide => simp [test?, converts, nameTest_of_wide wide, Test.part]
  | namespaceName converts asks => simp [test?, converts, asks.nameTest_eq, Test.part]
  | source => rfl
  | remote => rfl
  | header converts =>
      obtain ⟨matcher, made⟩ := Option.isSome_iff_exists.mp converts
      simp [test?, made, Test.part]
  | @text key part isKey rest pattern converts inverted =>
      obtain ⟨matcher, made⟩ := Option.isSome_iff_exists.mp converts
      have noClaim : key ≠ claimsKey := by
        rintro rfl
        simp [textKeys, claimsKey] at isKey
      simpa [test?, metadataTest?, authenticationFilter, noClaim, made] using
        textTest?_iff.mpr isKey
  | claim converts =>
      obtain ⟨matcher, made⟩ := Option.isSome_iff_exists.mp converts
      simp [test?, metadataTest?, authenticationFilter, claimsKey, made, Test.part]

theorem isAbout_of_test? {leaf : Principal} {test : Test} (isTest : leaf.test? = some test) :
    leaf.IsAbout test.part := by
  cases leaf with
  | authenticated pattern =>
      obtain ⟨matcher, converts, rfl⟩ := Option.map_eq_some_iff.mp isTest
      obtain ⟨pattern, rfl, converts⟩ := Option.bind_eq_some_iff.mp converts
      by_cases asks : ∃ name, AsksForNamespace matcher name
      · obtain ⟨name, asks⟩ := asks
        rw [asks.nameTest_eq]
        exact .namespaceName converts asks
      · rw [nameTest_of_wide asks]
        exact .principal converts asks
  | directAddress range =>
      cases isTest
      exact .source
  | remoteAddress range =>
      cases isTest
      exact .remote
  | header pattern =>
      obtain ⟨matcher, converts, rfl⟩ := Option.map_eq_some_iff.mp isTest
      exact .header (Option.isSome_of_mem converts)
  | metadata pattern => exact isAbout_of_metadataTest? isTest
  | _ => cases isTest

/-- The tests of the translation are about the parts that the principals are about. -/
theorem isAbout_iff {leaf : Principal} {part : Part} :
    leaf.IsAbout part ↔ leaf.test?.map Test.part = some part := by
  refine ⟨IsAbout.map_part_test?, fun made => ?_⟩
  obtain ⟨test, isTest, rfl⟩ := Option.map_eq_some_iff.mp made
  exact isAbout_of_test? isTest

theorem IsAbout.isSome_test? {leaf : Principal} {part : Part} (about : leaf.IsAbout part) :
    leaf.test?.isSome := by
  rw [← Option.isSome_map, about.map_part_test?]
  rfl

theorem IsAbout.alternatives_eq {leaf : Principal} {part : Part} (about : leaf.IsAbout part) :
    leaf.alternatives = ([leaf], false) ∧ leaf.not.alternatives = ([leaf], true) := by
  cases about <;> exact ⟨rfl, rfl⟩

theorem IsAbout.isAny_eq_false {leaf : Principal} {part : Part} (about : leaf.IsAbout part) :
    leaf.isAny = false := by
  cases about <;> rfl

theorem IsAbout.items_eq {leaf : Principal} {part : Part} (about : leaf.IsAbout part) :
    leaf.items = [leaf] := by
  cases about <;> rfl

namespace IsLeaf

variable {leaf : Principal} (isLeaf : leaf.IsLeaf)
include isLeaf

theorem isSome_test? : leaf.test?.isSome := by
  obtain ⟨part, about⟩ := isLeaf.isAbout
  exact about.isSome_test?

theorem alternatives_eq :
    leaf.alternatives = ([leaf], false) ∧ leaf.not.alternatives = ([leaf], true) := by
  obtain ⟨part, about⟩ := isLeaf.isAbout
  exact about.alternatives_eq

/-- The test of the translation accepts the requests for which the leaf holds. -/
theorem leafHolds_eq (request : Request) (claims : Option Token.Claims) :
    leaf.leafHolds request = leaf.test?.any (Test.accepts request claims) := by
  obtain ⟨part, about⟩ := isLeaf.isAbout
  cases about with
  | principal converts wide =>
      simp [leafHolds, test?, converts, nameTest_of_wide wide, authenticates, wide, Test.accepts]
  | namespaceName converts asks =>
      have isNamespace : ∃ name, AsksForNamespace _ name := ⟨_, asks⟩
      simp [leafHolds, test?, converts, asks.nameTest_eq, authenticates, isNamespace,
        Test.accepts, StringMatcher.acceptsOptional, asks.accepts_eq]
  | source => rfl
  | remote => rfl
  | header converts => simp [leafHolds, test?, Option.any_map, Test.accepts]
  | text => exact absurd rfl (isLeaf.noToken _)
  | claim => exact absurd rfl (isLeaf.noToken _)

/-- The test of a leaf is not about a token. -/
theorem part_mem {test : Test} (made : leaf.test? = some test) : test.part ∈ Part.ofRequest := by
  obtain ⟨part, about⟩ := isLeaf.isAbout
  have same := about.map_part_test?
  rw [made, Option.map_some, Option.some_inj] at same
  rw [same]
  cases about with
  | text => exact absurd rfl (isLeaf.noToken _)
  | claim => exact absurd rfl (isLeaf.noToken _)
  | _ => decide

end IsLeaf

theorem AboutOnePart.areDivisible {leaves : List Principal} (onePart : AboutOnePart leaves)
    (nonEmpty : leaves ≠ []) : AreDivisible test? Test.part leaves false := by
  obtain ⟨part, about⟩ := onePart
  refine ⟨nonEmpty, fun leaf member => (about leaf member).isSome_test?, ?_⟩
  intro _ first isFirst second isSecond
  rw [(about first isFirst).map_part_test?, (about second isSecond).map_part_test?]

/-- The alternatives of an item are leaves, about one part unless they are negated. -/
theorem IsItem.areDivisible {item : Principal} (isItem : item.IsItem) :
    AreDivisible test? Test.part item.alternatives.1 item.alternatives.2 := by
  cases isItem with
  | leaf isLeaf =>
      rw [isLeaf.alternatives_eq.1]
      exact .single isLeaf.isSome_test? false
  | oneOf nonEmpty _ onePart => exact onePart.areDivisible nonEmpty
  | notLeaf isLeaf =>
      rw [isLeaf.alternatives_eq.2]
      exact .single isLeaf.isSome_test? true
  | notOneOf nonEmpty areLeaves =>
      exact ⟨nonEmpty, fun leaf member => (areLeaves leaf member).isSome_test?,
        fun plain => nomatch plain⟩

theorem IsItem.areLeaves {item : Principal} (isItem : item.IsItem) :
    ∀ leaf ∈ item.alternatives.1, leaf.IsLeaf := by
  cases isItem with
  | leaf isLeaf =>
      rw [isLeaf.alternatives_eq.1]
      exact List.forall_mem_singleton.mpr isLeaf
  | oneOf _ areLeaves _ => exact areLeaves
  | notLeaf isLeaf =>
      rw [isLeaf.alternatives_eq.2]
      exact List.forall_mem_singleton.mpr isLeaf
  | notOneOf _ areLeaves => exact areLeaves

/-- No test of an item is about a token. -/
theorem IsItem.part_mem {item : Principal} (isItem : item.IsItem) :
    ∀ test ∈ item.tests.1, test.part ∈ Part.ofRequest := by
  intro test member
  obtain ⟨leaf, leafIn, made⟩ := List.mem_filterMap.mp member
  exact (isItem.areLeaves leaf leafIn).part_mem made

theorem IsItem.isAny_eq_false {item : Principal} (isItem : item.IsItem) : item.isAny = false := by
  cases isItem with
  | leaf isLeaf =>
      obtain ⟨part, about⟩ := isLeaf.isAbout
      exact about.isAny_eq_false
  | _ => rfl

theorem IsItem.items_eq {item : Principal} (isItem : item.IsItem) : item.items = [item] := by
  cases isItem with
  | leaf isLeaf =>
      obtain ⟨part, about⟩ := isLeaf.isAbout
      exact about.items_eq
  | _ => rfl

theorem IsItem.holds_eq {item : Principal} (isItem : item.IsItem) (request : Request) :
    item.holds request = item.itemHolds request := by
  cases isItem with
  | leaf isLeaf =>
      obtain ⟨part, about⟩ := isLeaf.isAbout
      cases about <;> rfl
  | _ => rfl

theorem IsCanonical.holds_eq {principal : Principal} (isCanonical : principal.IsCanonical)
    (request : Request) : principal.holds request = principal.items.all (itemHolds request) := by
  cases isCanonical with
  | item isItem => rw [isItem.holds_eq, isItem.items_eq, List.all_cons, List.all_nil, Bool.and_true]
  | all => rfl

/-- A canonical principal is the conjunction of items. -/
theorem IsCanonical.areItems {principal : Principal} (isCanonical : principal.IsCanonical) :
    ∀ item ∈ principal.items, item.IsItem := by
  cases isCanonical with
  | item isItem =>
      rw [isItem.items_eq]
      exact List.forall_mem_singleton.mpr isItem
  | all areItems => exact areItems

namespace Rules

/-- A request passes the rules that a principal makes about the caller, the addresses and the header
fields. -/
def accepts (rules : Rules) (request : Request) (claims : Option Token.Claims) : Bool :=
  rules.caller.accepts request.caller claims &&
    rules.connection.sources.holds (·.matchesText request.caller.sourceAddress) &&
    rules.connection.remotes.holds (·.matchesText request.caller.remoteAddress) &&
    rules.headers.holds (·.accepts request.headers)

@[simp] theorem accepts_empty (request : Request) (claims : Option Token.Claims) :
    empty.accepts request claims = true := rfl

/-- A new item divides its tests over the five conditions that need no token. -/
theorem accepts_push (rules : Rules) (tests : List Test × Bool) (request : Request)
    (claims : Option Token.Claims) :
    (rules.push tests).accepts request claims =
      (rules.accepts request claims && Part.ofRequest.all
        (holdsForPart Test.part (Test.accepts request claims) tests.1 tests.2)) := by
  rw [accepts, CallerRule.accepts, push]
  simp only [Part.ofRequest, List.all_cons, List.all_nil, Bool.and_true]
  rw [holds_push_filterMap _ _ _ Test.part (Test.accepts request claims) .principal
      (fun test => by cases test <;> rfl),
    holds_push_filterMap _ _ _ Test.part (Test.accepts request claims) .namespaceName
      (fun test => by cases test <;> rfl),
    holds_push_filterMap _ _ _ Test.part (Test.accepts request claims) .source
      (fun test => by cases test <;> rfl),
    holds_push_filterMap _ _ _ Test.part (Test.accepts request claims) .remote
      (fun test => by cases test <;> rfl),
    holds_push_filterMap _ _ _ Test.part (Test.accepts request claims) .header
      (fun test => by cases test <;> rfl),
    accepts, CallerRule.accepts, CallerRule.acceptsClaims, CallerRule.acceptsClaims]
  ac_rfl

theorem accepts_push_item (rules : Rules) {item : Principal} (isItem : item.IsItem)
    (request : Request) (claims : Option Token.Claims) :
    (rules.push item.tests).accepts request claims =
      (rules.accepts request claims && item.itemHolds request) := by
  rw [accepts_push, itemHolds_eq]
  exact congrArg (rules.accepts request claims && ·)
    (isItem.areDivisible.all_parts _ _ isItem.part_mem
      fun leaf member => (isItem.areLeaves leaf member).leafHolds_eq request claims)

/-- Tests about no token leave the rule about claims as it is. -/
theorem identity_push (rules : Rules) {tests : List Test × Bool}
    (noToken : ∀ test ∈ tests.1, test.part ∈ Part.ofRequest) :
    (rules.push tests).identity = rules.identity := by
  have misses {α : Type} (matcherOf? : Test → Option α)
      (skips : ∀ test, test.part ∈ Part.ofRequest → matcherOf? test = none) :
      tests.1.filterMap matcherOf? = [] :=
    List.filterMap_eq_nil_iff.mpr fun test member => skips test (noToken test member)
  rw [push, misses Test.requestPrincipal? fun test about => (Test.skips_token about).1,
    misses Test.audience? fun test about => (Test.skips_token about).2.1,
    misses Test.presenter? fun test about => (Test.skips_token about).2.2.1,
    misses Test.claim? fun test about => (Test.skips_token about).2.2.2]
  rfl

end Rules

/-- The rules of a canonical principal mean what the principal means, and ask for no token. -/
theorem IsCanonical.rules?_eq {principal : Principal} (isCanonical : principal.IsCanonical) :
    ∃ rules, principal.rules? = some rules ∧ rules.identity = .empty ∧
      ∀ request claims, rules.accepts request claims = principal.holds request := by
  have areItems := isCanonical.areItems
  have notAny : principal.items.any isAny = false := by
    rw [List.any_eq_false]
    exact fun item member => ne_true_of_eq_false (areItems item member).isAny_eq_false
  rw [rules?, if_neg (ne_true_of_eq_false notAny), List.foldl_map]
  refine ⟨_, rfl, ?_, fun request claims => ?_⟩
  · -- Every item keeps the rule about claims empty.
    refine List.foldlRecOn (motive := fun rules : Rules => rules.identity = .empty)
      principal.items _ rfl fun rules same item member => ?_
    rw [Rules.identity_push rules (areItems item member).part_mem, same]
  · have pushes (rules : Rules) (item : Principal) (member : item ∈ principal.items) :=
      Rules.accepts_push_item rules (areItems item member) request claims
    rw [isCanonical.holds_eq,
      foldl_eq_and_all (Rules.accepts · request claims) _ _ _ _ pushes,
      Rules.accepts_empty, Bool.true_and]

end Mesh.Principal

end MeshAccess
