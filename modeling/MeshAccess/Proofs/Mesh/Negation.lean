import MeshAccess.Proofs.Mesh.Principal
import MeshAccess.Proofs.NameSet

/-! This file compares the rules of a principal with the rules of its negation. -/

namespace MeshAccess

open Match
open Policy

theorem ne_nil_of_map {α β : Type} {make : α → β} {entries : List α}
    (nonEmpty : entries.map make ≠ []) : entries ≠ [] := by
  rintro rfl
  exact nonEmpty rfl

theorem Match.Condition.push_of_ne_nil {α : Type} {matchers : List α} (nonEmpty : matchers ≠ [])
    (condition : Condition α) (negated : Bool) :
    condition.push ⟨matchers, negated⟩ = ⟨condition.groups ++ [⟨matchers, negated⟩]⟩ :=
  if_neg fun isEmpty => nonEmpty (List.isEmpty_iff.mp isEmpty)

namespace Mesh.Principal

/-- A principal that makes one test, or a choice between some that make tests of one part. -/
inductive IsTest : Principal → Prop where
  | leaf {leaf : Principal} {part : Part} (about : leaf.IsAbout part) : IsTest leaf
  | oneOf {leaves : List Principal} (nonEmpty : leaves ≠ []) (onePart : AboutOnePart leaves) :
      IsTest (.oneOf leaves)

/-- The leaves of a principal with tests. -/
def leaves (principal : Principal) : List Principal := principal.alternatives.1

theorem IsTest.alternatives_eq {principal : Principal} (isTest : principal.IsTest) :
    principal.alternatives = (principal.leaves, false) ∧
      principal.not.alternatives = (principal.leaves, true) := by
  cases isTest with
  | leaf about =>
      rw [leaves, about.alternatives_eq.1, about.alternatives_eq.2]
      exact ⟨rfl, rfl⟩
  | oneOf => exact ⟨rfl, rfl⟩

/-- The leaves are about one part. -/
theorem IsTest.aboutOnePart {principal : Principal} (isTest : principal.IsTest) :
    principal.leaves ≠ [] ∧ AboutOnePart principal.leaves := by
  cases isTest with
  | leaf about =>
      rw [leaves, about.alternatives_eq.1]
      exact ⟨List.cons_ne_nil _ _, _, List.forall_mem_singleton.mpr about⟩
  | oneOf nonEmpty onePart => exact ⟨nonEmpty, onePart⟩

theorem IsTest.isAny_eq_false {principal : Principal} (isTest : principal.IsTest) :
    principal.isAny = false := by
  cases isTest with
  | leaf about => exact about.isAny_eq_false
  | oneOf => rfl

/-- A principal and its negation make groups of the same tests. -/
theorem IsTest.rules?_eq {principal : Principal} (isTest : principal.IsTest) :
    rules? (.all [principal]) =
        some (Rules.empty.push (principal.leaves.filterMap test?, false)) ∧
      rules? (.all [principal.not]) =
        some (Rules.empty.push (principal.leaves.filterMap test?, true)) := by
  obtain ⟨plain, negated⟩ := isTest.alternatives_eq
  constructor
  · rw [rules?, items, if_neg (by simp [isTest.isAny_eq_false]), List.map_singleton, tests, plain]
    rfl
  · rw [rules?, items, if_neg (by simp [isAny]), List.map_singleton, tests, negated]
    rfl

/-- The test of a part of a token. -/
def Part.testOf : Part → StringMatcher → Test
  | .audience => .audience
  | .presenter => .presenter
  | .claim name => .claim name
  | _ => .requestPrincipal

/-- The rule with one group about a part of a token. -/
def Part.identityOf (group : Match.Group StringMatcher) : Part → IdentityRule
  | .requestPrincipal => ⟨⟨[group]⟩, .empty, .empty, .empty⟩
  | .audience => ⟨.empty, ⟨[group]⟩, .empty, .empty⟩
  | .presenter => ⟨.empty, .empty, ⟨[group]⟩, .empty⟩
  | .claim name => ⟨.empty, .empty, .empty, NameMap.empty.insert name ⟨[group]⟩⟩
  | _ => .empty

/-- A matcher for a claim accepts one of its texts. -/
def Test.acceptsText (text : String) : Test → Bool
  | .claim _ matcher => matcher.accepts text
  | _ => false

/-- The ways in which a request and its token judge the tests of a part. A token without audiences
does not judge tests of the audience at all. -/
def Part.judgements (request : Request) (claims : Option Token.Claims) : Part → List (Test → Bool)
  | .claim name => (claims.elim [] (·.texts name)).map Test.acceptsText
  | .audience =>
      if claims.any (!·.audiences.isEmpty) then [Test.accepts request claims] else []
  | .requestPrincipal | .presenter =>
      if claims.isSome then [Test.accepts request claims] else []
  | _ => [Test.accepts request claims]

/-- Only the texts of a claim may judge differently. -/
theorem Part.judgements_subsingleton (request : Request) (claims : Option Token.Claims)
    {part : Part} (noClaim : ∀ name, part ≠ .claim name) {first second : Test → Bool}
    (isFirst : first ∈ part.judgements request claims)
    (isSecond : second ∈ part.judgements request claims) : first = second := by
  have alone : ∀ judge ∈ part.judgements request claims, judge = Test.accepts request claims := by
    intro judge member
    cases part
    case claim name => exact absurd rfl (noClaim name)
    case requestPrincipal | audience | presenter =>
      rw [judgements] at member
      split at member
      next => exact List.mem_singleton.mp member
      next => cases member
    all_goals exact List.mem_singleton.mp member
  rw [alone first isFirst, alone second isSecond]

namespace Rules

/-- A request and the claims of its token pass all rules that a principal makes. Without a token
only the empty rule about claims is passed. -/
def admits (rules : Rules) (request : Request) (claims : Option Token.Claims) : Bool :=
  rules.accepts request claims && (rules.identity.isEmpty || claims.any rules.identity.accepts)

variable {tests : List Test} {negated : Bool} {request : Request} {claims : Option Token.Claims}

/-- Tests of a part that needs no token are judged by the request. -/
theorem admits_of_request {part : Part} (about : part ∈ Part.ofRequest) (nonEmpty : tests ≠ [])
    (uniform : ∀ test ∈ tests, test.part = part) :
    (empty.push (tests, negated)).admits request claims =
      (tests.any (Test.accepts request claims) != negated) := by
  have covered : ∀ test ∈ tests, test.part ∈ Part.ofRequest := fun test member =>
    uniform test member ▸ about
  have noToken : (empty.push (tests, negated)).identity = .empty := identity_push empty covered
  have divided := all_holdsForPart Test.part (Test.accepts request claims) Part.ofRequest tests
    negated covered fun _ => ⟨nonEmpty, fun first isFirst second isSecond =>
      (uniform first isFirst).trans (uniform second isSecond).symm⟩
  rw [admits, noToken, accepts_push, accepts_empty, Bool.true_and, divided]
  exact Bool.and_true _

/-- Tests of a part that needs a token ask nothing of the rest of the request. -/
theorem accepts_of_token {part : Part} (about : part ∉ Part.ofRequest)
    (uniform : ∀ test ∈ tests, test.part = part) :
    (empty.push (tests, negated)).accepts request claims = true := by
  rw [accepts_push, accepts_empty, Bool.true_and, List.all_eq_true]
  intro other member
  rw [holdsForPart, Bool.or_eq_true]
  refine .inl (List.isEmpty_iff.mpr (List.filter_eq_nil_iff.mpr fun test isTest => ?_))
  have different : part ≠ other := fun same => about (same ▸ member)
  simpa [uniform test isTest] using different

/-- Tests of a part of a token are made of matchers in one way. -/
theorem exists_eq_map {part : Part} (about : part ∉ Part.ofRequest)
    (uniform : ∀ test ∈ tests, test.part = part) :
    ∃ matchers : List StringMatcher, matchers.map part.testOf = tests := by
  induction tests with
  | nil => exact ⟨[], rfl⟩
  | cons test rest inductionHypothesis =>
      obtain ⟨here, later⟩ := List.forall_mem_cons.mp uniform
      obtain ⟨first, rfl⟩ : ∃ matcher, part.testOf matcher = test := by
        subst here
        cases test <;> first
          | exact ⟨_, rfl⟩
          | exact absurd (by simp [Test.part, Part.ofRequest]) about
      obtain ⟨matchers, rfl⟩ := inductionHypothesis later
      exact ⟨first :: matchers, rfl⟩

variable {matchers : List StringMatcher}

/-- Tests of one claim make one entry. -/
theorem pushClaims_empty (nonEmpty : matchers ≠ []) (name : String) :
    pushClaims .empty (matchers.map (name, ·)) negated =
      NameMap.empty.insert name ⟨[⟨matchers, negated⟩]⟩ := by
  have names : NameSet.ofList ((matchers.map (name, ·)).map Prod.fst) = .ofList [name] := by
    refine NameSet.ext_mem fun other => ?_
    rw [NameSet.mem_ofList, NameSet.mem_ofList, List.map_map]
    simp [nonEmpty, eq_comm]
  have alone : (NameSet.ofList [name]).toList = [name] := rfl
  have all :
      ((matchers.map (name, ·)).filter fun test => test.1 = name).map Prod.snd = matchers := by
    simp [List.filter_map, Function.comp_def]
  rw [pushClaims, names, alone, List.foldl_cons, List.foldl_nil]
  simp only [all, Condition.push_of_ne_nil nonEmpty]
  rfl

/-- The rule about claims that tests of one kind make. -/
theorem identity_push_map (make : StringMatcher → Test) :
    (empty.push (matchers.map make, negated)).identity =
      { principals :=
          Condition.empty.push ⟨matchers.filterMap (make · |>.requestPrincipal?), negated⟩
        audiences := Condition.empty.push ⟨matchers.filterMap (make · |>.audience?), negated⟩
        presenters := Condition.empty.push ⟨matchers.filterMap (make · |>.presenter?), negated⟩
        claims := pushClaims .empty (matchers.filterMap (make · |>.claim?)) negated } := by
  simp only [push, List.filterMap_map]
  rfl

/-- Tests of a part of a token make one group. -/
theorem identity_push_testOf {part : Part} (about : part ∉ Part.ofRequest)
    (nonEmpty : matchers ≠ []) :
    (empty.push (matchers.map part.testOf, negated)).identity =
      part.identityOf ⟨matchers, negated⟩ := by
  rw [identity_push_map]
  cases part
  case requestPrincipal | audience | presenter =>
    simp only [Part.testOf, Test.requestPrincipal?, Test.presenter?, Test.audience?, Test.claim?,
      List.filterMap_none, List.filterMap_some]
    rw [Condition.push_of_ne_nil nonEmpty]
    rfl
  case claim name =>
    simp only [Part.testOf, Test.requestPrincipal?, Test.presenter?, Test.audience?, Test.claim?,
      List.filterMap_none, List.filterMap_eq_map']
    rw [pushClaims_empty nonEmpty]
    rfl
  all_goals exact absurd (by decide) about

/-- A token passes a group as one of its judgements says. -/
theorem accepts_identityOf {part : Part} (about : part ∉ Part.ofRequest)
    (group : Match.Group StringMatcher) (request : Request) (token : Token.Claims) :
    (part.identityOf group).accepts token =
      (part.judgements request (some token)).any fun judge =>
        group.holds (judge ∘ part.testOf) := by
  cases part
  case requestPrincipal | audience | presenter | claim =>
    rw [IdentityRule.accepts, IdentityRule.acceptsAudiences]
    cases none : token.audiences.isEmpty <;>
      simp [Part.identityOf, Part.judgements, Part.testOf, Condition.holds, Condition.empty,
        Condition.isEmpty, IdentityRule.acceptsClaims, NameMap.empty, NameMap.insert,
        NameMap.insertSorted, Function.comp_def, Test.accepts, Test.acceptsText, none]
  all_goals exact absurd (by decide) about

theorem isEmpty_identityOf {part : Part} (about : part ∉ Part.ofRequest)
    (group : Match.Group StringMatcher) : (part.identityOf group).isEmpty = false := by
  cases part <;> first | rfl | exact absurd (by decide) about

/-- Tests of one part ask that the request and its token judge them in one way or another. -/
theorem admits_push {part : Part} (nonEmpty : tests ≠ [])
    (uniform : ∀ test ∈ tests, test.part = part) :
    (empty.push (tests, negated)).admits request claims =
      (part.judgements request claims).any fun judge => tests.any judge != negated := by
  by_cases about : part ∈ Part.ofRequest
  · rw [admits_of_request about nonEmpty uniform]
    cases part <;> first | exact (Bool.or_false _).symm | simp [Part.ofRequest] at about
  · rw [admits, accepts_of_token about uniform, Bool.true_and]
    obtain ⟨matchers, rfl⟩ := exists_eq_map about uniform
    rw [identity_push_testOf about (ne_nil_of_map nonEmpty), isEmpty_identityOf about,
      Bool.false_or]
    cases claims with
    | none => cases part <;> first | rfl | exact absurd (by decide) about
    | some token =>
        rw [Option.any_some, accepts_identityOf about _ request]
        simp [Match.Group.holds]

end Rules

/-- All leaves are about the claim of this name. -/
def IsAboutClaim (principal : Principal) (name : String) : Prop :=
  ∀ leaf ∈ principal.leaves, leaf.IsAbout (.claim name)

/-- The matcher for the texts of a claim. -/
def claimMatcher? : Principal → Option StringMatcher
  | .metadata ⟨_, _, some (.oneOf (.text pattern)), _⟩ => pattern.matcher?
  | _ => none

/-- One of the leaves accepts a text of a claim. -/
def acceptsText (principal : Principal) (text : String) : Bool :=
  principal.leaves.any fun leaf => leaf.claimMatcher?.any (·.accepts text)

theorem IsAbout.any_acceptsText {leaf : Principal} {name : String}
    (about : leaf.IsAbout (.claim name)) (text : String) :
    leaf.test?.any (Test.acceptsText text) = leaf.claimMatcher?.any (·.accepts text) := by
  cases about with
  | text isKey => simp [textKeys] at isKey
  | claim =>
      simp [test?, metadataTest?, claimMatcher?, authenticationFilter, claimsKey, Option.any_map,
        Test.acceptsText]

theorem IsAboutClaim.acceptsText_eq {principal : Principal} {name : String}
    (aboutClaim : principal.IsAboutClaim name) (text : String) :
    principal.acceptsText text =
      (principal.leaves.filterMap test?).any (Test.acceptsText text) :=
  (any_filterMap_eq fun leaf member => ((aboutClaim leaf member).any_acceptsText text).symm).symm

/-- The tests of the leaves are about one part. -/
theorem IsTest.exists_part {principal : Principal} (isTest : principal.IsTest) :
    ∃ part, principal.leaves.filterMap test? ≠ [] ∧
      (∀ test ∈ principal.leaves.filterMap test?, test.part = part) ∧
        ∀ leaf ∈ principal.leaves, leaf.IsAbout part := by
  obtain ⟨nonEmpty, onePart⟩ := isTest.aboutOnePart
  have divisible := onePart.areDivisible nonEmpty
  obtain ⟨part, about⟩ := onePart
  refine ⟨part, divisible.tests_ne_nil, fun test member => ?_, about⟩
  obtain ⟨leaf, leafIn, made⟩ := List.mem_filterMap.mp member
  have isPart := (about leaf leafIn).map_part_test?
  rw [made] at isPart
  exact Option.some_inj.mp isPart

theorem IsTest.part_unique {principal : Principal} (isTest : principal.IsTest) {first second : Part}
    (isFirst : ∀ leaf ∈ principal.leaves, leaf.IsAbout first)
    (isSecond : ∀ leaf ∈ principal.leaves, leaf.IsAbout second) : first = second := by
  obtain ⟨leaf, member⟩ := List.exists_mem_of_ne_nil _ isTest.aboutOnePart.1
  have same := (isAbout_iff.mp (isFirst leaf member)).symm
  exact Option.some_inj.mp (same.trans (isAbout_iff.mp (isSecond leaf member)))

/-- The rules of a principal and the rules of its negation both admit a request exactly when the
principal is about a claim that has a text which some leaf accepts, and one that no leaf accepts. -/
theorem both_admit_iff {principal : Principal} (isTest : principal.IsTest) (request : Request)
    (claims : Option Token.Claims) :
    ∃ plain negated, rules? (.all [principal]) = some plain ∧
      rules? (.all [principal.not]) = some negated ∧
      ((plain.admits request claims = true ∧ negated.admits request claims = true) ↔
        ∃ name token, claims = some token ∧ principal.IsAboutClaim name ∧
          ∃ accepted ∈ token.texts name, ∃ refused ∈ token.texts name,
            principal.acceptsText accepted = true ∧ principal.acceptsText refused = false) := by
  obtain ⟨plainRules, negatedRules⟩ := isTest.rules?_eq
  obtain ⟨part, nonEmpty, uniform, aboutPart⟩ := isTest.exists_part
  refine ⟨_, _, plainRules, negatedRules, ?_⟩
  rw [Rules.admits_push nonEmpty uniform, Rules.admits_push nonEmpty uniform]
  simp only [Bool.bne_false, Bool.bne_true, List.any_eq_true, Bool.not_eq_true']
  constructor
  · rintro ⟨⟨judge, isJudge, accepted⟩, other, isOther, refused⟩
    by_cases isClaim : ∃ name, part = .claim name
    · obtain ⟨name, rfl⟩ := isClaim
      obtain ⟨first, firstMember, rfl⟩ := List.mem_map.mp isJudge
      obtain ⟨second, secondMember, rfl⟩ := List.mem_map.mp isOther
      cases claims with
      | none => cases firstMember
      | some token =>
          refine ⟨name, token, rfl, aboutPart, first, firstMember, second, secondMember, ?_, ?_⟩
          · rwa [IsAboutClaim.acceptsText_eq aboutPart, List.any_eq_true]
          · rwa [IsAboutClaim.acceptsText_eq aboutPart]
    · -- Such a part is judged in one way, which cannot be both.
      have same := Part.judgements_subsingleton request claims
        (fun name isName => isClaim ⟨name, isName⟩) isJudge isOther
      exact absurd (List.any_eq_true.mpr accepted) (ne_true_of_eq_false (same ▸ refused))
  · rintro ⟨name, token, rfl, aboutClaim, first, firstMember, second, secondMember, accepted,
      refused⟩
    obtain rfl := isTest.part_unique aboutPart aboutClaim
    rw [aboutClaim.acceptsText_eq] at accepted refused
    exact ⟨⟨_, List.mem_map_of_mem firstMember, List.any_eq_true.mp accepted⟩,
      _, List.mem_map_of_mem secondMember, refused⟩

/-- The holder of a token is in the group of administrators. -/
def isAdministrator : Principal :=
  .metadata ⟨authenticationFilter, [claimsKey, "groups"],
    some (.oneOf (.text ⟨some (.exact, "admin"), false⟩)), false⟩

def administratorToken : Token.Claims :=
  ⟨[("sub", .string "alice"), ("groups", .array [.string "admin", .string "dev"])]⟩

theorem isAdministrator_isAbout : isAdministrator.IsAbout (.claim "groups") := .claim (by decide)

theorem isAdministrator_isTest : isAdministrator.IsTest := .leaf isAdministrator_isAbout

theorem both_admit_administrator :
    isAdministrator.IsTest ∧
      ∃ plain negated, rules? (.all [isAdministrator]) = some plain ∧
        rules? (.all [isAdministrator.not]) = some negated ∧
        plain.admits default (some administratorToken) = true ∧
          negated.admits default (some administratorToken) = true := by
  obtain ⟨plain, negated, isPlain, isNegated, both⟩ :=
    both_admit_iff isAdministrator_isTest default (some administratorToken)
  refine ⟨isAdministrator_isTest, plain, negated, isPlain, isNegated, both.mpr ?_⟩
  exact ⟨"groups", administratorToken, rfl, List.forall_mem_singleton.mpr isAdministrator_isAbout,
    "admin", by decide, "dev", by decide, by decide +kernel, by decide +kernel⟩

/-- A principal does not always exclude its negation: each text of a claim passes the rule on its
own, so an administrator and developer passes both rules. -/
theorem not_exclude_negation :
    ¬ ∀ principal : Principal, principal.IsTest → ∀ (request : Request)
      (claims : Option Token.Claims) (plain negated : Rules),
      rules? (.all [principal]) = some plain → rules? (.all [principal.not]) = some negated →
        ¬ (plain.admits request claims = true ∧ negated.admits request claims = true) := by
  intro exclude
  obtain ⟨plain, negated⟩ := isAdministrator_isTest.rules?_eq
  refine exclude isAdministrator isAdministrator_isTest default (some administratorToken) _ _ plain
    negated ?_
  decide +kernel

end Mesh.Principal

end MeshAccess
