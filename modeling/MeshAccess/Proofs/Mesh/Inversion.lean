import MeshAccess.Proofs.Mesh.Enforcement

/-! This file says what becomes of the leaves that ask for the opposite. -/

namespace MeshAccess.Mesh

open Match
open Policy

/-- A leaf that has an inversion. -/
inductive InvertibleLeaf where
  | permissionHeader (pattern : HeaderPattern)
  | principalHeader (pattern : HeaderPattern)
  | metadata (pattern : MetadataPattern)
  deriving Repr

namespace InvertibleLeaf

/-- The leaf with its inversion set or cleared. -/
def withInversion (inverted : Bool) : InvertibleLeaf → InvertibleLeaf
  | .permissionHeader pattern => .permissionHeader { pattern with inverted := inverted }
  | .principalHeader pattern => .principalHeader { pattern with inverted := inverted }
  | .metadata pattern => .metadata { pattern with inverted := inverted }

/-- The access rule of the leaf alone, in a conjunction of one. -/
def rule : InvertibleLeaf → AccessRule
  | .permissionHeader pattern => ⟨[.all [.header pattern]], []⟩
  | .principalHeader pattern => ⟨[], [.all [.header pattern]]⟩
  | .metadata pattern => ⟨[], [.all [.metadata pattern]]⟩

/-- The store that has only the policies of the leaf, which allow. -/
def store (name : String) (leaf : InvertibleLeaf) : Store :=
  Store.empty.apply (leaf.rule.snapshot name .allow)

/-- The leaf makes a matcher. -/
def makesTest : InvertibleLeaf → Bool
  | .permissionHeader pattern => (Permission.header pattern).test?.isSome
  | .principalHeader pattern => (Principal.header pattern).test?.isSome
  | .metadata pattern => (Principal.metadata pattern).test?.isSome

/-- The texts of a token that a test is about. -/
def textsOf (token : Token.Claims) : Principal.Test → List String
  | .requestPrincipal _ => [token.requestPrincipal]
  | .audience _ => token.audiences
  | .presenter _ => token.presenter?.toList
  | .claim name _ => token.texts name
  | _ => []

/-- The texts that a leaf tests. -/
def texts (request : Request) (claims : Option Token.Claims) : InvertibleLeaf → List String
  | .permissionHeader pattern =>
      if pattern.name = Permission.authorityHeader then [request.target.host]
      else [request.target.method]
  | .principalHeader pattern => request.headers.readable pattern.name
  | .metadata pattern =>
      claims.elim [] fun token => (Principal.metadata pattern).test?.elim [] (textsOf token)

/-- The matcher of a test about a token. -/
def matcherOf? : Principal.Test → Option StringMatcher
  | .requestPrincipal matcher => some matcher
  | .audience matcher => some matcher
  | .presenter matcher => some matcher
  | .claim _ matcher => some matcher
  | _ => none

/-- A test of a header field accepts the only value of the field. -/
def acceptsValue (text : String) : HeaderTest → Bool
  | .present => true
  | .value matcher => matcher.accepts text

/-- The leaf accepts a text, without regard to its inversion. -/
def acceptsText (text : String) : InvertibleLeaf → Bool
  | .permissionHeader pattern => pattern.valueMatcher?.any (·.accepts text)
  | .principalHeader pattern => (pattern.test.bind HeaderTestPattern.test?).any (acceptsValue text)
  | .metadata pattern => ((Principal.metadata pattern).test?.bind matcherOf?).any (·.accepts text)

/-- The rules of the leaf obey its inversion. -/
def obeysInversion : InvertibleLeaf → Bool
  | .permissionHeader _ => false
  | .principalHeader _ => true
  | .metadata _ => false

variable {request : Request} {claims : Option Token.Claims} {text : String}

/-- A field with a readable value is there. -/
theorem hasName_of_readable {headers : Http.Headers} {name : String}
    (single : headers.readable name = [text]) : headers.hasName name = true := by
  rw [Http.Headers.readable] at single
  rw [Http.Headers.hasName]
  cases values : headers.values name with
  | nil =>
      rw [values] at single
      cases single
  | cons value rest => rfl

/-- A conjunction of one permission asks what its test asks. -/
theorem accepts_ofPermissions_single {leaf : Permission} {test : Permission.Test}
    (makes : leaf.test? = some test) (request : Request) :
    (Permission.Rules.ofPermissions [.all [leaf]]).accepts request = test.accepts request := by
  have notAny : leaf.isAny = false := by
    cases leaf <;> first | rfl | cases makes
  have alone : leaf.tests = ([test], false) := by
    have alternatives : leaf.alternatives = ([leaf], false) := by
      cases leaf <;> first | rfl | cases makes
    rw [Permission.tests, alternatives, List.filterMap_cons_some makes, List.filterMap_nil]
  have pushed : Permission.Rules.ofPermissions [.all [leaf]] = .push .empty ([test], false) := by
    change Permission.Rules.empty.add (.all [leaf]) = _
    rw [Permission.Rules.add, Permission.items, if_neg (by simp [notAny]), List.map_singleton,
      alone]
    rfl
  have divided := all_holdsForPart Permission.Test.part (Permission.Test.accepts request)
    Permission.Part.all [test] false (fun test _ => Permission.Part.mem_all test.part)
    fun _ => ⟨List.cons_ne_nil _ _, by simp⟩
  rw [pushed, Permission.Rules.accepts_push, Permission.Rules.accepts_empty, Bool.true_and, divided]
  simp

/-- A conjunction of one principal asks what its test asks, in one of the ways in which the request
and its token judge tests. -/
theorem exists_rules_single {leaf : Principal} {test : Principal.Test}
    (makes : leaf.test? = some test) (request : Request) (claims : Option Token.Claims) :
    ∃ rules, (Principal.all [leaf]).rules? = some rules ∧
      rules.admits request claims =
        (test.part.judgements request claims).any fun judge => judge test := by
  have isTest : leaf.IsTest := .leaf (Principal.isAbout_of_test? makes)
  have tests : leaf.leaves.filterMap Principal.test? = [test] := by
    have alone : leaf.leaves = [leaf] := by
      cases leaf <;> first | rfl | cases makes
    rw [alone, List.filterMap_cons_some makes, List.filterMap_nil]
  refine ⟨_, isTest.rules?_eq.1, ?_⟩
  rw [tests, Principal.Rules.admits_push (List.cons_ne_nil _ _) (List.forall_mem_singleton.mpr rfl)]
  simp

theorem permits_permission (name : String) {leaf : Permission} {test : Permission.Test}
    (makes : leaf.test? = some test) (request : Request) (claims : Option Token.Claims) :
    (Store.empty.apply (AccessRule.snapshot name .allow ⟨[.all [leaf]], []⟩)).permits request claims =
      test.accepts request := by
  rw [AccessRule.permits_apply name (.inr ⟨rfl, rfl⟩), AccessRule.permitted,
    accepts_ofPermissions_single makes]
  exact Bool.and_true _

theorem permits_principal (name : String) {leaf : Principal} {test : Principal.Test}
    (makes : leaf.test? = some test) (request : Request) (claims : Option Token.Claims) :
    (Store.empty.apply (AccessRule.snapshot name .allow ⟨[], [.all [leaf]]⟩)).permits request claims =
      (test.part.judgements request claims).any fun judge => judge test := by
  obtain ⟨rules, isRules, admits⟩ := exists_rules_single makes request claims
  have principals : AccessRule.principalRules ⟨[], [.all [leaf]]⟩ = [rules] :=
    List.filterMap_cons_some isRules
  rw [AccessRule.permits_apply name (.inl principals), admits]
  exact Bool.true_and _

/-- A test of a token accepts its only text or does not. -/
theorem any_judgements {token : Token.Claims} {test : Principal.Test}
    (single : textsOf token test = [text]) (request : Request) :
    ((test.part.judgements request (some token)).any fun judge => judge test) =
      (matcherOf? test).any (·.accepts text) := by
  cases test with
  | requestPrincipal matcher =>
      obtain rfl : token.requestPrincipal = text := List.singleton_inj.mp single
      simp [Principal.Test.part, Principal.Part.judgements, Principal.Test.accepts, matcherOf?]
  | audience matcher =>
      change token.audiences = [text] at single
      simp [Principal.Test.part, Principal.Part.judgements, Principal.Test.accepts, matcherOf?, single]
  | presenter matcher =>
      have found : token.presenter? = some text := by
        cases given : token.presenter? with
        | none => simp [textsOf, given] at single
        | some value => simpa [textsOf, given] using single
      simp [Principal.Test.part, Principal.Part.judgements, Principal.Test.accepts, matcherOf?,
        StringMatcher.acceptsOptional, found]
  | claim name matcher =>
      change token.texts name = [text] at single
      simp [Principal.Test.part, Principal.Part.judgements, Principal.Test.acceptsText, matcherOf?,
        single]
  | _ => cases single

theorem permits_permissionHeader (name : String) {pattern : HeaderPattern}
    (makes : (permissionHeader pattern).makesTest = true)
    (single : (permissionHeader pattern).texts request claims = [text]) :
    ((permissionHeader pattern).store name).permits request claims =
      (permissionHeader pattern).acceptsText text := by
  obtain ⟨test, made⟩ := Option.isSome_iff_exists.mp makes
  rw [store, rule, permits_permission name made, acceptsText]
  rw [Permission.test?] at made
  rw [texts] at single
  by_cases host : pattern.name = Permission.authorityHeader
  · rw [if_pos host] at made single
    obtain ⟨matcher, isMatcher, rfl⟩ := Option.map_eq_some_iff.mp made
    obtain rfl : request.target.host = text := List.singleton_inj.mp single
    rw [isMatcher]
    rfl
  · rw [if_neg host] at made single
    by_cases method : pattern.name = Permission.methodHeader
    · rw [if_pos method] at made
      obtain ⟨matcher, isMatcher, rfl⟩ := Option.map_eq_some_iff.mp made
      obtain rfl : request.target.method = text := List.singleton_inj.mp single
      rw [isMatcher]
      rfl
    · rw [if_neg method] at made
      cases made

theorem permits_principalHeader (name : String) {pattern : HeaderPattern}
    (makes : (principalHeader pattern).makesTest = true)
    (single : (principalHeader pattern).texts request claims = [text]) :
    ((principalHeader pattern).store name).permits request claims =
      ((principalHeader pattern).acceptsText text != pattern.inverted) := by
  obtain ⟨test, made⟩ := Option.isSome_iff_exists.mp makes
  rw [store, rule, permits_principal name made, acceptsText]
  obtain ⟨matcher, isMatcher, rfl⟩ := Option.map_eq_some_iff.mp made
  rw [HeaderPattern.matcher?] at isMatcher
  split at isMatcher
  · cases isMatcher
  · obtain ⟨asked, isAsked, rfl⟩ := Option.map_eq_some_iff.mp isMatcher
    change request.headers.readable pattern.name = [text] at single
    have passes : (⟨pattern.name, asked, pattern.inverted⟩ : HeaderMatcher).passes request.headers =
        acceptsValue text asked := by
      cases asked with
      | present => exact hasName_of_readable single
      | value matcher => simp [HeaderMatcher.passes, acceptsValue, single]
    rw [isAsked, Option.any_some, ← passes]
    exact Bool.or_false _

theorem permits_metadata (name : String) {pattern : MetadataPattern}
    (makes : (metadata pattern).makesTest = true)
    (single : (metadata pattern).texts request claims = [text]) :
    ((metadata pattern).store name).permits request claims = (metadata pattern).acceptsText text := by
  obtain ⟨test, made⟩ := Option.isSome_iff_exists.mp makes
  rw [store, rule, permits_principal name made, acceptsText, made, Option.bind_some]
  rw [texts, made] at single
  cases claims with
  | none => cases single
  | some token => exact any_judgements single request

/-- The rules of a leaf accept the text that it tests exactly when its matcher does, and the inversion
turns this around for the header fields of a principal only. -/
theorem permits_withInversion (name : String) {leaf : InvertibleLeaf} (makes : leaf.makesTest = true)
    (single : leaf.texts request claims = [text]) (inverted : Bool) :
    ((leaf.withInversion inverted).store name).permits request claims =
      (leaf.acceptsText text != (inverted && leaf.obeysInversion)) := by
  cases leaf with
  | permissionHeader pattern =>
      have passes := @permits_permissionHeader request claims text name
        { pattern with inverted := inverted } makes single
      rw [withInversion, passes, obeysInversion, Bool.and_false, Bool.bne_false]
      rfl
  | principalHeader pattern =>
      have makesInverted :
          (principalHeader { pattern with inverted := inverted }).makesTest = true := by
        simp only [makesTest, Principal.test?, HeaderPattern.matcher?, Option.isSome_map] at makes ⊢
        by_cases unnamed : pattern.name.isEmpty
        · rw [if_pos unnamed] at makes
          cases makes
        · rw [if_neg unnamed, Option.isSome_map] at makes ⊢
          exact makes
      have passes := @permits_principalHeader request claims text name
        { pattern with inverted := inverted } makesInverted single
      rw [withInversion, passes, obeysInversion, Bool.and_true]
      rfl
  | metadata pattern =>
      have passes := @permits_metadata request claims text name
        { pattern with inverted := inverted } makes single
      rw [withInversion, passes, obeysInversion, Bool.and_false, Bool.bne_false]
      rfl

/-- Requests of the shop are those whose header says so. -/
def shopTeam : InvertibleLeaf :=
  .principalHeader ⟨"x-team", some (.text ⟨some (.exact, "shop"), false⟩), false⟩

/-- A request that says that it comes from the shop. -/
def teamRequest : Request :=
  { AccessRule.shopRequest with headers := ⟨[(⟨"x-team"⟩, ⟨[0x73, 0x68, 0x6F, 0x70]⟩)]⟩ }

theorem permits_shopTeam :
    shopTeam.makesTest = true ∧ shopTeam.texts teamRequest none = ["shop"] ∧
      ((shopTeam.withInversion true).store "teams").permits teamRequest none =
        (shopTeam.acceptsText "shop" != (true && shopTeam.obeysInversion)) :=
  have makes : shopTeam.makesTest = true := by decide +kernel
  have single : shopTeam.texts teamRequest none = ["shop"] := by decide +kernel
  ⟨makes, single, permits_withInversion "teams" makes single true⟩

/-- The inversion of a leaf is not always obeyed: the rule for all methods but one is the rule for that
method. -/
theorem not_inverts_always :
    ¬ ∀ (name : String) (leaf : InvertibleLeaf) (request : Request) (claims : Option Token.Claims)
      (text : String), leaf.makesTest = true → leaf.texts request claims = [text] →
        (((leaf.withInversion true).store name).permits request claims = true ↔
          ((leaf.withInversion false).store name).permits request claims = false) := by
  intro inverts
  have contradiction := inverts "read"
    (.permissionHeader ⟨":method", some (.text ⟨some (.exact, "GET"), false⟩), false⟩)
    AccessRule.shopRequest none "GET" (by decide +kernel) (by decide +kernel)
  revert contradiction
  decide +kernel

end InvertibleLeaf

end MeshAccess.Mesh
