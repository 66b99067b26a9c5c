import MeshAccess.Proofs.Match.StringMatcher
import MeshAccess.Proofs.Mesh.Principal
import MeshAccess.Proofs.Regex.Letters

/-! This file compares the pattern for the principals of a namespace with the rule made of it. -/

namespace MeshAccess

open Match
open Policy
open Regex

namespace Policy

theorem CallerRule.accepts_namespaces (group : Match.Group StringMatcher) (caller : Caller)
    (claims : Option Token.Claims) :
    ({ CallerRule.empty with namespaces := ⟨[group]⟩ } : CallerRule).accepts caller claims =
      group.holds (·.acceptsOptional caller.namespace?) := by
  have noClaims : IdentityRule.empty.isEmpty = true := rfl
  simp [accepts, acceptsClaims, noClaims, CallerRule.empty, Condition.holds, Condition.empty]

/-- The parts of the principal of a workload. -/
structure WorkloadName where
  domain : String
  namespaceName : String
  account : String
  isDomain : IsSegment domain
  isNamespace : IsSegment namespaceName
  isAccount : IsSegment account

namespace Caller

/-- The first slash starts the mark of the namespace. -/
theorem findNamespace?_of_mark {domain name : List Char} (noSlash : '/' ∉ domain)
    (nonEmpty : name ≠ []) (oneSegment : '/' ∉ name) (rest : List Char) :
    findNamespace? (domain ++ (namespaceMark ++ (name ++ '/' :: rest))) = some name := by
  induction domain with
  | nil =>
      have isName : nameBeforeSlash? (name ++ '/' :: rest) = some name := by
        rw [nameBeforeSlash?, takeWhile_segment oneSegment]
        simp [nonEmpty]
      have atMark : namespaceMark.isPrefixOf (namespaceMark ++ (name ++ '/' :: rest)) = true :=
        List.isPrefixOf_iff_prefix.mpr (List.prefix_append _ _)
      rw [namespaceMark, List.nil_append, List.cons_append, findNamespace?, ← List.cons_append,
        ← namespaceMark, if_pos atMark, List.drop_left, isName]
  | cons character others inductionHypothesis =>
      obtain ⟨isOther, noSlash⟩ := not_or.mp (mt List.mem_cons.mpr noSlash)
      rw [List.cons_append, findNamespace?, if_neg, inductionHypothesis noSlash]
      simp [namespaceMark, isOther]

end Caller

namespace WorkloadName

variable (workload : WorkloadName)

/-- The principal of a workload. -/
def principal : String :=
  workload.domain ++ "/ns/" ++ workload.namespaceName ++ "/sa/" ++ workload.account

theorem principal_toList : workload.principal.toList =
    workload.domain.toList ++ (Caller.namespaceMark ++
      (workload.namespaceName.toList ++ '/' :: 's' :: 'a' :: '/' :: workload.account.toList)) := by
  simp [principal, Caller.namespaceMark]

/-- A caller with the principal of a workload and no other namespace. -/
def caller (others : Caller) : Caller :=
  { others with principal := workload.principal, namespaceName := "" }

/-- The principal of a workload names its namespace. -/
theorem namespace?_caller (others : Caller) :
    (workload.caller others).namespace? = some workload.namespaceName := by
  have nonEmpty : workload.namespaceName.toList ≠ [] :=
    mt String.toList_eq_nil_iff.mp workload.isNamespace.nonEmpty
  rw [Caller.namespace?, if_pos (show (workload.caller others).namespaceName.isEmpty = true from rfl),
    Caller.namespaceOf?, show (workload.caller others).principal = workload.principal from rfl,
    principal_toList, Caller.findNamespace?_of_mark workload.isDomain.noSlash nonEmpty
      workload.isNamespace.noSlash, Option.map_some, String.ofList_toList]

theorem splitOn_principal : workload.principal.toList.splitOn '/' =
    [workload.domain.toList, ['n', 's'], workload.namespaceName.toList, ['s', 'a'],
      workload.account.toList] := by
  have joined : workload.principal.toList = ['/'].intercalate
      [workload.domain.toList, ['n', 's'], workload.namespaceName.toList, ['s', 'a'],
        workload.account.toList] := by
    simp [principal_toList, Caller.namespaceMark, List.intercalate]
  rw [joined, List.splitOn_intercalate]
  · simp [workload.isDomain.noSlash, workload.isNamespace.noSlash, workload.isAccount.noSlash]
  · exact List.cons_ne_nil _ _

/-- A name stands between the mark of the namespace and a slash only as the namespace or, in the
namespace `ns`, as the segment behind it. -/
theorem principal_split_iff {name before after : List Char} (noSlash : '/' ∉ name) :
    workload.principal.toList = before ++ (Caller.namespaceMark ++ (name ++ ['/'])) ++ after ↔
      before = workload.domain.toList ∧ workload.namespaceName.toList = name ∧
          after = 's' :: 'a' :: '/' :: workload.account.toList ∨
        before = workload.domain.toList ++ ['/', 'n', 's'] ∧
          workload.namespaceName.toList = ['n', 's'] ∧ name = ['s', 'a'] ∧
            after = workload.account.toList := by
  constructor
  · intro split
    have segments := workload.splitOn_principal
    have regroup : before ++ (Caller.namespaceMark ++ (name ++ ['/'])) ++ after =
        before ++ '/' :: (['n', 's'] ++ '/' :: (name ++ '/' :: after)) := by
      simp [Caller.namespaceMark]
    rw [split, regroup, List.splitOn_append_cons_self,
      List.splitOn_append_cons_self_of_not_mem (by decide),
      List.splitOn_append_cons_self_of_not_mem noSlash] at segments
    have isBefore := @List.intercalate_splitOn _ before _ _ '/'
    have isAfter := @List.intercalate_splitOn _ after _ _ '/'
    have nonEmpty := List.splitOn_ne_nil '/' before
    generalize before.splitOn '/' = front at segments isBefore nonEmpty
    generalize after.splitOn '/' = back at segments isAfter
    -- The segments in front of the name are those of the text before it and the mark.
    rcases front with _ | ⟨first, _ | ⟨second, _ | ⟨third, more⟩⟩⟩
    · exact absurd rfl nonEmpty
    · simp only [List.cons_append, List.nil_append, List.cons.injEq, true_and] at segments
      obtain ⟨rfl, rfl, rfl⟩ := segments
      exact .inl ⟨by simpa [List.intercalate] using isBefore.symm, rfl,
        by simpa [List.intercalate] using isAfter.symm⟩
    · simp only [List.cons_append, List.nil_append, List.cons.injEq] at segments
      obtain ⟨rfl, rfl, isMark, isName, rfl, -⟩ := segments
      exact .inr ⟨by simpa [List.intercalate] using isBefore.symm, isMark.symm, isName,
        by simpa [List.intercalate] using isAfter.symm⟩
    · simp only [List.cons_append, List.cons.injEq] at segments
      obtain ⟨-, -, -, segments⟩ := segments
      rcases more with _ | ⟨fourth, more⟩
      · simp at segments
      · have length := congrArg List.length segments
        simp only [List.length_append, List.length_cons, List.length_nil] at length
        omega
  · rw [principal_toList]
    rintro (⟨rfl, rfl, rfl⟩ | ⟨rfl, isMark, rfl, rfl⟩)
    · simp
    · simp [isMark, Caller.namespaceMark]

end WorkloadName

end Policy

namespace Mesh.Principal

/-- The principals of a namespace. -/
def ofNamespace (name : String) : Principal :=
  .authenticated (some ⟨some (.regex, namespacePattern name), false⟩)

/-- The regular expression for the principals of a namespace. -/
def namespaceMatcher (name : String) : StringMatcher := ⟨.regex, namespacePattern name, false⟩

/-- The rule of a namespace compares the namespace of the caller with the name. -/
theorem rules?_ofNamespace {name : String} (isSegment : IsSegment name) :
    rules? (ofNamespace name) =
      some { Rules.empty with caller :=
        { CallerRule.empty with namespaces := ⟨[⟨[⟨.exact, name, false⟩], false⟩]⟩ } } := by
  have notBlank : Text.Blank.isAllBlank (namespacePattern name) = false := by
    rw [Text.Blank.isAllBlank, namespacePattern_toList]
    rfl
  have recognised : namespaceOfPattern? (namespacePattern name) = some name :=
    namespaceOfPattern?_eq_some_iff.mpr ⟨isSegment, rfl⟩
  have makesTest : (ofNamespace name).test? = some (.namespaceName ⟨.exact, name, false⟩) := by
    simp [ofNamespace, test?, TextPattern.matcher?, TextPattern.matcherOf?, notBlank, nameTest,
      recognised]
  have makesTests : (ofNamespace name).tests = ([.namespaceName ⟨.exact, name, false⟩], false) := by
    rw [tests, show (ofNamespace name).alternatives = ([ofNamespace name], false) from rfl,
      List.filterMap_cons_some makesTest, List.filterMap_nil]
  rw [rules?, show (ofNamespace name).items = [ofNamespace name] from rfl, List.map_singleton,
    makesTests]
  rfl

/-- A workload passes the rule of a namespace when it is in the namespace. -/
theorem accepts_rules_ofNamespace {name : String} (isSegment : IsSegment name)
    (workload : WorkloadName) (others : Caller) (claims : Option Token.Claims) :
    ∃ rules, rules? (ofNamespace name) = some rules ∧
      (rules.caller.accepts (workload.caller others) claims = true ↔
        workload.namespaceName = name) := by
  refine ⟨_, rules?_ofNamespace isSegment, ?_⟩
  rw [CallerRule.accepts_namespaces, workload.namespace?_caller]
  simp [Match.Group.holds, StringMatcher.acceptsOptional, StringMatcher.accepts_exact_iff,
    workload.isNamespace.nonEmpty]

/-- A name with only letters stands for itself in the pattern. -/
theorem read?_namespacePattern {name : String} (areLetters : AreLetters name.toList) :
    Syntax.read? (namespacePattern name).toList =
      some (.betweenWildcards (Caller.namespaceMark ++ (name.toList ++ ['/']))) := by
  have mark : AreLetters Caller.namespaceMark := by decide
  have slash : AreLetters ['/'] := by decide
  have pattern : (namespacePattern name).toList =
      betweenWildcards (Caller.namespaceMark ++ (name.toList ++ ['/'])) := by
    rw [namespacePattern_toList, betweenWildcards, List.append_assoc, List.append_assoc]
    rfl
  rw [pattern, Syntax.read?_betweenWildcards]
  exact List.forall_mem_append.mpr ⟨mark, List.forall_mem_append.mpr ⟨areLetters, slash⟩⟩

/-- The regular expression for a namespace with only letters in its name accepts the principals of the
namespace without a line feed in front of the mark or behind the name. -/
theorem accepts_namespaceMatcher_iff {name : String} (isSegment : IsSegment name)
    (areLetters : AreLetters name.toList) (workload : WorkloadName) :
    (namespaceMatcher name).accepts workload.principal = true ↔
      (namespaceMatcher name).compiled.isSome = true ∧
        '\n' ∉ workload.domain.toList ∧ '\n' ∉ workload.account.toList ∧
          (workload.namespaceName = name ∨ workload.namespaceName = "ns" ∧ name = "sa") := by
  rw [namespaceMatcher, StringMatcher.accepts,
    StringMatcher.acceptsWithin_regex_iff_spans automataFit (read?_namespacePattern areLetters)
      (Syntax.resolve?_betweenWildcards _), Expr.spans_betweenWildcards]
  simp only [workload.principal_split_iff isSegment.noSlash]
  have nonEmpty : workload.principal ≠ "" := by
    rw [Ne, ← String.toList_inj, WorkloadName.principal_toList]
    simp [Caller.namespaceMark]
  constructor
  · rintro ⟨-, ⟨before, after, noneBefore, noneAfter, place⟩, compiles⟩
    refine ⟨compiles, ?_⟩
    rcases place with ⟨rfl, isName, rfl⟩ | ⟨rfl, isMark, isAccount, rfl⟩
    · exact ⟨noneBefore, by simpa using noneAfter, .inl (String.toList_inj.mp isName)⟩
    · exact ⟨by simpa using noneBefore, noneAfter,
        .inr ⟨String.toList_inj.mp isMark, String.toList_inj.mp isAccount⟩⟩
  · rintro ⟨compiles, noneDomain, noneAccount, rfl | ⟨isMark, rfl⟩⟩
    · exact ⟨nonEmpty, ⟨_, _, noneDomain, by simpa using noneAccount, .inl ⟨rfl, rfl, rfl⟩⟩, compiles⟩
    · exact ⟨nonEmpty, ⟨_, _, by simpa using noneDomain, noneAccount,
        .inr ⟨rfl, congrArg String.toList isMark, rfl, rfl⟩⟩, compiles⟩

/-- The regular expression for a namespace agrees with the rule that is made of it if the name has
only letters, with two exceptions. A dot matches no line feed, and in a principal of the namespace `ns`
the segment `sa` also stands between the mark and a slash. -/
theorem accepts_ofNamespace_iff {name : String} (isSegment : IsSegment name)
    (areLetters : AreLetters name.toList) (workload : WorkloadName) (others : Caller)
    (claims : Option Token.Claims) :
    ∃ rules, rules? (ofNamespace name) = some rules ∧
      ((namespaceMatcher name).accepts workload.principal = true ↔
        (namespaceMatcher name).compiled.isSome = true ∧
          '\n' ∉ workload.domain.toList ∧ '\n' ∉ workload.account.toList ∧
            (rules.caller.accepts (workload.caller others) claims = true ∨
              workload.namespaceName = "ns" ∧ name = "sa")) := by
  obtain ⟨rules, isRules, compares⟩ := accepts_rules_ofNamespace isSegment workload others claims
  exact ⟨rules, isRules, by rw [accepts_namespaceMatcher_iff isSegment areLetters, compares]⟩

/-- A workload in a namespace for production. -/
def productionWorkload : WorkloadName where
  domain := "cluster.local"
  namespaceName := "prod-eu"
  account := "sleep"
  isDomain := ⟨by decide, by simp⟩
  isNamespace := ⟨by decide, by simp⟩
  isAccount := ⟨by decide, by simp⟩

theorem accepts_ofNamespace_production :
    IsSegment "prod-eu" ∧ AreLetters "prod-eu".toList ∧
      ∃ rules, rules? (ofNamespace "prod-eu") = some rules ∧
        ((namespaceMatcher "prod-eu").accepts productionWorkload.principal = true ↔
          (namespaceMatcher "prod-eu").compiled.isSome = true ∧
            '\n' ∉ productionWorkload.domain.toList ∧ '\n' ∉ productionWorkload.account.toList ∧
              (rules.caller.accepts (productionWorkload.caller default) none = true ∨
                productionWorkload.namespaceName = "ns" ∧ "prod-eu" = "sa")) :=
  ⟨productionWorkload.isNamespace, by decide +kernel,
    accepts_ofNamespace_iff productionWorkload.isNamespace (by decide +kernel)
      productionWorkload default none⟩

/-- The rule takes the pattern `prod-.*` for the name of a namespace, so it refuses workloads that the
pattern matches. -/
theorem not_accepts_as_pattern :
    ¬ ∀ (name : String), IsSegment name → ∀ (workload : WorkloadName) (others : Caller)
      (claims : Option Token.Claims) (rules : Rules), rules? (ofNamespace name) = some rules →
        (rules.caller.accepts (workload.caller others) claims = true ↔
          (namespaceMatcher name).accepts workload.principal = true) := by
  intro agree
  have isSegment : IsSegment "prod-.*" := ⟨by decide, by simp⟩
  obtain ⟨rules, isRules, compares⟩ :=
    accepts_rules_ofNamespace isSegment productionWorkload default none
  have both := agree "prod-.*" isSegment productionWorkload default none rules isRules
  have matched : (namespaceMatcher "prod-.*").accepts productionWorkload.principal = true := by
    decide +kernel
  exact absurd (compares.mp (both.mpr matched)) (by decide)

end Mesh.Principal

end MeshAccess
