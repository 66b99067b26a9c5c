import MeshAccess.Match.Condition

/-! This file says when a condition holds that is built group by group. -/

namespace MeshAccess.Match

variable {α τ ρ : Type}

/-- If every step adds one more thing to hold, then in the end all things must hold. -/
theorem foldl_eq_and_all {σ ι : Type} (accepts : σ → Bool) (push : σ → ι → σ) (holds : ι → Bool)
    (items : List ι) (start : σ)
    (step : ∀ state, ∀ item ∈ items, accepts (push state item) = (accepts state && holds item)) :
    accepts (items.foldl push start) = (accepts start && items.all holds) := by
  induction items generalizing start with
  | nil => simp
  | cons item rest inductionHypothesis =>
      have restStep (state : σ) (other : ι) (member : other ∈ rest) :=
        step state other (List.mem_cons_of_mem item member)
      rw [List.foldl_cons, inductionHypothesis _ restStep, step start item List.mem_cons_self,
        List.all_cons, Bool.and_assoc]

namespace Condition

/-- A new group is one more thing to hold, unless it is empty. -/
theorem holds_push (condition : Condition α) (group : Group α) (passes : α → Bool) :
    (condition.push group).holds passes =
      (condition.holds passes && (group.isEmpty || group.holds passes)) := by
  rw [push]
  cases empty : group.isEmpty <;> simp [holds]

/-- A condition without groups holds. -/
theorem holds_of_isEmpty {condition : Condition α} (isEmpty : condition.isEmpty = true)
    (passes : α → Bool) : condition.holds passes = true := by
  rw [Condition.isEmpty, List.isEmpty_iff] at isEmpty
  rw [holds, isEmpty]
  rfl

end Condition

/-- The tests about one part hold as a group, if there are any. -/
def holdsForPart [DecidableEq ρ] (partOf : τ → ρ) (accepts : τ → Bool) (tests : List τ)
    (negated : Bool) (part : ρ) : Bool :=
  let group : Group τ := ⟨tests.filter fun test => partOf test = part, negated⟩
  group.isEmpty || group.holds accepts

/-- The matchers of the tests about one part make the group of these tests. -/
theorem holds_push_filterMap [DecidableEq ρ] (condition : Condition α) (passes : α → Bool)
    (matcherOf? : τ → Option α) (partOf : τ → ρ) (accepts : τ → Bool) (part : ρ)
    (picks : ∀ test, (matcherOf? test).map passes =
      if partOf test = part then some (accepts test) else none)
    (tests : List τ) (negated : Bool) :
    (condition.push ⟨tests.filterMap matcherOf?, negated⟩).holds passes =
      (condition.holds passes && holdsForPart partOf accepts tests negated part) := by
  have answers : (tests.filterMap matcherOf?).map passes =
      (tests.filter fun test => partOf test = part).map accepts := by
    rw [List.map_filterMap, ← List.filterMap_eq_map, ← List.filterMap_eq_filter,
      List.filterMap_filterMap]
    apply congrArg fun choose => tests.filterMap choose
    funext test
    rw [picks]
    by_cases same : partOf test = part <;> simp [same, Option.guard]
  have sameEmpty := congrArg List.isEmpty answers
  have sameAny := congrArg (List.any · id) answers
  simp only [List.isEmpty_map, List.any_map, Function.id_comp] at sameEmpty sameAny
  rw [Condition.holds_push, holdsForPart, Group.isEmpty, Group.isEmpty, Group.holds, Group.holds,
    sameEmpty, sameAny]

theorem holdsForPart_negated [DecidableEq ρ] (partOf : τ → ρ) (accepts : τ → Bool)
    (tests : List τ) (part : ρ) :
    holdsForPart partOf accepts tests true part ↔
      ∀ test ∈ tests, partOf test = part → accepts test = false := by
  rw [holdsForPart, Group.isEmpty, Group.holds, Bool.bne_true, Bool.or_eq_true,
    Bool.not_eq_true', List.any_eq_false, List.isEmpty_iff]
  simp only [List.mem_filter, decide_eq_true_iff, Bool.not_eq_true]
  constructor
  · rintro (none | all) test member same
    · have picked : test ∈ tests.filter fun test => partOf test = part :=
        List.mem_filter.mpr ⟨member, decide_eq_true same⟩
      rw [none] at picked
      cases picked
    · exact all test ⟨member, same⟩
  · exact fun all => .inr fun test ⟨member, same⟩ => all test member same

theorem holdsForPart_plain [DecidableEq ρ] (partOf : τ → ρ) (accepts : τ → Bool)
    (tests : List τ) (part : ρ) :
    holdsForPart partOf accepts tests false part ↔
      (∀ test ∈ tests, partOf test ≠ part) ∨
        ∃ test ∈ tests, partOf test = part ∧ accepts test := by
  rw [holdsForPart, Group.isEmpty, Group.holds, Bool.bne_false, Bool.or_eq_true,
    List.any_eq_true, List.isEmpty_iff, List.filter_eq_nil_iff]
  simp only [List.mem_filter, decide_eq_true_iff, and_assoc, ne_eq]

/-- A group may be divided by parts if it is negated, or if all its tests are about one part. -/
theorem all_holdsForPart [DecidableEq ρ] (partOf : τ → ρ) (accepts : τ → Bool) (parts : List ρ)
    (tests : List τ) (negated : Bool) (covered : ∀ test ∈ tests, partOf test ∈ parts)
    (divisible : negated = false →
      tests ≠ [] ∧ ∀ first ∈ tests, ∀ second ∈ tests, partOf first = partOf second) :
    (parts.all fun part => holdsForPart partOf accepts tests negated part) =
      (tests.any accepts != negated) := by
  rw [Bool.eq_iff_iff, List.all_eq_true]
  cases negated with
  | true =>
      -- No test passes at all exactly when none passes in any part.
      simp only [holdsForPart_negated, Bool.bne_true, Bool.not_eq_true', List.any_eq_false,
        Bool.not_eq_true]
      constructor
      · exact fun all test member => all _ (covered test member) test member rfl
      · exact fun none part _ test member _ => none test member
  | false =>
      -- Only one part has a group.
      obtain ⟨nonEmpty, uniform⟩ := divisible rfl
      simp only [holdsForPart_plain, Bool.bne_false, List.any_eq_true]
      constructor
      · intro all
        obtain ⟨first, member⟩ := List.exists_mem_of_ne_nil tests nonEmpty
        rcases all _ (covered first member) with none | ⟨test, passed, _, accepted⟩
        · exact absurd rfl (none first member)
        · exact ⟨test, passed, accepted⟩
      · rintro ⟨test, member, accepted⟩ part _
        by_cases same : partOf test = part
        · exact .inr ⟨test, member, same, accepted⟩
        · exact .inl fun other otherMember => uniform test member other otherMember ▸ same

end MeshAccess.Match
