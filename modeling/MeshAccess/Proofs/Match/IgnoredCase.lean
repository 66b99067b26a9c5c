import MeshAccess.Match.StringMatcher
import MeshAccess.Proofs.Text.LowerCase

/-! This file says what becomes of a match when case is ignored. -/

namespace MeshAccess.Match

open Text

/-- A comparison looks for the pattern between these two parts of a text. -/
def Comparison.LooksBetween : Comparison → List Char → List Char → Prop
  | .exact, before, after => before = [] ∧ after = []
  | .start, before, _ => before = []
  | .finish, _, after => after = []
  | .contains, _, _ => True
  | .regex, _, _ => False

namespace StringMatcher

theorem isInside_iff (needle text : List Char) :
    isInside needle text = true ↔ ∃ before after, text = before ++ needle ++ after := by
  induction text with
  | nil =>
      rw [isInside, List.isEmpty_iff]
      constructor
      · rintro rfl
        exact ⟨[], [], rfl⟩
      · rintro ⟨before, after, found⟩
        exact (List.append_eq_nil_iff.mp (List.append_eq_nil_iff.mp found.symm).1).2
  | cons character rest inductionHypothesis =>
      rw [isInside, Bool.or_eq_true, inductionHypothesis, List.isPrefixOf_iff_prefix]
      constructor
      · rintro (⟨after, found⟩ | ⟨before, after, found⟩)
        · exact ⟨[], after, found.symm⟩
        · exact ⟨character :: before, after, congrArg (character :: ·) found⟩
      · rintro ⟨before, after, found⟩
        cases before with
        | nil => exact .inl ⟨after, found.symm⟩
        | cons head before =>
            cases found
            exact .inr ⟨before, after, rfl⟩

/-- A comparison finds the pattern where it looks for it. -/
theorem compare_iff (comparison : Comparison) (pattern text : List Char) :
    compare comparison pattern text = true ↔
      ∃ before after, text = before ++ pattern ++ after ∧ comparison.LooksBetween before after := by
  cases comparison with
  | exact =>
      rw [compare, beq_iff_eq]
      constructor
      · rintro rfl
        exact ⟨[], [], (List.append_nil _).symm, rfl, rfl⟩
      · rintro ⟨_, _, found, rfl, rfl⟩
        rwa [List.append_nil] at found
  | start =>
      rw [compare, List.isPrefixOf_iff_prefix]
      constructor
      · rintro ⟨after, found⟩
        exact ⟨[], after, found.symm, rfl⟩
      · rintro ⟨_, after, found, rfl⟩
        exact ⟨after, found.symm⟩
  | finish =>
      rw [compare, List.isSuffixOf_iff_suffix]
      constructor
      · rintro ⟨before, found⟩
        exact ⟨before, [], by rw [List.append_nil, found], rfl⟩
      · rintro ⟨before, _, found, rfl⟩
        rw [List.append_nil] at found
        exact ⟨before, found.symm⟩
  | contains =>
      rw [compare, isInside_iff]
      exact ⟨fun ⟨before, after, found⟩ => ⟨before, after, found, trivial⟩,
        fun ⟨before, after, found, _⟩ => ⟨before, after, found⟩⟩
  | regex => exact ⟨nofun, fun ⟨_, _, _, looks⟩ => looks.elim⟩

/-- The pattern stands in the text where the comparison looks for it, and its sigmas have the same lower
case there as in the pattern. -/
def KeepsPlace (comparison : Comparison) (pattern text : List Char) : Prop :=
  ∃ before after, text = before ++ pattern ++ after ∧ comparison.LooksBetween before after ∧
    LowerCase.KeepsSigmas before.reverse after pattern

theorem compare_lower_of_keepsPlace {comparison : Comparison} {pattern text : List Char}
    (keeps : KeepsPlace comparison pattern text) :
    compare comparison (LowerCase.lower pattern) (LowerCase.lower text) = true := by
  obtain ⟨before, after, rfl, looks, sigmas⟩ := keeps
  rw [compare_iff]
  refine ⟨LowerCase.lowerBetween [] (pattern ++ after) before,
    LowerCase.lowerAfter (pattern.reverse ++ before.reverse) after, ?_, ?_⟩
  · rw [LowerCase.lower_append, (LowerCase.lowerBetween_eq_lower_iff _ _ _).mpr sigmas]
  · -- A part that is empty stays empty.
    cases comparison with
    | exact =>
        obtain ⟨rfl, rfl⟩ := looks
        exact ⟨rfl, rfl⟩
    | start =>
        cases looks
        rfl
    | finish =>
        cases looks
        rfl
    | contains => trivial
    | regex => exact looks

/-- If the comparison looks in one place only, the pattern is found there in lower case only if it keeps
its sigmas. -/
theorem keepsPlace_of_compare_lower {comparison : Comparison} {pattern text : List Char}
    (onePlace : comparison ≠ .contains) (found : compare comparison pattern text = true)
    (foundLower :
      compare comparison (LowerCase.lower pattern) (LowerCase.lower text) = true) :
    KeepsPlace comparison pattern text := by
  obtain ⟨before, after, rfl, looks⟩ := (compare_iff _ _ _).mp found
  obtain ⟨lowerBefore, lowerAfter, same, lowerLooks⟩ := (compare_iff _ _ _).mp foundLower
  refine ⟨before, after, rfl, looks, ?_⟩
  have sameLength := LowerCase.length_lowerBetween before.reverse after [] pattern
  rw [LowerCase.lower_append] at same
  cases comparison with
  | exact =>
      obtain ⟨rfl, rfl⟩ := looks
      exact LowerCase.keepsSigmas_nil pattern
  | start =>
      cases looks
      cases lowerLooks
      exact (LowerCase.lowerBetween_eq_lower_iff _ _ _).mp (List.append_inj same sameLength).1
  | finish =>
      cases looks
      cases lowerLooks
      simp only [LowerCase.lowerAfter, List.append_nil] at same
      exact (LowerCase.lowerBetween_eq_lower_iff _ _ _).mp (List.append_inj' same sameLength).2
  | contains => exact absurd rfl onePlace
  | regex => exact looks.elim

/-- A pattern that is the whole text, or that has no sigma, keeps its place. -/
theorem keepsPlace_of_compare {comparison : Comparison} {pattern text : List Char}
    (found : compare comparison pattern text = true)
    (insensitive : comparison = .exact ∨ LowerCase.sigma ∉ pattern) :
    KeepsPlace comparison pattern text := by
  obtain ⟨before, after, rfl, looks⟩ := (compare_iff _ _ _).mp found
  refine ⟨before, after, rfl, looks, ?_⟩
  rcases insensitive with rfl | absent
  · obtain ⟨rfl, rfl⟩ := looks
    exact LowerCase.keepsSigmas_nil pattern
  · exact LowerCase.keepsSigmas_of_not_mem absent _ _

/-- A matcher without a regular expression compares a text that is not empty. -/
theorem accepts_iff {comparison : Comparison} (plain : comparison ≠ .regex) (ignoreCase : Bool)
    (pattern text : String) :
    (StringMatcher.mk comparison pattern ignoreCase).accepts text = true ↔
      text ≠ "" ∧ (StringMatcher.mk comparison pattern ignoreCase).comparesWith text = true := by
  rw [accepts, acceptsWithin,
    if_neg (show ¬(StringMatcher.mk comparison pattern ignoreCase).comparison = .regex from plain)]
  by_cases none : text = "" <;> simp [none]

/-- A text that a matcher accepts it accepts without regard to case too, if the pattern keeps its place.
It does if the comparison is exact or if the pattern has no sigma. Only a comparison that looks in
several places may accept the text otherwise. -/
theorem accepts_ignoringCase {comparison : Comparison} (plain : comparison ≠ .regex)
    {pattern text : String}
    (accepted : (StringMatcher.mk comparison pattern false).accepts text = true) :
    (KeepsPlace comparison pattern.toList text.toList →
        (StringMatcher.mk comparison pattern true).accepts text = true) ∧
      (comparison = .exact ∨ LowerCase.sigma ∉ pattern.toList →
        (StringMatcher.mk comparison pattern true).accepts text = true) ∧
      (comparison ≠ .contains →
        (StringMatcher.mk comparison pattern true).accepts text = true →
          KeepsPlace comparison pattern.toList text.toList) := by
  obtain ⟨nonEmpty, found⟩ := (accepts_iff plain false pattern text).mp accepted
  have widens (keeps : KeepsPlace comparison pattern.toList text.toList) :
      (StringMatcher.mk comparison pattern true).accepts text = true :=
    (accepts_iff plain true pattern text).mpr ⟨nonEmpty, compare_lower_of_keepsPlace keeps⟩
  refine ⟨widens, fun insensitive => widens (keepsPlace_of_compare found insensitive), ?_⟩
  intro onePlace ignoring
  exact keepsPlace_of_compare_lower onePlace found
    ((accepts_iff plain true pattern text).mp ignoring).2

/-- A word that ends in a sigma is found as a word of the text. -/
theorem accepts_separateWord :
    (StringMatcher.mk .start "ΑΣ" false).accepts "ΑΣ Α" = true ∧
      KeepsPlace .start "ΑΣ".toList "ΑΣ Α".toList ∧
        (StringMatcher.mk .start "ΑΣ" true).accepts "ΑΣ Α" = true := by
  have accepted : (StringMatcher.mk .start "ΑΣ" false).accepts "ΑΣ Α" = true := by
    decide +kernel
  have keeps : KeepsPlace .start "ΑΣ".toList "ΑΣ Α".toList :=
    ⟨[], [' ', 'Α'], by decide +kernel, rfl, by decide +kernel⟩
  exact ⟨accepted, keeps, (accepts_ignoringCase (by decide) accepted).1 keeps⟩

/-- The sigma ends a word in the pattern and stands inside a word in the text. -/
theorem not_accepts_ignoringCase :
    ¬ ∀ (comparison : Comparison) (pattern text : String), comparison ≠ .regex →
      (StringMatcher.mk comparison pattern false).accepts text = true →
        (StringMatcher.mk comparison pattern true).accepts text = true := by
  intro widens
  exact absurd (widens .start "ΑΣ" "ΑΣΑ" (by decide) (by decide +kernel)) (by decide +kernel)

end StringMatcher

end MeshAccess.Match
