import MeshAccess.Text.LowerCase

/-! This file compares the lower case of a part of a text with the lower case of the part alone. -/

namespace MeshAccess.Text.LowerCase

/-- A sigma ends a word between the reversed text before it and the text after it. -/
def endsWord (before after : List Char) : Bool := startsCased before && !startsCased after

/-- The lower case of a text that stands between the reversed text `before` and the text `after`. -/
def lowerBetween (before after : List Char) : List Char → List Char
  | [] => []
  | character :: rest =>
      lowerAt before (rest ++ after) character ++ lowerBetween (character :: before) after rest

theorem lowerAfter_append (before text after : List Char) :
    lowerAfter before (text ++ after) =
      lowerBetween before after text ++ lowerAfter (text.reverse ++ before) after := by
  induction text generalizing before with
  | nil => rfl
  | cons character rest inductionHypothesis =>
      rw [List.cons_append, lowerAfter, inductionHypothesis, lowerBetween, List.reverse_cons,
        List.append_assoc, List.append_assoc]
      rfl

/-- The lower case of a text is that of its three parts, each between the other two. -/
theorem lower_append (before text after : List Char) :
    lower (before ++ text ++ after) =
      lowerBetween [] (text ++ after) before ++ lowerBetween before.reverse after text ++
        lowerAfter (text.reverse ++ before.reverse) after := by
  rw [lower, List.append_assoc, lowerAfter_append, lowerAfter_append, List.append_nil,
    List.append_assoc]

/-- Every sigma of a text ends a word between two others exactly if it does so in the text alone. -/
def KeepsSigmas (before after text : List Char) : Prop :=
  ∀ first rest, text = first ++ sigma :: rest →
    endsWord (first.reverse ++ before) (rest ++ after) = endsWord first.reverse rest

/-- What stands around a character does not change the number of characters that it becomes. -/
theorem length_lowerAt (before after otherBefore otherAfter : List Char) (character : Char) :
    (lowerAt before after character).length =
      (lowerAt otherBefore otherAfter character).length := by
  rw [lowerAt, lowerAt]
  split
  · rfl
  · rfl

theorem lowerAt_eq_iff (before after otherBefore otherAfter : List Char) (character : Char) :
    lowerAt before after character = lowerAt otherBefore otherAfter character ↔
      (character = sigma → endsWord before after = endsWord otherBefore otherAfter) := by
  have distinct : finalSigma ≠ smallSigma := by decide
  rw [lowerAt, lowerAt]
  by_cases isSigma : character = sigma
  · rw [if_pos isSigma, if_pos isSigma, List.cons.injEq, and_iff_left rfl]
    change ((if endsWord before after then finalSigma else smallSigma) =
      if endsWord otherBefore otherAfter then finalSigma else smallSigma) ↔ _
    cases endsWord before after <;> cases endsWord otherBefore otherAfter <;>
      simp [isSigma, distinct, distinct.symm]
  · rw [if_neg isSigma, if_neg isSigma]
    exact ⟨fun _ absurdSigma => absurd absurdSigma isSigma, fun _ => rfl⟩

theorem length_lowerBetween (before after seen text : List Char) :
    (lowerBetween before after text).length = (lowerAfter seen text).length := by
  induction text generalizing before seen with
  | nil => rfl
  | cons character rest inductionHypothesis =>
      rw [lowerBetween, lowerAfter, List.length_append, List.length_append,
        length_lowerAt before (rest ++ after) seen rest,
        inductionHypothesis (character :: before) (character :: seen)]

/-- The induction goes over the rest of the text, of which `seen` has been read. -/
theorem lowerBetween_eq_lowerAfter_iff (before after seen text : List Char) :
    lowerBetween (seen ++ before) after text = lowerAfter seen text ↔
      ∀ first rest, text = first ++ sigma :: rest →
        endsWord (first.reverse ++ (seen ++ before)) (rest ++ after) =
          endsWord (first.reverse ++ seen) rest := by
  induction text generalizing seen with
  | nil =>
      refine ⟨fun _ first rest split => ?_, fun _ => rfl⟩
      cases first <;> cases split
  | cons character others inductionHypothesis =>
      have sameLength := length_lowerAt (seen ++ before) (others ++ after) seen others character
      have parts : lowerBetween (seen ++ before) after (character :: others) =
            lowerAfter seen (character :: others) ↔
          lowerAt (seen ++ before) (others ++ after) character = lowerAt seen others character ∧
            lowerBetween (character :: seen ++ before) after others =
              lowerAfter (character :: seen) others := by
        rw [lowerBetween, lowerAfter]
        exact ⟨fun same => List.append_inj same sameLength,
          fun ⟨here, later⟩ => congr (congrArg (· ++ ·) here) later⟩
      rw [parts, lowerAt_eq_iff, inductionHypothesis]
      constructor
      · rintro ⟨here, later⟩ first rest split
        cases first with
        | nil =>
            cases split
            exact here rfl
        | cons head first =>
            cases split
            simpa using later first rest rfl
      · intro keeps
        refine ⟨?_, fun first rest split => ?_⟩
        · rintro rfl
          exact keeps [] others rfl
        · simpa using keeps (character :: first) rest (congrArg (character :: ·) split)

/-- A text between two others has the lower case that it has alone exactly if its sigmas have. -/
theorem lowerBetween_eq_lower_iff (before after text : List Char) :
    lowerBetween before after text = lower text ↔ KeepsSigmas before after text := by
  rw [lower, KeepsSigmas]
  simpa only [List.nil_append, List.append_nil] using
    lowerBetween_eq_lowerAfter_iff before after [] text

instance (before after text : List Char) : Decidable (KeepsSigmas before after text) :=
  decidable_of_iff _ (lowerBetween_eq_lower_iff before after text)

/-- With nothing around it a text keeps its sigmas. -/
theorem keepsSigmas_nil (text : List Char) : KeepsSigmas [] [] text := by
  intro first rest _
  rw [List.append_nil, List.append_nil]

theorem keepsSigmas_of_not_mem {text : List Char} (absent : sigma ∉ text)
    (before after : List Char) : KeepsSigmas before after text := by
  rintro first rest rfl
  exact absurd (List.mem_append_right first List.mem_cons_self) absent

end MeshAccess.Text.LowerCase
