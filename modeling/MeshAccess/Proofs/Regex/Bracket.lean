import MeshAccess.Proofs.Regex.Continuation

/-! This file proves that brackets are read in the same way when an ending follows the pattern. -/

namespace MeshAccess.Regex.Bracket

/-- The name of a class after its sign of negation. -/
def readName? (negated : Bool) (pattern : List Char) : Option (BracketSet × List Char) :=
  match pattern.dropWhile (· ≠ ':') with
  | ':' :: ']' :: after =>
      (classOfName? (pattern.takeWhile (· ≠ ':'))).map fun kind => (.named kind negated, after)
  | _ => none

theorem readNamed?_negated (rest : List Char) :
    readNamed? (':' :: '^' :: rest) = readName? true rest := rfl

theorem readNamed?_plain {rest : List Char} (isPlain : ∀ others, rest ≠ '^' :: others) :
    readNamed? (':' :: rest) = readName? false rest := by
  rw [readNamed?]
  · rfl
  · exact isPlain

theorem takeWhile_append_text {accepts : Char → Bool} {pattern : List Char}
    (ends : pattern.dropWhile accepts ≠ []) (text : List Char) :
    (pattern ++ text).takeWhile accepts = pattern.takeWhile accepts := by
  rw [List.takeWhile_append, if_neg]
  intro all
  have split := congrArg List.length (List.takeWhile_append_dropWhile (p := accepts) (l := pattern))
  rw [List.length_append, all] at split
  exact ends (List.eq_nil_of_length_eq_zero (by omega))

/-- No colon stands in an ending, and no bracket in front of it. -/
theorem readName?_append (negated : Bool) (pattern : List Char) (ending : Ending) (kept : Bool) :
    readName? negated (pattern ++ ending.text kept) =
      (readName? negated pattern).map fun found => (found.1, found.2 ++ ending.text kept) := by
  simp only [readName?]
  cases after : pattern.dropWhile (· ≠ ':') with
  | nil =>
      have all : (pattern ++ ending.text kept).dropWhile (· ≠ ':') = [] := by
        rw [List.dropWhile_append, after]
        exact List.dropWhile_eq_nil_iff.mpr fun character member =>
          decide_eq_true fun same => ending.colon_notMem_text kept (same ▸ member)
      rw [all]
      rfl
  | cons first rest =>
      have ends : pattern.dropWhile (· ≠ ':') ≠ [] := after ▸ List.cons_ne_nil first rest
      rw [takeWhile_append_text ends, List.dropWhile_append, if_neg (by simpa using ends), after,
        List.cons_append]
      by_cases named : ∃ others, first = ':' ∧ rest = ']' :: others
      · obtain ⟨others, rfl, rfl⟩ := named
        simp [Option.map_map, Function.comp_def]
      · split
        next is =>
          obtain ⟨rfl, second⟩ := List.cons.inj is
          obtain ⟨others, first⟩ := Ending.exists_of_append_text (by decide) second
          exact absurd ⟨others, rfl, first⟩ named
        next =>
          split
          next is => exact absurd ⟨_, (List.cons.inj is).1, (List.cons.inj is).2⟩ named
          next => rfl

/-- A class with a name is read as before. -/
theorem readNamed?_append (pattern : List Char) (ending : Ending) (kept : Bool) :
    readNamed? (pattern ++ ending.text kept) =
      (readNamed? pattern).map fun found => (found.1, found.2 ++ ending.text kept) := by
  cases pattern with
  | nil => cases kept <;> rfl
  | cons first rest =>
      by_cases isColon : first = ':'
      · subst isColon
        rw [List.cons_append]
        by_cases isNegated : ∃ others, rest = '^' :: others
        · obtain ⟨others, rfl⟩ := isNegated
          rw [List.cons_append, readNamed?_negated, readNamed?_negated, readName?_append]
        · rw [readNamed?_plain fun others is => isNegated ⟨others, is⟩,
            readNamed?_plain fun others is => isNegated
              (Ending.exists_of_append_text (by decide) is), readName?_append]
      · simp [readNamed?, isColon]

theorem readDashes_eq (verbose : Bool) (reversed : List Char) (fuel : Nat) (pattern : List Char) :
    readDashes verbose (reversed.map fun dash => .letter ⟨dash, false⟩) fuel pattern =
      ((readWhile (· = '-') verbose reversed fuel pattern).1.reverse.map
          fun dash => .letter ⟨dash, false⟩,
        (readWhile (· = '-') verbose reversed fuel pattern).2) := by
  induction fuel generalizing reversed pattern with
  | zero => simp [readDashes, readWhile]
  | succ fuel inductionHypothesis =>
      cases pattern with
      | nil => simp [readDashes, readWhile]
      | cons character rest =>
          by_cases isDash : character = '-'
          · subst isDash
            exact inductionHypothesis ('-' :: reversed) (skip verbose rest)
          · simp [readDashes, readWhile, isDash]

theorem readDashes_append (verbose : Bool) {fuel : Nat} {pattern : List Char}
    (enough : pattern.length ≤ fuel) (kept : Bool) :
    ∃ left, ∀ (ending : Ending) (more : Nat), (pattern ++ ending.text kept).length ≤ more →
      readDashes verbose [] more (pattern ++ ending.text kept) =
        ((readDashes verbose [] fuel pattern).1,
          (readDashes verbose [] fuel pattern).2 ++ ending.text left) := by
  obtain ⟨left, reads⟩ := readWhile_append (· = '-') (by decide) verbose [] enough kept
  refine ⟨left, fun ending more long => ?_⟩
  have dashes := readDashes_eq verbose []
  rw [List.map_nil] at dashes
  rw [dashes, dashes, reads ending more long]

/-- The start of a bracket after its sign of negation. -/
def readStart? (verbose negated : Bool) (start : List Char) :
    Option ((Bool × List BracketSet) × List Char) :=
  match readDashes verbose [] start.length start with
  | (_, []) => none
  | ([], ']' :: rest) =>
      match skip verbose rest with
      | [] => none
      | rest => some ((negated, [.letter ⟨']', false⟩]), rest)
  | (dashes, rest) => some ((negated, dashes), rest)

theorem readOpening?_negated {verbose : Bool} {pattern rest : List Char}
    (isNegated : skip verbose pattern = '^' :: rest) :
    readOpening? verbose pattern = readStart? verbose true (skip verbose rest) := by
  simp only [readOpening?, isNegated]
  rfl

theorem readOpening?_plain {verbose : Bool} {pattern : List Char}
    (isPlain : ∀ rest, skip verbose pattern ≠ '^' :: rest) :
    readOpening? verbose pattern = readStart? verbose false (skip verbose pattern) := by
  rw [readOpening?]
  split
  next negated start same =>
    split at same
    next others first => exact absurd first (isPlain others)
    next => 
      cases same
      rfl

theorem readStart?_continues (verbose negated : Bool) :
    Continues (readStart? verbose negated) := by
  intro pattern result rest read kept
  obtain ⟨left, reads⟩ := readDashes_append verbose (Nat.le_refl pattern.length) kept
  simp only [readStart?, reads _ _ (Nat.le_refl _)] at read ⊢
  generalize readDashes verbose [] pattern.length pattern = found at read ⊢
  obtain ⟨dashes, after⟩ := found
  dsimp only at read ⊢
  cases after with
  | nil => cases read
  | cons first others =>
      by_cases bracket : dashes = [] ∧ first = ']'
      · obtain ⟨rfl, rfl⟩ := bracket
        obtain ⟨later, skips⟩ := skip_append verbose others left
        simp only [List.cons_append, skips] at read ⊢
        split at read
        next => cases read
        next nonEmpty =>
          cases read
          refine ⟨later, fun ending => ?_⟩
          split
          next none => exact absurd (List.append_eq_nil_iff.mp none).1 nonEmpty
          next => rfl
      · split at read
        next none => cases none
        next is =>
          obtain ⟨none, same⟩ := Prod.mk.inj is
          exact absurd ⟨none, (List.cons.inj same).1⟩ bracket
        next is =>
          obtain ⟨rfl, rfl⟩ := Prod.mk.inj is
          cases read
          refine ⟨left, fun ending => ?_⟩
          rw [List.cons_append]
          split
          next none => cases none
          next is =>
            obtain ⟨none, same⟩ := Prod.mk.inj is
            exact absurd ⟨none, (List.cons.inj same).1⟩ bracket
          next is =>
            obtain ⟨rfl, rfl⟩ := Prod.mk.inj is
            rfl

theorem readOpening?_continues (verbose : Bool) : Continues (readOpening? verbose) := by
  intro pattern result rest read kept
  obtain ⟨taken, skips⟩ := skip_append verbose pattern kept
  by_cases negates : ∃ others, skip verbose pattern = '^' :: others
  · obtain ⟨others, first⟩ := negates
    obtain ⟨later, skipsRest⟩ := skip_append verbose others taken
    rw [readOpening?_negated first] at read
    obtain ⟨left, reads⟩ := readStart?_continues verbose true read later
    refine ⟨left, fun ending => ?_⟩
    rw [readOpening?_negated (by rw [skips, first, List.cons_append]), skipsRest, reads]
  · rw [readOpening?_plain fun others first => negates ⟨others, first⟩] at read
    obtain ⟨left, reads⟩ := readStart?_continues verbose false read taken
    refine ⟨left, fun ending => ?_⟩
    rw [readOpening?_plain fun others first => ?_, skips, reads]
    rw [skips] at first
    exact negates (Ending.exists_of_append_text (by decide) first)

theorem head?_append_text {mark : Char} (noEnding : mark ≠ ')') (pattern : List Char)
    (ending : Ending) (kept : Bool) :
    (pattern ++ ending.text kept).head? = some mark ↔ pattern.head? = some mark := by
  cases pattern with
  | nil => cases kept <;> simp [Ending.text, noEnding.symm]
  | cons first rest => rfl

/-- A mark that is no blank is the first character exactly when it is the first that is no blank. -/
theorem head?_ne_of_dropWhile {mark : Char} (notBlank : Text.Blank.isBlank mark = false)
    {pattern : List Char} (notFirst : (pattern.dropWhile Text.Blank.isBlank).head? ≠ some mark) :
    pattern.head? ≠ some mark := by
  intro first
  obtain ⟨rest, rfl⟩ := List.head?_eq_some_iff.mp first
  exact notFirst (by rw [List.dropWhile_cons_of_neg (by simp [notBlank])]; rfl)

theorem or_head?_append_text {mark : Char} (noEnding : mark ≠ ')') {first pattern : List Char}
    (notFirst : first = [] → pattern.head? ≠ some mark) (ending : Ending) (kept : Bool) :
    (first ++ ending.text kept).head?.or (pattern ++ ending.text kept).head? = some mark ↔
      first.head?.or pattern.head? = some mark := by
  cases first with
  | nil =>
      have notFirst := notFirst rfl
      cases kept with
      | false => simp [Ending.text]
      | true => simp [Ending.text, noEnding.symm, notFirst]
  | cons character rest => rfl

/-- No mark that ends an item comes from an ending. -/
theorem peek?_append {mark : Char} (noEnding : mark ≠ ')')
    (notBlank : Text.Blank.isBlank mark = false) (noComment : mark ≠ '#') (verbose : Bool)
    (pattern : List Char) (ending : Ending) (kept : Bool) :
    peek? verbose (pattern ++ ending.text kept) = some mark ↔ peek? verbose pattern = some mark := by
  cases verbose with
  | false => exact head?_append_text noEnding pattern ending kept
  | true =>
      have drops := ending.dropWhile_append_text kept isBlank_parenthesis
      have ahead := @head?_ne_of_dropWhile mark notBlank pattern
      simp only [peek?, if_true, drops]
      cases first : pattern.dropWhile Text.Blank.isBlank with
      | nil =>
          have same := @or_head?_append_text mark noEnding [] pattern
            (fun _ => ahead (by simp [first])) ending kept
          cases kept <;> exact same
      | cons character rest =>
          by_cases isComment : character = '#'
          · subst isComment
            simp only [List.cons_append, drops]
            exact or_head?_append_text noEnding
              (fun _ => ahead (by simp [first, noComment.symm])) ending kept
          · simp [isComment]

theorem readPrimitive?_continues (verbose : Bool) : Continues (readPrimitive? verbose) := by
  refine .ofHead rfl fun character => ?_
  by_cases escapes : character = '\\'
  · subst escapes
    exact readEscape?_continues verbose
  · simp only [readPrimitive?]
    exact .pure _

/-- The last letter of a range after its dash. -/
theorem readLast?_continues (verbose : Bool) (first : Primitive) :
    Continues fun pattern =>
      (readPrimitive? verbose (skip verbose pattern)).bind fun found =>
        (letter? first).bind fun first => (letter? found.1).bind fun last =>
          if first.character ≤ last.character then some (BracketSet.range first last, found.2)
          else none :=
  .bind (.ofSkip verbose (fun _ => rfl) (readPrimitive?_continues verbose)) fun last =>
    .bindOption (letter? first) fun first => .bindOption (letter? last) fun last =>
      .ite (first.character ≤ last.character) (.pure (BracketSet.range first last)) .none

theorem readItem?_continues (verbose : Bool) : Continues (readItem? verbose) := by
  intro pattern result rest read kept
  obtain ⟨⟨first, middle⟩, isFirst, read⟩ := Option.bind_eq_some_iff.mp read
  obtain ⟨later, reads⟩ := readPrimitive?_continues verbose isFirst kept
  obtain ⟨taken, skips⟩ := skip_append verbose middle later
  simp only [readItem?, reads, Option.bind_eq_bind, Option.bind_some, skips] at read ⊢
  split at read
  next => cases read
  next more start =>
    have bracket := peek?_append (show ']' ≠ ')' by decide) (by decide) (by decide) verbose more
    have dash := peek?_append (show '-' ≠ ')' by decide) (by decide) (by decide) verbose more
    simp only [start, List.cons_append, bracket, dash]
    split at read
    next isItem =>
      simp only [if_pos isItem]
      obtain ⟨item, made, ⟨⟩⟩ := Option.bind_eq_some_iff.mp read
      exact ⟨taken, fun ending => by rw [made]; rfl⟩
    next isRange =>
      simp only [if_neg isRange]
      exact readLast?_continues verbose first read taken
  next nonEmpty noDash =>
    obtain ⟨item, isItem, ⟨⟩⟩ := Option.bind_eq_some_iff.mp read
    refine ⟨taken, fun ending => ?_⟩
    split
    next none => exact absurd (List.append_eq_nil_iff.mp none).1 nonEmpty
    next is => exact absurd is (Ending.append_text_ne (by decide) noDash _)
    next => rw [isItem]; rfl

theorem read?_continues (verbose : Bool) (frames : List Frame) (reversed : List BracketSet) :
    ContinuesWithin (read? verbose frames reversed) := by
  intro fuel
  induction fuel generalizing frames reversed with
  | zero => nofun
  | succ fuel inductionHypothesis =>
      intro pattern result rest read kept
      obtain ⟨taken, skips⟩ := skip_append verbose pattern kept
      refine exists_of_succ ?_
      simp only [Bracket.read?, skips] at read ⊢
      split at read
      next => cases read
      next others start =>
        simp only [start, List.cons_append, readNamed?_append]
        split at read
        next item after named =>
          simp only [named, Option.map_some]
          exact inductionHypothesis frames (item :: reversed) read taken
        next unnamed =>
          simp only [unnamed, Option.map_none]
          split at read
          next negated items after opened =>
            obtain ⟨left, opens⟩ := readOpening?_continues verbose opened taken
            simp only [opens]
            exact inductionHypothesis (.opened reversed negated :: frames) items read left
          next => cases read
      next others start =>
        simp only [start, List.cons_append]
        split at read
        next inner outer negated reduced =>
          cases read
          exact ⟨taken, fun ending more enough => rfl⟩
        next inner outer negated frames notLast reduced =>
          exact inductionHypothesis frames (.bracket negated inner :: outer) read taken
        next => cases read
      case h_4 others start | h_5 others start | h_6 others start =>
        simp only [start, List.cons_append]
        exact inductionHypothesis _ [] read taken
      next nonEmpty noOpen noClose noAnd noMinus noTilde =>
        split at read
        next item after isItem =>
          obtain ⟨left, reads⟩ := readItem?_continues verbose isItem taken
          obtain ⟨last, readsRest⟩ := inductionHypothesis frames (item :: reversed) read left
          refine ⟨last, fun ending more enough => ?_⟩
          split
          next none => exact absurd (List.append_eq_nil_iff.mp none).1 nonEmpty
          next start => exact absurd start (Ending.append_text_ne (by decide) noOpen _)
          next start => exact absurd start (Ending.append_text_ne (by decide) noClose _)
          next start => exact absurd start (Ending.append_text_ne_of_two (by decide) noAnd _)
          next start => exact absurd start (Ending.append_text_ne_of_two (by decide) noMinus _)
          next start => exact absurd start (Ending.append_text_ne_of_two (by decide) noTilde _)
          next =>
            rw [reads]
            exact readsRest ending more enough
        next => cases read

theorem readSet?_continues (verbose : Bool) : Continues (readSet? verbose) :=
  .bind (readOpening?_continues verbose) fun opening =>
    (read?_continues verbose [.opened [] opening.1] opening.2).ofLength

end MeshAccess.Regex.Bracket
