import Mathlib.Data.List.TakeWhile
import MeshAccess.Regex.Bracket

/-! This file proves that an ending behind a pattern does not change how its parts are read. -/

namespace MeshAccess.Regex

/-- What follows a pattern inside a group: the closing parenthesis and more on the same line. -/
structure Ending where
  more : List Char
  oneLine : '\n' ∉ more
  noColon : ':' ∉ more

namespace Ending

/-- The text of an ending. Nothing is left of it when a comment takes it. -/
def text (ending : Ending) (kept : Bool) : List Char := if kept then ')' :: ending.more else []

variable (ending : Ending) (kept : Bool)

theorem dropWhile_append_text {accepts : Char → Bool} (stops : accepts ')' = false)
    (pattern : List Char) :
    (pattern ++ ending.text kept).dropWhile accepts =
      pattern.dropWhile accepts ++ ending.text kept := by
  rw [List.dropWhile_append]
  split
  next none =>
    rw [List.isEmpty_iff.mp none, List.nil_append]
    cases kept with
    | false => rfl
    | true => exact List.dropWhile_cons_of_neg (by simp [stops])
  next => rfl

theorem newline_notMem_text : '\n' ∉ ending.text kept := by
  cases kept with
  | false => exact List.not_mem_nil
  | true => simpa [text] using ending.oneLine

theorem colon_notMem_text : ':' ∉ ending.text kept := by
  cases kept with
  | false => exact List.not_mem_nil
  | true => simpa [text] using ending.noColon

/-- An ending begins with no other character than the parenthesis. -/
theorem exists_of_append_text {ending : Ending} {kept : Bool} {mark : Char}
    {pattern rest : List Char} (noEnding : mark ≠ ')')
    (marked : pattern ++ ending.text kept = mark :: rest) : ∃ others, pattern = mark :: others := by
  cases pattern with
  | nil =>
      cases kept with
      | false => cases marked
      | true => exact absurd (List.cons.inj marked).1.symm noEnding
  | cons character others => exact ⟨others, by rw [(List.cons.inj marked).1]⟩

theorem append_text_ne {ending : Ending} {kept : Bool} {mark : Char} (noEnding : mark ≠ ')')
    {pattern : List Char} (unmarked : ∀ rest, pattern ≠ mark :: rest) (rest : List Char) :
    pattern ++ ending.text kept ≠ mark :: rest := fun marked =>
  (exists_of_append_text noEnding marked).elim unmarked

theorem append_text_ne_of_two {ending : Ending} {kept : Bool} {first second : Char}
    (noEnding : first ≠ ')' ∧ second ≠ ')') {pattern : List Char}
    (unmarked : ∀ rest, pattern ≠ first :: second :: rest) (rest : List Char) :
    pattern ++ ending.text kept ≠ first :: second :: rest := by
  intro marked
  obtain ⟨tail, rfl⟩ := exists_of_append_text noEnding.1 marked
  obtain ⟨others, rfl⟩ := exists_of_append_text noEnding.2 (List.cons.inj marked).2
  exact unmarked others rfl

end Ending

theorem isBlank_parenthesis : Text.Blank.isBlank ')' = false := by decide

/-- A comment takes the rest of its line. -/
theorem dropLine_append (pattern : List Char) (kept : Bool) :
    ∃ left, ∀ ending : Ending,
      dropLine (pattern ++ ending.text kept) = dropLine pattern ++ ending.text left := by
  by_cases newline : '\n' ∈ pattern
  · refine ⟨kept, fun ending => ?_⟩
    have nonEmpty : pattern.dropWhile (· ≠ '\n') ≠ [] := fun none => by
      simpa using List.dropWhile_eq_nil_iff.mp none '\n' newline
    rw [dropLine, List.dropWhile_append, if_neg (by simpa using nonEmpty), dropLine,
      List.drop_append_of_le_length (List.length_pos_iff.mpr nonEmpty)]
  · refine ⟨false, fun ending => ?_⟩
    have all (line : List Char) (absent : '\n' ∉ line) : dropLine line = [] := by
      rw [dropLine, List.dropWhile_eq_nil_iff.mpr, List.drop_nil]
      exact fun character member => decide_eq_true fun same => absent (same ▸ member)
    rw [all _ newline, all]
    · rfl
    · exact fun member => (List.mem_append.mp member).elim newline
        (ending.newline_notMem_text kept)

theorem length_dropLine_le (pattern : List Char) : (dropLine pattern).length ≤ pattern.length := by
  rw [dropLine, List.length_drop]
  exact Nat.le_trans (Nat.sub_le _ _) (List.dropWhile_suffix _).length_le

/-- What follows a comment is shorter than the pattern. -/
theorem length_dropLine_lt {pattern rest : List Char}
    (isComment : pattern.dropWhile Text.Blank.isBlank = '#' :: rest) :
    (dropLine rest).length < pattern.length := by
  have shorter := length_dropLine_le rest
  have dropped := (List.dropWhile_suffix (l := pattern) Text.Blank.isBlank).length_le
  rw [isComment, List.length_cons] at dropped
  omega

/-- More fuel than characters makes no difference. -/
theorem skipVerbose_eq (verbose : Bool) {pattern : List Char} {fuel more : Nat}
    (enough : pattern.length ≤ fuel) (enoughToo : pattern.length ≤ more) :
    skipVerbose verbose fuel pattern = skipVerbose verbose more pattern := by
  induction fuel generalizing pattern more with
  | zero =>
      obtain rfl := List.eq_nil_of_length_eq_zero (Nat.le_zero.mp enough)
      cases more <;> simp [skipVerbose]
  | succ fuel inductionHypothesis =>
      cases more with
      | zero =>
          obtain rfl := List.eq_nil_of_length_eq_zero (Nat.le_zero.mp enoughToo)
          simp [skipVerbose]
      | succ more =>
          rw [skipVerbose, skipVerbose]
          split
          next =>
            split
            next rest isComment =>
              have shorter := length_dropLine_lt isComment
              exact inductionHypothesis (by omega) (by omega)
            next => rfl
          next => rfl

theorem skip_plain (pattern : List Char) : skip false pattern = pattern := by
  rw [skip]
  cases pattern <;> rfl

theorem skip_of_comment {pattern rest : List Char}
    (isComment : pattern.dropWhile Text.Blank.isBlank = '#' :: rest) :
    skip true pattern = skip true (dropLine rest) := by
  have shorter := length_dropLine_lt isComment
  obtain ⟨fuel, same⟩ := Nat.exists_eq_succ_of_ne_zero (n := pattern.length) (by omega)
  rw [skip, same, skipVerbose, if_pos rfl, isComment]
  exact skipVerbose_eq true (by omega) (Nat.le_refl _)

theorem skip_of_no_comment {pattern : List Char}
    (noComment : ∀ rest, pattern.dropWhile Text.Blank.isBlank ≠ '#' :: rest) :
    skip true pattern = pattern.dropWhile Text.Blank.isBlank := by
  rw [skip]
  cases pattern with
  | nil => rfl
  | cons character rest =>
      rw [List.length_cons, skipVerbose, if_pos rfl]
      split
      next other isComment => exact absurd isComment (noComment other)
      next => rfl

theorem length_skip_le (verbose : Bool) (pattern : List Char) :
    (skip verbose pattern).length ≤ pattern.length := by
  cases verbose with
  | false => rw [skip_plain]
  | true =>
      by_cases isComment : ∃ rest, pattern.dropWhile Text.Blank.isBlank = '#' :: rest
      · obtain ⟨rest, isComment⟩ := isComment
        have shorter := length_dropLine_lt isComment
        rw [skip_of_comment isComment]
        exact Nat.le_trans (length_skip_le true _) (Nat.le_of_lt shorter)
      · rw [skip_of_no_comment fun rest is => isComment ⟨rest, is⟩]
        exact (List.dropWhile_suffix _).length_le
termination_by pattern.length

/-- Blanks and comments are skipped as before. -/
theorem skip_append (verbose : Bool) (pattern : List Char) (kept : Bool) :
    ∃ left, ∀ ending : Ending,
      skip verbose (pattern ++ ending.text kept) = skip verbose pattern ++ ending.text left := by
  cases verbose with
  | false => exact ⟨kept, fun ending => by rw [skip_plain, skip_plain]⟩
  | true =>
      have drops (ending : Ending) := ending.dropWhile_append_text kept isBlank_parenthesis pattern
      by_cases isComment : ∃ rest, pattern.dropWhile Text.Blank.isBlank = '#' :: rest
      · obtain ⟨rest, isComment⟩ := isComment
        have shorter := length_dropLine_lt isComment
        obtain ⟨taken, drop⟩ := dropLine_append rest kept
        obtain ⟨left, skips⟩ := skip_append true (dropLine rest) taken
        refine ⟨left, fun ending => ?_⟩
        rw [skip_of_comment isComment, ← skips, ← drop]
        exact skip_of_comment (by rw [drops, isComment, List.cons_append])
      · refine ⟨kept, fun ending => ?_⟩
        rw [skip_of_no_comment fun rest is => isComment ⟨rest, is⟩, ← drops]
        refine skip_of_no_comment fun rest is => ?_
        rw [drops] at is
        cases first : pattern.dropWhile Text.Blank.isBlank with
        | nil =>
            rw [first] at is
            cases kept <;> cases is
        | cons character others =>
            rw [first, List.cons_append] at is
            cases is
            exact isComment ⟨others, first⟩
termination_by pattern.length

/-- The reader gives the same result when an ending follows, and leaves the ending unless a comment
takes it. -/
def Continues {α : Type} (read : List Char → Option (α × List Char)) : Prop :=
  ∀ ⦃pattern result rest⦄, read pattern = some (result, rest) → ∀ kept, ∃ left,
    ∀ ending : Ending, read (pattern ++ ending.text kept) = some (result, rest ++ ending.text left)

namespace Continues

variable {α β : Type}

theorem none : Continues (α := α) fun _ => .none := nofun

theorem pure (result : α) : Continues fun pattern => some (result, pattern) := by
  rintro pattern _ _ ⟨⟩ kept
  exact ⟨kept, fun ending => rfl⟩

theorem bind {first : List Char → Option (α × List Char)}
    {next : α → List Char → Option (β × List Char)} (continues : Continues first)
    (later : ∀ result, Continues (next result)) :
    Continues fun pattern => (first pattern).bind fun found => next found.1 found.2 := by
  intro pattern result rest read kept
  obtain ⟨⟨before, middle⟩, isFirst, read⟩ := Option.bind_eq_some_iff.mp read
  obtain ⟨taken, first⟩ := continues isFirst kept
  obtain ⟨left, next⟩ := later before read taken
  exact ⟨left, fun ending => by simp only [first ending, Option.bind_some, next ending]⟩

/-- What a reader computes without the pattern does not matter. -/
theorem bindOption {next : α → List Char → Option (β × List Char)} (value : Option α)
    (later : ∀ result, Continues (next result)) :
    Continues fun pattern => value.bind fun result => next result pattern := by
  cases value with
  | none => exact none
  | some result => exact later result

theorem ite {first other : List Char → Option (α × List Char)} (condition : Prop)
    [Decidable condition] (continues : Continues first) (later : Continues other) :
    Continues fun pattern => if condition then first pattern else other pattern := by
  split
  next => exact continues
  next => exact later

theorem pureSkip (result : α) (verbose : Bool) :
    Continues fun pattern => some (result, skip verbose pattern) := by
  rintro pattern _ _ ⟨⟩ kept
  obtain ⟨taken, skips⟩ := skip_append verbose pattern kept
  exact ⟨taken, fun ending => by simp only [skips]⟩

theorem ofSkip {read next : List Char → Option (α × List Char)} (verbose : Bool)
    (same : ∀ pattern, read pattern = next (skip verbose pattern)) (continues : Continues next) :
    Continues read := by
  intro pattern result rest isRead kept
  obtain ⟨taken, skips⟩ := skip_append verbose pattern kept
  rw [same] at isRead
  obtain ⟨left, reads⟩ := continues isRead taken
  exact ⟨left, fun ending => by rw [same, skips, reads]⟩

theorem ofHead {read : List Char → Option (α × List Char)} (nil : read [] = .none)
    (cons : ∀ character, Continues fun rest => read (character :: rest)) : Continues read := by
  rintro (_ | ⟨character, others⟩) result rest isRead kept
  · rw [nil] at isRead
    cases isRead
  · exact cons character isRead kept

end Continues

theorem readHexDigits?_continues (verbose : Bool) (value count : Nat) :
    Continues (readHexDigits? verbose value count) := by
  induction count generalizing value with
  | zero => exact .pure value
  | succ count inductionHypothesis =>
      refine .ofHead rfl fun digit => .bindOption (Text.Hex.value? digit) fun next => ?_
      exact .ofSkip verbose (fun _ => rfl) (inductionHypothesis (16 * value + next))

/-- A reader with fuel gives the same result when an ending follows and there is more fuel. -/
def ContinuesWithin {α : Type} (read : Nat → List Char → Option (α × List Char)) : Prop :=
  ∀ ⦃fuel pattern result rest⦄, read fuel pattern = some (result, rest) → ∀ kept, ∃ left,
    ∀ (ending : Ending) (more : Nat), fuel ≤ more →
      read more (pattern ++ ending.text kept) = some (result, rest ++ ending.text left)

/-- A reader with fuel takes a step first. -/
theorem exists_of_succ {holds : Bool → Ending → Nat → Prop} {fuel : Nat}
    (found : ∃ left, ∀ (ending : Ending) (more : Nat), fuel ≤ more → holds left ending (more + 1)) :
    ∃ left, ∀ (ending : Ending) (more : Nat), fuel + 1 ≤ more → holds left ending more := by
  obtain ⟨left, found⟩ := found
  refine ⟨left, fun ending more enough => ?_⟩
  obtain _ | more := more
  · cases enough
  · exact found ending more (Nat.le_of_succ_le_succ enough)

theorem ContinuesWithin.ofLength {α : Type} {read : Nat → List Char → Option (α × List Char)}
    (continues : ContinuesWithin read) : Continues fun pattern => read (pattern.length + 1) pattern := by
  intro pattern result rest isRead kept
  obtain ⟨left, reads⟩ := continues isRead kept
  exact ⟨left, fun ending => reads ending _ (by simp)⟩

theorem readBraced?_cons {character : Char} (noBrace : character ≠ '\x7d') (verbose : Bool)
    (reversed : List Char) (fuel : Nat) (rest : List Char) :
    readBraced? verbose reversed (fuel + 1) (character :: rest) =
      readBraced? verbose (character :: reversed) fuel (skip verbose rest) := by
  rw [readBraced?]
  exact noBrace

theorem readBraced?_continues (verbose : Bool) (reversed : List Char) :
    ContinuesWithin (readBraced? verbose reversed) := by
  intro fuel
  induction fuel generalizing reversed with
  | zero => nofun
  | succ fuel inductionHypothesis =>
      rintro (_ | ⟨character, rest⟩) result after read kept
      · cases read
      by_cases closes : character = '\x7d'
      · subst closes
        cases read
        refine ⟨kept, fun ending more enough => ?_⟩
        obtain ⟨more, rfl⟩ := Nat.exists_eq_add_of_le' enough
        rfl
      · rw [readBraced?_cons closes] at read
        obtain ⟨taken, skips⟩ := skip_append verbose rest kept
        obtain ⟨left, reads⟩ := inductionHypothesis _ read taken
        refine ⟨left, fun ending more enough => ?_⟩
        obtain ⟨more, rfl⟩ := Nat.exists_eq_add_of_le' enough
        rw [List.cons_append, ← Nat.add_assoc, readBraced?_cons closes, skips]
        exact reads ending _ (Nat.le_add_left _ _)

/-- In braces the blanks in front are skipped first. -/
theorem readBraced?_skip_continues (verbose : Bool) :
    Continues fun rest => readBraced? verbose [] (rest.length + 1) (skip verbose rest) := by
  intro pattern result rest isRead kept
  obtain ⟨taken, skips⟩ := skip_append verbose pattern kept
  obtain ⟨left, reads⟩ := readBraced?_continues verbose [] isRead taken
  refine ⟨left, fun ending => ?_⟩
  simp only [skips]
  exact reads ending _ (by simp)

theorem readHex?_continues (verbose : Bool) (mark : Char) : Continues (readHex? verbose mark) := by
  intro pattern result rest read kept
  obtain ⟨taken, skips⟩ := skip_append verbose pattern kept
  simp only [readHex?, skips] at read ⊢
  split at read
  next start braced =>
    simp only [braced, List.cons_append]
    exact (Continues.bind (readBraced?_skip_continues verbose) fun digits => .ite digits.isEmpty
      .none <| .bindOption (hexNumber? digits) fun value => .bindOption (scalar? value) fun character =>
        .pureSkip (Primitive.letter ⟨character, false⟩) verbose) read taken
  next noBrace =>
    obtain ⟨left, reads⟩ := (Continues.bind (readHexDigits?_continues verbose 0 (hexLength mark))
      fun value => .bindOption (scalar? value) fun character =>
        .pure (Primitive.letter ⟨character, mark = 'x'⟩)) read taken
    refine ⟨left, fun ending => ?_⟩
    split
    next marked =>
      exact absurd marked (Ending.append_text_ne (by decide) noBrace _)
    next => exact reads ending

theorem readProperty?_continues (verbose negated : Bool) :
    Continues (readProperty? verbose negated) := by
  intro pattern result rest read kept
  obtain ⟨taken, skips⟩ := skip_append verbose pattern kept
  simp only [readProperty?, skips] at read ⊢
  split at read
  next => cases read
  next start braced =>
    simp only [braced, List.cons_append]
    exact (Continues.bind (readBraced?_skip_continues verbose) fun text =>
      .pure (Primitive.property (propertyQuery text).1 (negated != (propertyQuery text).2)))
      read taken
  next letter start noBrace first =>
    simp only [first, List.cons_append]
    obtain ⟨left, reads⟩ := (Continues.ite (letter = '\\') .none
      (.pureSkip (Primitive.property (.name (String.ofList [letter])) negated) verbose)) read taken
    exact ⟨left, fun ending => reads ending⟩

/-- This function reads the accepted characters in front and skips the blanks after each. -/
def readWhile (accepts : Char → Bool) (verbose : Bool) (reversed : List Char) :
    Nat → List Char → List Char × List Char
  | 0, pattern => (reversed.reverse, pattern)
  | _ + 1, [] => (reversed.reverse, [])
  | fuel + 1, character :: rest =>
      if accepts character then
        readWhile accepts verbose (character :: reversed) fuel (skip verbose rest)
      else (reversed.reverse, character :: rest)

theorem readBoundaryName_eq (verbose : Bool) (reversed : List Char) (fuel : Nat)
    (pattern : List Char) : readBoundaryName verbose reversed fuel pattern =
      readWhile isBoundaryLetter verbose reversed fuel pattern := by
  induction fuel generalizing reversed pattern with
  | zero => rfl
  | succ fuel inductionHypothesis =>
      cases pattern with
      | nil => rfl
      | cons character rest => rw [readBoundaryName, readWhile, inductionHypothesis]

theorem readDigits_eq (verbose : Bool) (reversed : List Char) (fuel : Nat) (pattern : List Char) :
    readDigits verbose reversed fuel pattern =
      readWhile Char.isDigit verbose reversed fuel pattern := by
  induction fuel generalizing reversed pattern with
  | zero => rfl
  | succ fuel inductionHypothesis =>
      cases pattern with
      | nil => rfl
      | cons character rest => rw [readDigits, readWhile, inductionHypothesis]

/-- The accepted characters end before an ending. -/
theorem readWhile_append (accepts : Char → Bool) (stops : accepts ')' = false) (verbose : Bool)
    (reversed : List Char) {fuel : Nat} {pattern : List Char} (enough : pattern.length ≤ fuel)
    (kept : Bool) :
    ∃ left, ∀ (ending : Ending) (more : Nat), (pattern ++ ending.text kept).length ≤ more →
      readWhile accepts verbose reversed more (pattern ++ ending.text kept) =
        ((readWhile accepts verbose reversed fuel pattern).1,
          (readWhile accepts verbose reversed fuel pattern).2 ++ ending.text left) := by
  induction fuel generalizing reversed pattern kept with
  | zero =>
      obtain rfl := List.eq_nil_of_length_eq_zero (Nat.le_zero.mp enough)
      refine ⟨kept, fun ending more _ => ?_⟩
      cases more <;> cases kept <;> simp [readWhile, Ending.text, stops]
  | succ fuel inductionHypothesis =>
      cases pattern with
      | nil =>
          refine ⟨kept, fun ending more _ => ?_⟩
          cases more <;> cases kept <;> simp [readWhile, Ending.text, stops]
      | cons character rest =>
          by_cases accepted : accepts character
          · obtain ⟨taken, skips⟩ := skip_append verbose rest kept
            obtain ⟨left, reads⟩ := inductionHypothesis (character :: reversed)
              (Nat.le_trans (length_skip_le verbose rest) (Nat.le_of_succ_le_succ enough)) taken
            refine ⟨left, fun ending more long => ?_⟩
            obtain _ | more := more
            · cases long
            · have shorter := length_skip_le verbose (rest ++ ending.text kept)
              rw [skips] at shorter
              rw [List.cons_append, readWhile, if_pos accepted, readWhile, if_pos accepted, skips,
                reads ending more (Nat.le_trans shorter (Nat.le_of_succ_le_succ long))]
          · refine ⟨kept, fun ending more long => ?_⟩
            obtain _ | more := more
            · cases long
            · rw [List.cons_append, readWhile, if_neg accepted, readWhile, if_neg accepted,
                List.cons_append]

theorem readBoundary?_continues (verbose : Bool) : Continues (readBoundary? verbose) := by
  intro pattern result rest read kept
  by_cases isBraced : ∃ others, pattern = '\x7b' :: others
  · obtain ⟨others, rfl⟩ := isBraced
    obtain ⟨taken, skips⟩ := skip_append verbose others kept
    simp only [readBoundary?, List.cons_append, skips] at read ⊢
    cases first : skip verbose others with
    | nil =>
        rw [first] at read
        cases read
    | cons character more =>
        simp only [first, List.cons_append] at read ⊢
        by_cases isLetter : isBoundaryLetter character
        · simp only [if_pos isLetter, readBoundaryName_eq] at read ⊢
          obtain ⟨left, reads⟩ := readWhile_append isBoundaryLetter (by decide) verbose []
            (Nat.le_refl (character :: more).length) taken
          refine ⟨left, fun ending => ?_⟩
          have reads := reads ending _ (Nat.le_refl _)
          rw [List.length_cons] at reads
          simp only [List.cons_append, List.length_cons] at reads
          rw [reads]
          generalize readWhile isBoundaryLetter verbose [] (more.length + 1) (character :: more) =
            found at read ⊢
          obtain ⟨name, after⟩ := found
          split at read
          next closed =>
            obtain ⟨rfl, rfl⟩ := Prod.mk.injEq .. ▸ closed
            obtain ⟨kind, isKind, ⟨⟩⟩ := Option.map_eq_some_iff.mp read
            simp [isKind]
          next => cases read
        · simp only [if_neg isLetter] at read ⊢
          cases read
          exact ⟨kept, fun ending => rfl⟩
  · have unbraced {text : List Char} (no : ∀ rest, text ≠ '\x7b' :: rest) :
        readBoundary? verbose text = some (.assertion .wordBoundary, text) := by
      rw [readBoundary?]
      exact fun rest is => no rest is
    rw [unbraced fun others is => isBraced ⟨others, is⟩] at read
    cases read
    exact ⟨kept, fun ending => unbraced fun others is =>
      isBraced (Ending.exists_of_append_text (by decide) is)⟩

theorem readEscape?_continues (verbose : Bool) : Continues (readEscape? verbose) := by
  refine .ofHead rfl fun mark => ?_
  simp only [readEscape?]
  refine .ite _ (.pure _) ?_
  split
  all_goals first
    | exact .pure _
    | exact .none
    | exact readHex?_continues verbose _
    | exact readProperty?_continues verbose _
    | exact readBoundary?_continues verbose

theorem readPrimitive?_continues (verbose : Bool) (character : Char) :
    Continues (readPrimitive? verbose character) := by
  unfold readPrimitive?
  split
  all_goals first
    | exact .pure _
    | exact readEscape?_continues verbose

/-- Blanks are skipped as before. -/
theorem skipBlanks_append (verbose : Bool) (pattern : List Char) (kept : Bool) :
    ∃ left, ∀ ending : Ending, skipBlanks verbose (pattern ++ ending.text kept) =
      skipBlanks verbose pattern ++ ending.text left := by
  cases pattern with
  | nil =>
      refine ⟨kept, fun ending => ?_⟩
      cases kept <;> simp [skipBlanks, Ending.text, isBlank_parenthesis]
  | cons character rest =>
      simp only [skipBlanks, List.cons_append]
      by_cases isBlank : Text.Blank.isBlank character
      · simp only [if_pos isBlank]
        obtain ⟨left, skips⟩ := skip_append verbose
          ((character :: rest).dropWhile Text.Blank.isBlank) kept
        refine ⟨left, fun ending => ?_⟩
        rw [← skips, ← ending.dropWhile_append_text kept isBlank_parenthesis, List.cons_append]
      · simp only [if_neg isBlank]
        exact ⟨kept, fun ending => rfl⟩

theorem readCount_append (verbose : Bool) (pattern : List Char) (kept : Bool) :
    ∃ left, ∀ ending : Ending, readCount verbose (pattern ++ ending.text kept) =
      ((readCount verbose pattern).1, (readCount verbose pattern).2 ++ ending.text left) := by
  obtain ⟨taken, reads⟩ := readWhile_append Char.isDigit (by decide) verbose []
    (Nat.le_succ (pattern.dropWhile Text.Blank.isBlank).length) kept
  obtain ⟨left, skips⟩ := skipBlanks_append verbose (readWhile Char.isDigit verbose []
    ((pattern.dropWhile Text.Blank.isBlank).length + 1) (pattern.dropWhile Text.Blank.isBlank)).2
    taken
  refine ⟨left, fun ending => ?_⟩
  simp only [readCount, readDigits_eq, ending.dropWhile_append_text kept isBlank_parenthesis]
  rw [reads ending _ (Nat.le_succ _), skips]

/-- The second count of a repetition, up to the closing brace. -/
theorem readMost?_continues (verbose : Bool) (least : Nat) :
    Continues fun pattern =>
      (readCount verbose pattern).1.bind fun most => match (readCount verbose pattern).2 with
        | '\x7d' :: after => if least ≤ most then some ((least, some most), after) else none
        | _ => none := by
  intro pattern result rest read kept
  obtain ⟨left, counts⟩ := readCount_append verbose pattern kept
  obtain ⟨most, isMost, read⟩ := Option.bind_eq_some_iff.mp read
  split at read
  next after closed =>
    split at read
    next ordered =>
      cases read
      refine ⟨left, fun ending => ?_⟩
      simp [counts, isMost, closed, ordered]
    next => cases read
  next => cases read

theorem readCounts?_continues (verbose : Bool) : Continues (readCounts? verbose) := by
  intro pattern result rest read kept
  obtain ⟨taken, skips⟩ := skip_append verbose pattern kept
  simp only [readCounts?, skips] at read ⊢
  cases first : skip verbose pattern with
  | nil =>
      rw [first] at read
      cases read
  | cons character start =>
      obtain ⟨middle, counts⟩ := readCount_append verbose (character :: start) taken
      simp only [first, List.cons_append] at read counts ⊢
      simp only [counts]
      generalize readCount verbose (character :: start) = found at read ⊢
      obtain ⟨least?, after⟩ := found
      dsimp only at read ⊢
      split at read
      next after =>
        obtain ⟨least, rfl, ⟨⟩⟩ := Option.map_eq_some_iff.mp read
        exact ⟨middle, fun ending => rfl⟩
      next more =>
        obtain ⟨later, skips⟩ := skip_append verbose more middle
        simp only [List.cons_append, skips]
        split at read
        next after closed =>
          obtain ⟨least, rfl, ⟨⟩⟩ := Option.map_eq_some_iff.mp read
          exact ⟨later, fun ending => by simp [closed]⟩
        next notClosed =>
          obtain ⟨least, rfl, read⟩ := Option.bind_eq_some_iff.mp read
          obtain ⟨left, reads⟩ := readMost?_continues verbose least read later
          refine ⟨left, fun ending => ?_⟩
          split
          next closed =>
            obtain ⟨others, is⟩ := Ending.exists_of_append_text (by decide) closed
            exact absurd is (notClosed others)
          next => exact reads ending
      next => cases read

end MeshAccess.Regex
