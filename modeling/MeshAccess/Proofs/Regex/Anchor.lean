import MeshAccess.Proofs.Regex.Bracket
import MeshAccess.Regex.Pattern

/-! This file proves what becomes of a pattern between the start and the end of a text. -/

namespace MeshAccess.Regex

namespace Reader

theorem readFlags?_append (negated dash : Bool) (reversed : Settings) {pattern : List Char}
    {result : Settings × Char} {rest : List Char}
    (read : readFlags? negated dash reversed pattern = some (result, rest)) (text : List Char) :
    readFlags? negated dash reversed (pattern ++ text) = some (result, rest ++ text) := by
  induction pattern generalizing negated dash reversed with
  | nil => cases read
  | cons character others inductionHypothesis =>
      simp only [readFlags?, List.cons_append] at read ⊢
      by_cases closes : character = ':' || character = ')'
      · simp only [if_pos closes] at read ⊢
        split at read
        next => cases read
        next noDash =>
          cases read
          exact if_neg noDash
      · simp only [if_neg closes] at read ⊢
        by_cases isDash : character = '-'
        · simp only [if_pos isDash] at read ⊢
          split at read
          next => cases read
          next plain =>
            rw [if_neg plain]
            exact inductionHypothesis _ _ _ read
        · simp only [if_neg isDash] at read ⊢
          cases isFlag : flag? character with
          | none =>
              rw [isFlag] at read
              cases read
          | some flag =>
              simp only [isFlag] at read ⊢
              split at read
              next => cases read
              next isNew =>
                rw [if_neg isNew]
                exact inductionHypothesis _ _ _ read

theorem readNamedGroup?_continues (state : State) : Continues (readNamedGroup? state) := by
  intro pattern result rest read kept
  refine ⟨kept, fun ending => ?_⟩
  simp only [readNamedGroup?] at read ⊢
  cases after : pattern.dropWhile (· ≠ '>') with
  | nil =>
      rw [after] at read
      cases read
  | cons first others =>
      have ends : pattern.dropWhile (· ≠ '>') ≠ [] := after ▸ List.cons_ne_nil first others
      rw [Bracket.takeWhile_append_text ends, List.dropWhile_append, if_neg (by simpa using ends),
        after, List.cons_append]
      rw [after] at read
      split at read
      next is =>
        cases is
        split at read
        next isNew =>
          cases read
          exact if_pos isNew
        next => cases read
      next => cases read

theorem readGroup?_named {state : State} {pattern rest : List Char}
    (start : skip state.verbose pattern = '?' :: '<' :: rest)
    (noLook : ∀ others, rest ≠ '=' :: others ∧ rest ≠ '!' :: others) :
    readGroup? state pattern = readNamedGroup? state rest := by
  unfold readGroup?
  rw [start]
  split <;> grind

theorem readGroup?_python {state : State} {pattern rest : List Char}
    (start : skip state.verbose pattern = '?' :: 'P' :: '<' :: rest) :
    readGroup? state pattern = readNamedGroup? state rest := by
  unfold readGroup?
  rw [start]
  split <;> grind

/-- What flags in parentheses do, which stand for themselves or before a group. -/
def withFlags? (state : State) :
    (Settings × Char) × List Char → Option (State × List Char)
  | ((settings, ':'), rest) => some (state.openGroup false settings, rest)
  | (([], _), _) => none
  | ((settings, _), rest) =>
      some ({ state with
        level := state.level.append (.settings settings)
        verbose := (settings.lookup .verbose).getD state.verbose }, rest)

theorem withFlags?_append {state : State} {flags : Settings × Char} {pattern : List Char}
    {result : State} {rest : List Char}
    (applied : withFlags? state (flags, pattern) = some (result, rest)) (text : List Char) :
    withFlags? state (flags, pattern ++ text) = some (result, rest ++ text) := by
  unfold withFlags? at applied ⊢
  split at applied <;> grind

theorem readGroup?_flags {state : State} {pattern rest : List Char}
    (start : skip state.verbose pattern = '?' :: rest)
    (noLook : ∀ others, rest ≠ '=' :: others ∧ rest ≠ '!' :: others)
    (noName : ∀ others, rest ≠ '<' :: others ∧ rest ≠ 'P' :: '<' :: others) :
    readGroup? state pattern = (readFlags? false false [] rest).bind (withFlags? state) := by
  unfold readGroup?
  rw [start]
  split <;> grind [withFlags?]

theorem readGroup?_plain {state : State} {pattern : List Char}
    (start : ∀ rest, skip state.verbose pattern ≠ '?' :: rest) :
    readGroup? state pattern = some (state.openGroup true [], skip state.verbose pattern) := by
  unfold readGroup?
  split <;> grind

theorem readGroup?_continues (state : State) : Continues (readGroup? state) := by
  intro pattern result rest read kept
  obtain ⟨taken, skips⟩ := skip_append state.verbose pattern kept
  have marked (marks : List Char) {others : List Char}
      (start : skip state.verbose pattern = marks ++ others) (ending : Ending) :
      skip state.verbose (pattern ++ ending.text kept) =
        marks ++ (others ++ ending.text taken) := by
    rw [skips, start, List.append_assoc]
  have whole := read
  unfold readGroup? at read
  -- No ending makes the start of another kind of group.
  split at read
  next => cases read
  next => cases read
  next => cases read
  next => cases read
  next others start =>
    obtain ⟨left, reads⟩ := readNamedGroup?_continues state read taken
    exact ⟨left, fun ending =>
      (readGroup?_python (marked ['?', 'P', '<'] start ending)).trans (reads ending)⟩
  next others noEqual noBang start =>
    obtain ⟨left, reads⟩ := readNamedGroup?_continues state read taken
    refine ⟨left, fun ending => ?_⟩
    refine (readGroup?_named (marked ['?', '<'] start ending) fun more => ⟨?_, ?_⟩).trans
      (reads ending)
    · exact Ending.append_text_ne (by decide) noEqual more
    · exact Ending.append_text_ne (by decide) noBang more
  next others noEqual noBang _ _ noPython noName start =>
    rw [readGroup?_flags start (fun more => ⟨noEqual more, noBang more⟩) fun more =>
      ⟨noName more, noPython more⟩] at whole
    obtain ⟨⟨flags, after⟩, isFlags, applied⟩ := Option.bind_eq_some_iff.mp whole
    refine ⟨taken, fun ending => ?_⟩
    refine (readGroup?_flags (marked ['?'] start ending) (fun more => ⟨?_, ?_⟩)
      fun more => ⟨?_, ?_⟩).trans ?_
    · exact Ending.append_text_ne (by decide) noEqual more
    · exact Ending.append_text_ne (by decide) noBang more
    · exact Ending.append_text_ne (by decide) noName more
    · exact Ending.append_text_ne_of_two (by decide) noPython more
    · change (readFlags? false false [] (others ++ ending.text taken)).bind _ = _
      rw [readFlags?_append false false [] isFlags, Option.bind_some]
      exact withFlags?_append applied _
  next plain =>
    cases read
    refine ⟨taken, fun ending => ?_⟩
    rw [readGroup?_plain fun others => by
      rw [skips]
      exact Ending.append_text_ne (by decide) plain others, skips]

/-- No ending begins with the mark of a lazy repetition. -/
theorem readLazy_append (pattern : List Char) (ending : Ending) (kept : Bool) :
    readLazy (pattern ++ ending.text kept) =
      ((readLazy pattern).1, (readLazy pattern).2 ++ ending.text kept) := by
  cases pattern with
  | nil => cases kept <;> rfl
  | cons character rest =>
      by_cases isLazy : character = '?'
      · subst isLazy
        rfl
      · simp [readLazy, isLazy]

theorem readRepetition?_continues (state : State) (least : Nat) (most : Option Nat) :
    Continues (readRepetition? state least most) := by
  intro pattern result rest read kept
  obtain ⟨next, repeats, ⟨⟩⟩ := Option.map_eq_some_iff.mp read
  refine ⟨kept, fun ending => ?_⟩
  simp only [readRepetition?, readLazy_append, repeats, Option.map_some]

theorem step?_continues (state : State) (character : Char) :
    Continues (step? state character) := by
  unfold step?
  simp only [Option.map_eq_bind, Function.comp_def]
  split
  next => exact readGroup?_continues state
  next => exact .bindOption state.closeGroup? fun state => .pure state
  next => exact .pure _
  next =>
    exact .bind (Bracket.readSet?_continues state.verbose) fun set =>
      .pure { state with level := state.level.append set }
  next => exact readRepetition?_continues state 0 (some 1)
  next => exact readRepetition?_continues state 0 none
  next => exact readRepetition?_continues state 1 none
  next =>
    exact .bind (readCounts?_continues state.verbose) fun counts =>
      .ofSkip state.verbose (fun _ => rfl) (readRepetition?_continues state counts.1 counts.2)
  next =>
    exact .bind (readPrimitive?_continues state.verbose character) fun primitive =>
      .pure { state with level := state.level.append (syntaxOf primitive) }

/-- The state inside groups that are open already. -/
def State.within (state : State) (outer : List Frame) : State :=
  { state with frames := state.frames ++ outer }

theorem readNamedGroup?_within (state : State) (outer : List Frame) (pattern : List Char) :
    readNamedGroup? (state.within outer) pattern =
      (readNamedGroup? state pattern).map fun found => (found.1.within outer, found.2) := by
  simp only [readNamedGroup?]
  split
  next =>
    change (if (_ && !state.names.contains _) = true then _ else _) = _
    split <;> rfl
  next => rfl

theorem readGroup?_within (state : State) (outer : List Frame) (pattern : List Char) :
    readGroup? (state.within outer) pattern =
      (readGroup? state pattern).map fun found => (found.1.within outer, found.2) := by
  have same : (state.within outer).verbose = state.verbose := rfl
  unfold readGroup?
  rw [same]
  split
  case h_5 => exact readNamedGroup?_within state outer _
  case h_6 => exact readNamedGroup?_within state outer _
  case h_7 rest _ _ _ _ _ _ _ =>
    split <;> rfl
  all_goals rfl

theorem repeat?_within (state : State) (outer : List Frame) (least : Nat) (most : Option Nat)
    (isLazy : Bool) : (state.within outer).repeat? least most isLazy =
      (state.repeat? least most isLazy).map fun next => next.within outer := by
  have same : (state.within outer).level = state.level := rfl
  unfold State.repeat?
  rw [same]
  split <;> rfl

theorem readRepetition?_within (state : State) (outer : List Frame) (least : Nat)
    (most : Option Nat) (pattern : List Char) :
    readRepetition? (state.within outer) least most pattern =
      (readRepetition? state least most pattern).map fun found =>
        (found.1.within outer, found.2) := by
  simp only [readRepetition?, repeat?_within, Option.map_map]
  rfl

theorem closeGroup?_within {state next : State} (closes : state.closeGroup? = some next)
    (outer : List Frame) : (state.within outer).closeGroup? = some (next.within outer) := by
  unfold State.closeGroup? at closes
  split at closes
  next => cases closes
  next frame frames opened =>
    cases closes
    simp [State.within, State.closeGroup?, opened]

/-- An open group around the pattern does not change how a part is read. -/
theorem step?_within {state next : State} {character : Char} {rest left : List Char}
    (steps : step? state character rest = some (next, left)) (outer : List Frame) :
    step? (state.within outer) character rest = some (next.within outer, left) := by
  have verbose : (state.within outer).verbose = state.verbose := rfl
  unfold step? at steps ⊢
  simp only [readRepetition?_within, readGroup?_within, verbose]
  split at steps
  next => rw [steps, Option.map_some]
  next =>
    obtain ⟨closed, closes, ⟨⟩⟩ := Option.map_eq_some_iff.mp steps
    rw [closeGroup?_within closes, Option.map_some]
  next =>
    cases steps
    rfl
  next =>
    obtain ⟨⟨set, after⟩, isSet, ⟨⟩⟩ := Option.map_eq_some_iff.mp steps
    rw [isSet]
    rfl
  case h_5 | h_6 | h_7 => rw [steps, Option.map_some]
  next =>
    obtain ⟨⟨⟨least, most⟩, after⟩, counts, steps⟩ := Option.bind_eq_some_iff.mp steps
    have repeats :
        readRepetition? state least most (skip state.verbose after) = some (next, left) := steps
    simp only [counts, Option.bind_eq_bind, Option.bind_some, repeats, Option.map_some]
  next =>
    obtain ⟨⟨primitive, after⟩, isPrimitive, ⟨⟩⟩ := Option.bind_eq_some_iff.mp steps
    simp only [isPrimitive, Option.bind_eq_bind, Option.bind_some]
    rfl

theorem skip_of_nil (verbose : Bool) : skip verbose [] = [] := rfl

theorem skip_text (verbose : Bool) (ending : Ending) (kept : Bool) :
    skip verbose (ending.text kept) = ending.text kept := by
  cases verbose with
  | false => exact skip_plain _
  | true =>
      cases kept with
      | false => rfl
      | true => rw [skip_of_no_comment] <;> simp [Ending.text, isBlank_parenthesis]

theorem run?_cons {state next : State} {fuel : Nat} {pattern rest others : List Char}
    {character : Char} (first : skip state.verbose pattern = character :: rest)
    (steps : step? state character rest = some (next, others)) :
    run? state (fuel + 1) pattern = run? next fuel others := by
  rw [run?, first]
  simp only [steps]

/-- A pattern that is read to its end leads to the same state when an ending follows, also inside of
other groups. -/
theorem run?_append {state : State} {fuel : Nat} {pattern : List Char} {tree : Syntax}
    (reads : run? state fuel pattern = some tree) (kept : Bool) :
    ∃ (final : State) (used : Nat) (left : Bool),
      used < fuel ∧ final.frames = [] ∧ final.level.close = tree ∧
        ∀ (ending : Ending) (outer : List Frame) (more : Nat),
          run? (state.within outer) (used + more) (pattern ++ ending.text kept) =
            run? (final.within outer) more (ending.text left) := by
  induction fuel generalizing state pattern kept with
  | zero => cases reads
  | succ fuel inductionHypothesis =>
      obtain ⟨taken, skips⟩ := skip_append state.verbose pattern kept
      rw [run?] at reads
      cases start : skip state.verbose pattern with
      | nil =>
          simp only [start] at reads
          split at reads
          next closed =>
            cases reads
            refine ⟨state, 0, taken, Nat.succ_pos _, List.isEmpty_iff.mp closed, rfl,
              fun ending outer more => ?_⟩
            rw [Nat.zero_add]
            cases more with
            | zero => rfl
            | succ more =>
                have same : skip (state.within outer).verbose (pattern ++ ending.text kept) =
                    skip (state.within outer).verbose (ending.text taken) := by
                  rw [skip_text]
                  exact (skips ending).trans (by rw [start]; rfl)
                rw [run?, run?, same]
          next => cases reads
      | cons character rest =>
          simp only [start] at reads
          split at reads
          next next others steps =>
            obtain ⟨middle, continues⟩ := step?_continues state character steps taken
            obtain ⟨final, used, left, bounded, closed, isTree, runs⟩ :=
              inductionHypothesis reads middle
            refine ⟨final, used + 1, left, Nat.succ_lt_succ bounded, closed, isTree,
              fun ending outer more => ?_⟩
            have first : skip (state.within outer).verbose (pattern ++ ending.text kept) =
                character :: (rest ++ ending.text taken) :=
              (skips ending).trans (by rw [start]; rfl)
            rw [Nat.add_right_comm, run?_cons first (step?_within (continues ending) outer)]
            exact runs ending outer more
          next => cases reads

end Reader

/-- A parenthesis behind the pattern, which would close nothing, is part of a comment. -/
def EndsInComment (pattern : List Char) : Prop := (Syntax.read? (pattern ++ [')'])).isSome = true

instance (pattern : List Char) : Decidable (EndsInComment pattern) :=
  inferInstanceAs (Decidable (_ = true))

/-- The expression of a pattern between the start and the end of a text. -/
def Syntax.anchored (tree : Syntax) : Syntax :=
  .concat [.assertion .lineStart, .group false [] tree, .assertion .lineEnd]

theorem Syntax.nesting_anchored (tree : Syntax) : tree.anchored.nesting = tree.nesting + 2 := by
  simp [anchored, nesting, nestingParts]

namespace Ending

def parenthesis : Ending := ⟨[], by simp, by simp⟩

def anchor : Ending := ⟨['$'], by decide, by decide⟩

end Ending

namespace Reader

theorem run?_nil (state : State) (fuel : Nat) :
    run? state (fuel + 1) [] = if state.frames.isEmpty then some state.level.close else none := by
  rw [run?, skip_of_nil]

theorem run?_parenthesis (state : State) (fuel : Nat) (ending : Ending) :
    run? state (fuel + 1) (ending.text true) =
      state.closeGroup?.bind fun next => run? next fuel ending.more := by
  rw [run?, skip_text]
  simp only [Ending.text, if_true, step?]
  cases state.closeGroup? <;> rfl

/-- The level outside of the group around a pattern. -/
def anchorFrame : Frame := ⟨⟨[], [.assertion .lineStart]⟩, false, [], false⟩

def start : State := ⟨[], .empty, false, []⟩

theorem run?_opening (fuel : Nat) (pattern : List Char) :
    run? start (fuel + 2) ('^' :: '(' :: '?' :: ':' :: pattern) =
      run? (start.within [anchorFrame]) fuel pattern := by
  rw [run?_cons (skip_plain _) rfl, run?_cons (skip_plain _) rfl]
  rfl

theorem run?_closing {final : State} (closed : final.frames = []) (fuel : Nat) :
    run? (final.within [anchorFrame]) (fuel + 3) (Ending.anchor.text true) =
      some final.level.close.anchored := by
  obtain ⟨frames, level, verbose, names⟩ := final
  cases closed
  rw [run?_parenthesis]
  rfl

end Reader

theorem Syntax.read?_eq (pattern : List Char) :
    Syntax.read? pattern =
      (Reader.run? Reader.start (pattern.length + 1) pattern).bind fun tree =>
        if tree.nesting ≤ nestingLimit then some tree else none := by
  simp only [Syntax.read?, Reader.start]
  cases Reader.run? ⟨[], .empty, false, []⟩ (pattern.length + 1) pattern <;> rfl

theorem anchor_eq (pattern : String) : anchor pattern =
    '^' :: '(' :: '?' :: ':' :: (pattern.toList ++ Ending.anchor.text true) := by
  rw [anchor, List.append_assoc]
  rfl

/-- The end of a pattern is a comment when it swallows a parenthesis behind it. -/
theorem endsInComment_iff {pattern : List Char} {final : Reader.State} {used : Nat} {left : Bool}
    (fits : used < pattern.length + 1) (closed : final.frames = [])
    (bounded : final.level.close.nesting ≤ nestingLimit)
    (continues : ∀ (ending : Ending) (outer : List Reader.Frame) (more : Nat),
      Reader.run? (Reader.start.within outer) (used + more) (pattern ++ ending.text true) =
        Reader.run? (final.within outer) more (ending.text left)) :
    EndsInComment pattern ↔ left = false := by
  obtain ⟨spare, length⟩ := Nat.exists_eq_add_of_lt fits
  have noFrames : (final.within []).frames = [] := by rw [Reader.State.within, closed]; rfl
  have enough : (pattern ++ [')']).length + 1 = used + (spare + 1 + 1) := by
    rw [List.length_append, List.length_singleton]
    omega
  rw [EndsInComment, Syntax.read?_eq, enough,
    show Reader.run? Reader.start (used + (spare + 1 + 1)) (pattern ++ [')']) = _ from
      continues .parenthesis [] (spare + 1 + 1)]
  cases left with
  | true => simp [Reader.run?_parenthesis, Reader.State.closeGroup?, noFrames]
  | false =>
      have emptied : Reader.run? (final.within []) (spare + 1 + 1)
          (Ending.parenthesis.text false) = some final.level.close := by
        rw [show Ending.parenthesis.text false = [] from rfl, Reader.run?_nil, noFrames]
        rfl
      simp [emptied, bounded]

/-- A well-formed pattern stands in a group as it is, unless its end is a comment. -/
theorem read?_anchor {pattern : String} {tree : Syntax}
    (reads : Syntax.read? pattern.toList = some tree) :
    Syntax.read? (anchor pattern) =
      if ¬EndsInComment pattern.toList ∧ tree.nesting + 2 ≤ nestingLimit then some tree.anchored
      else none := by
  rw [Syntax.read?_eq, Option.bind_eq_some_iff] at reads
  obtain ⟨_, runs, reads⟩ := reads
  obtain ⟨bounded, ⟨⟩⟩ := Option.ite_none_right_eq_some.mp reads
  obtain ⟨final, used, left, fits, closed, rfl, continues⟩ := Reader.run?_append runs true
  have ends := endsInComment_iff fits closed bounded continues
  obtain ⟨spare, length⟩ := Nat.exists_eq_add_of_lt fits
  have enough : (anchor pattern).length + 1 = used + (spare + 5) + 2 := by
    simp only [anchor_eq, List.length_cons, List.length_append, Ending.text, Ending.anchor, if_true,
      List.length_nil]
    omega
  rw [Syntax.read?_eq, enough, anchor_eq, Reader.run?_opening,
    continues .anchor [Reader.anchorFrame] (spare + 5)]
  cases left with
  | true =>
      rw [Reader.run?_closing closed, Option.bind_some, Syntax.nesting_anchored]
      simp [ends]
  | false =>
      rw [show Ending.anchor.text false = [] from rfl, Reader.run?_nil]
      simp [ends, Reader.State.within]

end MeshAccess.Regex
