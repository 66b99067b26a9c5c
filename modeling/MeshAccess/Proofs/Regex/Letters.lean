import MeshAccess.Proofs.Regex.Anchor
import MeshAccess.Proofs.Regex.Span

/-! This file says what a pattern matches that has letters between two wildcards. -/

namespace MeshAccess.Regex

open MeshAccess.Unicode (CodePoints)

/-- The characters that have a meaning of their own outside brackets. -/
def marks : List Char := ['(', ')', '|', '[', '?', '*', '+', '\x7b', '\\', '.', '^', '$']

/-- The characters stand for themselves in a pattern. -/
def AreLetters (characters : List Char) : Prop := ∀ character ∈ characters, character ∉ marks

instance (characters : List Char) : Decidable (AreLetters characters) :=
  List.decidableBAll (· ∉ marks) characters

namespace Syntax

/-- Letters in a row as they are written. -/
def ofLetters (characters : List Char) : List Syntax :=
  characters.map fun character => .letter ⟨character, false⟩

/-- A dot with a star. -/
def wildcard : Syntax := .repetition .dot 0 none false

/-- Letters between two wildcards. -/
def betweenWildcards (characters : List Char) : Syntax :=
  .concat (wildcard :: (ofLetters characters ++ [wildcard]))

end Syntax

/-- The text of a pattern with letters between two wildcards. -/
def betweenWildcards (characters : List Char) : List Char :=
  '.' :: '*' :: (characters ++ ['.', '*'])

namespace Reader

/-- The state outside of groups, with the parts of the first branch in reverse order. -/
def State.ofParts (parts : List Syntax) : State := ⟨[], ⟨[], parts⟩, false, []⟩

theorem step?_of_letter (parts : List Syntax) {character : Char} (isLetter : character ∉ marks)
    (rest : List Char) :
    step? (.ofParts parts) character rest =
      some (.ofParts (.letter ⟨character, false⟩ :: parts), rest) := by
  unfold step?
  split
  case h_9 =>
    unfold readPrimitive?
    split
    case h_5 => rfl
    all_goals exact absurd (by decide) isLetter
  all_goals exact absurd (by decide) isLetter

/-- Letters are read one after the other. -/
theorem run?_letters {characters : List Char} (areLetters : AreLetters characters)
    (parts : List Syntax) (fuel : Nat) (rest : List Char) :
    run? (.ofParts parts) (fuel + characters.length) (characters ++ rest) =
      run? (.ofParts ((Syntax.ofLetters characters).reverse ++ parts)) fuel rest := by
  induction characters generalizing parts with
  | nil => rfl
  | cons character others inductionHypothesis =>
      obtain ⟨isLetter, areLetters⟩ := List.forall_mem_cons.mp areLetters
      rw [List.length_cons, ← Nat.add_assoc, List.cons_append,
        run?_cons (skip_plain _) (step?_of_letter parts isLetter _), inductionHypothesis areLetters,
        Syntax.ofLetters, Syntax.ofLetters, List.map_cons, List.reverse_cons, List.append_assoc]
      rfl

theorem run?_wildcard (parts : List Syntax) (fuel : Nat) {rest : List Char}
    (greedy : readLazy rest = (false, rest)) :
    run? (.ofParts parts) (fuel + 2) ('.' :: '*' :: rest) =
      run? (.ofParts (Syntax.wildcard :: parts)) fuel rest := by
  have steps : step? (.ofParts (.dot :: parts)) '*' rest =
      some (.ofParts (Syntax.wildcard :: parts), rest) := by
    change readRepetition? (.ofParts (.dot :: parts)) 0 none rest = _
    rw [readRepetition?, greedy]
    rfl
  rw [run?_cons (skip_plain _) rfl]
  exact run?_cons (skip_plain _) steps

/-- A star in front of letters is not lazy. -/
theorem readLazy_of_letters {characters : List Char} (areLetters : AreLetters characters) :
    readLazy (characters ++ ['.', '*']) = (false, characters ++ ['.', '*']) := by
  cases characters with
  | nil => rfl
  | cons character others =>
      rw [List.cons_append, readLazy]
      intro _ same
      obtain rfl := (List.cons.inj same).1
      exact areLetters '?' List.mem_cons_self (by decide)

end Reader

theorem Syntax.nestingParts_ofLetters (characters : List Char) (rest : List Syntax) :
    nestingParts (ofLetters characters ++ rest) = nestingParts rest := by
  induction characters with
  | nil => rfl
  | cons character others inductionHypothesis =>
      rw [← inductionHypothesis]
      exact Nat.zero_max _

theorem Syntax.read?_betweenWildcards {characters : List Char} (areLetters : AreLetters characters) :
    Syntax.read? (Regex.betweenWildcards characters) = some (betweenWildcards characters) := by
  have length : (Regex.betweenWildcards characters).length + 1 = 1 + 2 + characters.length + 2 := by
    simp only [Regex.betweenWildcards, List.length_cons, List.length_append, List.length_nil]
    omega
  have reads : Reader.run? (.ofParts []) ((Regex.betweenWildcards characters).length + 1)
      (Regex.betweenWildcards characters) = some (betweenWildcards characters) := by
    rw [length, Regex.betweenWildcards,
      Reader.run?_wildcard _ _ (Reader.readLazy_of_letters areLetters),
      Reader.run?_letters areLetters, Reader.run?_wildcard _ _ rfl, Reader.run?_nil]
    have parts : (wildcard :: ((ofLetters characters).reverse ++ [wildcard])).reverse =
        wildcard :: (ofLetters characters ++ [wildcard]) := by simp
    change some (Syntax.ofParts
      (wildcard :: ((ofLetters characters).reverse ++ [wildcard])).reverse) = _
    rw [parts, betweenWildcards]
    cases ofLetters characters <;> rfl
  rw [Syntax.read?_eq, show Reader.start = .ofParts [] from rfl, reads, Option.bind_some, if_pos]
  rw [betweenWildcards, nesting, nestingParts, nestingParts_ofLetters]
  decide

namespace Expr

/-- The expression of a dot with a star. A dot matches all characters but the line feed. -/
def wildcard : Expr := .repetition (.set (CodePoints.singleton 0xA).complement true) 0 none false

/-- The expression of letters between two wildcards. -/
def betweenWildcards (characters : List Char) : Expr :=
  inRow (wildcard :: (characters.map (fun character => .literal [character]) ++ [wildcard]))

end Expr

namespace Resolve

theorem exprs?_cons {flags next : Flags} {part : Syntax} {expr : Expr}
    (first : expr? flags part = some (expr, next)) (rest : List Syntax) :
    exprs? flags (part :: rest) =
      (exprs? next rest).map fun resolved => (expr :: resolved.1, resolved.2) := by
  cases resolved : exprs? next rest <;> simp [exprs?, first, resolved]

theorem exprs?_ofLetters (characters : List Char) (rest : List Syntax) :
    exprs? (.initial false) (Syntax.ofLetters characters ++ rest) =
      (exprs? (.initial false) rest).map fun resolved =>
        (characters.map (fun character => .literal [character]) ++ resolved.1, resolved.2) := by
  induction characters with
  | nil => simp [Syntax.ofLetters]
  | cons character others inductionHypothesis =>
      rw [Syntax.ofLetters, List.map_cons, List.cons_append, ← Syntax.ofLetters,
        @exprs?_cons _ (.initial false) _ (.literal [character]) rfl, inductionHypothesis,
        Option.map_map]
      rfl

end Resolve

theorem Syntax.resolve?_betweenWildcards (characters : List Char) :
    (betweenWildcards characters).resolve? false = some (Expr.betweenWildcards characters) := by
  have resolves : Resolve.expr? (.initial false) wildcard =
      some (Expr.wildcard, .initial false) := rfl
  rw [resolve?, betweenWildcards, Resolve.expr?, Resolve.exprs?_cons resolves,
    Resolve.exprs?_ofLetters, Resolve.exprs?_cons resolves]
  rfl

namespace Expr

variable {text : List Char}

theorem contains_complement_lineFeed (character : Char) :
    (CodePoints.singleton 0xA).complement.contains character.toNat = true ↔ character ≠ '\n' := by
  have scalar : character.toNat < 0xD800 ∨ 0xDFFF < character.toNat ∧ character.toNat < 0x110000 :=
    character.valid
  have ranges : (CodePoints.singleton 0xA).complement =
      ⟨[(0x0, 0x9), (0xB, 0xD7FF), (0xE000, 0x10FFFF)]⟩ := by decide
  have lineFeed : character = '\n' ↔ character.toNat = 0xA := Char.toNat_inj.symm
  rw [ranges, Ne, lineFeed]
  simp only [CodePoints.contains, List.any_cons, List.any_nil, Bool.or_false, Bool.or_eq_true,
    Bool.and_eq_true, decide_eq_true_iff]
  omega

theorem spans_letter {character : Char} {first last : Nat} :
    (literal [character]).Spans text first last ↔
      text[first]? = some character ∧ first + 1 = last := by
  rw [Spans, ← List.head?_drop]
  cases text.drop first <;> simp [eq_comm]

/-- Characters of a set in a row make any text of such characters. -/
theorem steps_set_iff {members : CodePoints} {unicode : Bool} {count first last : Nat} :
    Steps ((set members unicode).Spans text) count first last ↔
      ∃ line : List Char, line.length = count ∧
        (∀ character ∈ line, members.contains character.toNat = true) ∧
          (literal line).Spans text first last := by
  induction count generalizing first with
  | zero => simp [Steps.zero_iff, Spans]
  | succ count inductionHypothesis =>
      rw [Steps.succ_iff]
      constructor
      · rintro ⟨next, ⟨⟨character, there, isMember⟩, here⟩, steps⟩
        obtain ⟨line, length, areMembers, spans⟩ := inductionHypothesis.mp steps
        exact ⟨character :: line, congrArg (· + 1) length,
          List.forall_mem_cons.mpr ⟨isMember, areMembers⟩,
          @spans_literal_append _ [character] line _ _ |>.mpr
            ⟨next, spans_letter.mpr ⟨there, here⟩, spans⟩⟩
      · rintro ⟨_ | ⟨character, line⟩, length, areMembers, spans⟩
        · cases length
        · obtain ⟨isMember, areMembers⟩ := List.forall_mem_cons.mp areMembers
          obtain ⟨next, letter, spans⟩ := (@spans_literal_append _ [character] line _ _).mp spans
          obtain ⟨there, here⟩ := spans_letter.mp letter
          exact ⟨next, ⟨⟨character, there, isMember⟩, here⟩, inductionHypothesis.mpr
            ⟨line, Nat.succ.inj length, areMembers, spans⟩⟩

/-- A wildcard matches every text without a line feed. -/
theorem spans_wildcard {first last : Nat} :
    wildcard.Spans text first last ↔
      ∃ line, '\n' ∉ line ∧ (literal line).Spans text first last := by
  have noLineFeed (line : List Char) :
      (∀ character ∈ line, (CodePoints.singleton 0xA).complement.contains character.toNat = true) ↔
        '\n' ∉ line := by
    simp only [contains_complement_lineFeed]
    exact ⟨fun others member => others _ member rfl, fun none _ member same => none (same ▸ member)⟩
  simp only [wildcard, Spans.eq_5, steps_set_iff, noLineFeed]
  constructor
  · rintro ⟨_, -, line, -, spans⟩
    exact ⟨line, spans⟩
  · rintro ⟨line, spans⟩
    exact ⟨line.length, nofun, line, (Nat.zero_add _).symm, spans⟩

theorem rowSpans_letters {characters : List Char} {rest : List Expr} {first last : Nat} :
    RowSpans text (characters.map (fun character => .literal [character]) ++ rest) first last ↔
      ∃ middle, (literal characters).Spans text first middle ∧ RowSpans text rest middle last := by
  induction characters generalizing first with
  | nil => simp [Spans]
  | cons character others inductionHypothesis =>
      have split : character :: others = [character] ++ others := rfl
      rw [List.map_cons, List.cons_append, split]
      simp only [RowSpans, inductionHypothesis, spans_literal_append]
      constructor
      · rintro ⟨next, here, middle, letters, later⟩
        exact ⟨middle, ⟨next, here, letters⟩, later⟩
      · rintro ⟨middle, ⟨next, here, letters⟩, later⟩
        exact ⟨next, here, middle, letters, later⟩

theorem spans_literal_whole {characters : List Char} :
    (literal characters).Spans text 0 text.length ↔ text = characters := by
  rw [Spans, List.drop_zero, Nat.zero_add]
  exact ⟨fun ⟨start, length⟩ => (start.eq_of_length length).symm,
    fun same => same ▸ ⟨List.prefix_refl _, rfl⟩⟩

/-- Letters between wildcards match a text that has them between two pieces without a line feed. -/
theorem spans_betweenWildcards {characters : List Char} :
    (betweenWildcards characters).Spans text 0 text.length ↔
      ∃ before after, '\n' ∉ before ∧ '\n' ∉ after ∧ text = before ++ characters ++ after := by
  rw [betweenWildcards, spans_inRow]
  simp only [RowSpans, rowSpans_letters, spans_wildcard]
  constructor
  · rintro ⟨start, ⟨before, noneBefore, first⟩, finish, letters, _, ⟨after, noneAfter, last⟩, rfl⟩
    exact ⟨before, after, noneBefore, noneAfter, spans_literal_whole.mp (spans_literal_append.mpr
      ⟨finish, spans_literal_append.mpr ⟨start, first, letters⟩, last⟩)⟩
  · rintro ⟨before, after, noneBefore, noneAfter, split⟩
    obtain ⟨finish, letters, last⟩ := spans_literal_append.mp (spans_literal_whole.mpr split)
    obtain ⟨start, first, letters⟩ := spans_literal_append.mp letters
    exact ⟨start, ⟨before, noneBefore, first⟩, finish, letters, _, ⟨after, noneAfter, last⟩, rfl⟩

end Expr

end MeshAccess.Regex
