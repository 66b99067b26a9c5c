import Mathlib.Logic.Function.Iterate
import MeshAccess.Regex.Match

/-! This file says what expressions mean and proves that the sets of positions are right. -/

namespace MeshAccess.Regex

/-- A number of steps leads from one position to another. -/
inductive Steps (step : Nat → Nat → Prop) : Nat → Nat → Nat → Prop where
  | done {position : Nat} : Steps step 0 position position
  | more {count first next last : Nat} (here : step first next)
      (rest : Steps step count next last) : Steps step (count + 1) first last

namespace Steps

variable {step : Nat → Nat → Prop}

theorem zero_iff {first last : Nat} : Steps step 0 first last ↔ first = last :=
  ⟨fun steps => by cases steps; rfl, fun same => same ▸ .done⟩

theorem succ_iff {count first last : Nat} :
    Steps step (count + 1) first last ↔ ∃ next, step first next ∧ Steps step count next last :=
  ⟨fun steps => by cases steps with | more here rest => exact ⟨_, here, rest⟩,
    fun ⟨_, here, rest⟩ => .more here rest⟩

theorem add_iff {early late first last : Nat} :
    Steps step (early + late) first last ↔
      ∃ middle, Steps step early first middle ∧ Steps step late middle last := by
  induction early generalizing first with
  | zero => simp [zero_iff]
  | succ count inductionHypothesis =>
      rw [Nat.succ_add, succ_iff]
      simp only [inductionHypothesis, succ_iff]
      constructor
      · rintro ⟨next, here, middle, before, after⟩
        exact ⟨middle, ⟨next, here, before⟩, after⟩
      · rintro ⟨middle, ⟨next, here, before⟩, after⟩
        exact ⟨next, here, middle, before, after⟩

/-- What every step keeps, all steps keep. -/
theorem keeps {holds : Nat → Prop} {count first last : Nat} (steps : Steps step count first last)
    (kept : ∀ here next, holds here → step here next → holds next) (start : holds first) :
    holds last := by
  induction steps with
  | done => exact start
  | more here _ later => exact later (kept _ _ start here)

theorem goesAhead {bound count first last : Nat} (steps : Steps step count first last)
    (ahead : ∀ ⦃here next⦄, step here next → here = next ∨ here < next ∧ next ≤ bound) :
    first = last ∨ first < last ∧ last ≤ bound := by
  induction steps with
  | done => exact .inl rfl
  | more here _ later =>
      have here := ahead here
      omega

/-- Steps that go ahead within a bound need not be more than the bound, since those that stay in place
may be left out. -/
theorem exists_le {bound count first last : Nat}
    (steps : Steps step count first last)
    (ahead : ∀ ⦃here next⦄, step here next → here = next ∨ here < next ∧ next ≤ bound) :
    ∃ fewer ≤ count, fewer ≤ bound - first ∧ Steps step fewer first last := by
  induction steps with
  | done => exact ⟨0, Nat.le_refl _, Nat.zero_le _, .done⟩
  | more here rest inductionHypothesis =>
      obtain ⟨fewer, atMost, bounded, steps⟩ := inductionHypothesis
      rcases ahead here with rfl | ⟨further, inside⟩
      · exact ⟨fewer, by omega, bounded, steps⟩
      · exact ⟨fewer + 1, by omega, by omega, .more here steps⟩

end Steps

/-- The character in front of a position. In front of the text there may be one outside of it. -/
def characterBefore? (outside : Option Char) (text : List Char) : Nat → Option Char
  | 0 => outside
  | position + 1 => text[position]?

namespace Expr

mutual

/-- The expression matches a text from one position to another. -/
def Spans (text : List Char) : Expr → Nat → Nat → Prop
  | .empty, first, last => first = last
  | .literal characters, first, last =>
      characters <+: text.drop first ∧ first + characters.length = last
  | .set members _, first, last =>
      (∃ character, text[first]? = some character ∧ members.contains character.toNat = true) ∧
        first + 1 = last
  | .look condition, first, last =>
      first ≤ text.length ∧
        condition.holds (characterBefore? none text first) text[first]? = true ∧ first = last
  | .repetition inner least most _, first, last =>
      ∃ further, (∀ bound ∈ most, further ≤ bound - least) ∧
        Steps (inner.Spans text) (least + further) first last
  | .capture inner, first, last => inner.Spans text first last
  | .concat parts, first, last => RowSpans text parts first last
  | .alternation branches, first, last => ChoiceSpans text branches first last

/-- Expressions in a row match a text from one position to another. -/
def RowSpans (text : List Char) : List Expr → Nat → Nat → Prop
  | [], first, last => first = last
  | part :: rest, first, last =>
      ∃ middle, part.Spans text first middle ∧ RowSpans text rest middle last

/-- One of the expressions matches a text from one position to another. -/
def ChoiceSpans (text : List Char) : List Expr → Nat → Nat → Prop
  | [], _, _ => False
  | branch :: rest, first, last =>
      branch.Spans text first last ∨ ChoiceSpans text rest first last

end

end Expr

namespace Positions

variable {step : Positions → Positions} {related : Nat → Nat → Prop}

theorem testBit_single {condition : Bool} {position last : Nat} :
    (if condition then 1 <<< position else 0).testBit last = true ↔
      condition = true ∧ position = last := by
  cases condition <;> simp [Nat.one_shiftLeft, Nat.testBit_two_pow]

theorem testBit_advance {accepts : Char → Bool} {starts : Positions} {index : Nat} {text : List Char}
    {last : Nat} :
    (advance accepts starts index text).testBit last = true ↔
      ∃ offset character, text[offset]? = some character ∧ accepts character = true ∧
        starts.testBit (index + offset) = true ∧ index + offset + 1 = last := by
  induction text generalizing index with
  | nil => simp [advance]
  | cons character rest inductionHypothesis =>
      rw [advance, Nat.testBit_or, Bool.or_eq_true, testBit_single, inductionHypothesis,
        Bool.and_eq_true]
      constructor
      · rintro (⟨⟨starting, accepted⟩, same⟩ | ⟨offset, other, there, accepted, starting, same⟩)
        · exact ⟨0, character, rfl, accepted, starting, same⟩
        · exact ⟨offset + 1, other, there, accepted, by rwa [← Nat.add_right_comm] at starting,
            by omega⟩
      · rintro ⟨_ | offset, other, there, accepted, starting, same⟩
        · cases there
          exact .inl ⟨⟨starting, accepted⟩, same⟩
        · exact .inr ⟨offset, other, there, accepted, by rwa [Nat.add_right_comm], by omega⟩

theorem testBit_filter {accepts : Option Char → Option Char → Bool} {starts : Positions} {index : Nat}
    {before : Option Char} {text : List Char} {last : Nat} :
    (filter accepts starts index before text).testBit last = true ↔
      ∃ offset ≤ text.length, accepts (characterBefore? before text offset) text[offset]? = true ∧
        starts.testBit (index + offset) = true ∧ index + offset = last := by
  induction text generalizing index before with
  | nil =>
      rw [filter, testBit_single, Bool.and_eq_true]
      constructor
      · rintro ⟨⟨starting, accepted⟩, same⟩
        exact ⟨0, Nat.le_refl _, accepted, starting, same⟩
      · rintro ⟨offset, inside, accepted, starting, same⟩
        obtain rfl := Nat.le_zero.mp inside
        exact ⟨⟨starting, accepted⟩, same⟩
  | cons character rest inductionHypothesis =>
      rw [filter, Nat.testBit_or, Bool.or_eq_true, testBit_single, inductionHypothesis,
        Bool.and_eq_true]
      constructor
      · rintro (⟨⟨starting, accepted⟩, same⟩ | ⟨offset, inside, accepted, starting, same⟩)
        · exact ⟨0, Nat.zero_le _, accepted, starting, same⟩
        · refine ⟨offset + 1, Nat.succ_le_succ inside, ?_, by rwa [← Nat.add_right_comm] at starting,
            by omega⟩
          cases offset <;> exact accepted
      · rintro ⟨_ | offset, inside, accepted, starting, same⟩
        · exact .inl ⟨⟨starting, accepted⟩, same⟩
        · refine .inr ⟨offset, Nat.le_of_succ_le_succ inside, ?_, by rwa [Nat.add_right_comm],
            by omega⟩
          cases offset <;> exact accepted

/-- To stop early makes no difference, since a step that changes nothing never will. -/
theorem iterate_eq (step : Positions → Positions) (count : Nat) (starts : Positions) :
    iterate step count starts = step^[count] starts := by
  induction count generalizing starts with
  | zero => rfl
  | succ count inductionHypothesis =>
      rw [iterate, Function.iterate_succ_apply]
      split
      next same => rw [same, Function.iterate_fixed same]
      next => exact inductionHypothesis _

/-- The step takes every set of positions to those that the relation leads to. -/
def Follows (step : Positions → Positions) (related : Nat → Nat → Prop) : Prop :=
  ∀ starts last, (step starts).testBit last = true ↔
    ∃ first, starts.testBit first = true ∧ related first last

theorem testBit_iterate (follows : Follows step related) {count : Nat} {starts : Positions}
    {last : Nat} :
    (iterate step count starts).testBit last = true ↔
      ∃ first, starts.testBit first = true ∧ Steps related count first last := by
  rw [iterate_eq]
  induction count generalizing starts with
  | zero => simp [Steps.zero_iff]
  | succ count inductionHypothesis =>
      rw [Function.iterate_succ_apply, inductionHypothesis]
      simp only [follows starts, Steps.succ_iff]
      constructor
      · rintro ⟨next, ⟨first, starting, here⟩, rest⟩
        exact ⟨first, starting, next, here, rest⟩
      · rintro ⟨first, starting, next, here, rest⟩
        exact ⟨next, ⟨first, starting, here⟩, rest⟩

/-- If all positions but the fresh ones lead into the found ones, then some steps from the fresh ones
find everything that as many steps from the found ones do. -/
theorem testBit_reach (follows : Follows step related) {count : Nat} {fresh found : Positions}
    (isFound : ∀ first, fresh.testBit first = true → found.testBit first = true)
    (settled : ∀ first next, found.testBit first = true → fresh.testBit first = false →
      related first next → found.testBit next = true) {last : Nat} :
    (reach step count fresh found).testBit last = true ↔
      ∃ taken ≤ count, ∃ first, found.testBit first = true ∧ Steps related taken first last := by
  induction count generalizing fresh found with
  | zero =>
      rw [reach]
      constructor
      · exact fun member => ⟨0, Nat.le_refl _, last, member, .done⟩
      · rintro ⟨taken, none, first, member, steps⟩
        obtain rfl := Nat.le_zero.mp none
        rwa [← Steps.zero_iff.mp steps]
  | succ count inductionHypothesis =>
      have isNew (next : Nat) : ((step fresh ||| found) ^^^ found).testBit next = true ↔
          (step fresh).testBit next = true ∧ found.testBit next = false := by
        rw [Nat.testBit_xor, Nat.testBit_or]
        cases (step fresh).testBit next <;> cases found.testBit next <;> decide
      -- A step from a found position leads to a found or a new one.
      have leads (first next : Nat) (member : found.testBit first = true)
          (here : related first next) : found.testBit next = true ∨
            ((step fresh ||| found) ^^^ found).testBit next = true := by
        rw [isNew]
        cases seen : found.testBit next with
        | true => exact .inl rfl
        | false =>
            refine .inr ⟨(follows fresh next).mpr ⟨first, ?_, here⟩, rfl⟩
            rw [← Bool.not_eq_false]
            intro old
            rw [settled first next member old here] at seen
            cases seen
      rw [reach]
      split
      next none =>
        constructor
        · exact fun member => ⟨0, Nat.zero_le _, last, member, .done⟩
        · rintro ⟨taken, -, first, member, steps⟩
          exact steps.keeps (fun here next member step =>
            (leads here next member step).resolve_right (by simp [none])) member
      next =>
        rw [inductionHypothesis]
        · simp only [Nat.testBit_or, Bool.or_eq_true]
          constructor
          · rintro ⟨taken, atMost, next, found | new, steps⟩
            · exact ⟨taken, by omega, next, found, steps⟩
            · obtain ⟨first, starting, here⟩ := (follows fresh next).mp ((isNew next).mp new).1
              exact ⟨taken + 1, by omega, first, isFound first starting, .more here steps⟩
          · rintro ⟨_ | taken, atMost, first, member, steps⟩
            · exact ⟨0, Nat.zero_le _, first, .inl member, steps⟩
            · obtain ⟨next, here, rest⟩ := Steps.succ_iff.mp steps
              exact ⟨taken, by omega, next, leads first next member here, rest⟩
        · exact fun first new => by rw [Nat.testBit_or, new, Bool.or_true]
        · intro first next member old here
          rw [Nat.testBit_or, old, Bool.or_false] at member
          rw [Nat.testBit_or, Bool.or_eq_true]
          exact leads first next member here

end Positions

namespace Expr

open Positions

variable {text : List Char}

mutual

/-- A match goes ahead in the text, or it is empty. -/
theorem Spans.goesAhead : ∀ {expr : Expr} {first last : Nat}, expr.Spans text first last →
    first = last ∨ first < last ∧ last ≤ text.length
  | .empty, _, _, same => .inl same
  | .literal characters, first, last, spans => by
      obtain ⟨⟨after, split⟩, rfl⟩ := spans
      have length := congrArg List.length split
      rw [List.length_append, List.length_drop] at length
      omega
  | .set _ _, first, last, spans => by
      obtain ⟨⟨character, there, -⟩, rfl⟩ := spans
      have inside := (List.getElem?_eq_some_iff.mp there).1
      omega
  | .look _, _, _, spans => .inl spans.2.2
  | .repetition inner _ _ _, first, last, spans => by
      obtain ⟨_, _, steps⟩ := spans
      exact steps.goesAhead fun _ _ here => @Spans.goesAhead inner _ _ here
  | .capture inner, _, _, spans => @Spans.goesAhead inner _ _ spans
  | .concat parts, _, _, spans => @RowSpans.goesAhead parts _ _ spans
  | .alternation branches, _, _, spans => @ChoiceSpans.goesAhead branches _ _ spans

theorem RowSpans.goesAhead : ∀ {parts : List Expr} {first last : Nat},
    RowSpans text parts first last → first = last ∨ first < last ∧ last ≤ text.length
  | [], _, _, same => .inl same
  | _ :: _, _, _, ⟨_, here, rest⟩ => by
      have here := Spans.goesAhead here
      have rest := RowSpans.goesAhead rest
      omega

theorem ChoiceSpans.goesAhead : ∀ {branches : List Expr} {first last : Nat},
    ChoiceSpans text branches first last → first = last ∨ first < last ∧ last ≤ text.length
  | _ :: _, _, _, .inl here => Spans.goesAhead here
  | _ :: _, _, _, .inr rest => ChoiceSpans.goesAhead rest

end

/-- The characters of a literal are asked for one after the other. -/
theorem testBit_foldl_advance {characters : List Char} {starts : Positions} {last : Nat} :
    (characters.foldl (fun reached character =>
      if reached = 0 then 0 else Positions.advance (· = character) reached 0 text) starts).testBit
        last = true ↔
      ∃ first, starts.testBit first = true ∧ (Expr.literal characters).Spans text first last := by
  induction characters generalizing starts with
  | nil => simp [Spans]
  | cons character rest inductionHypothesis =>
      have step (next : Nat) : (if starts = 0 then 0
          else Positions.advance (· = character) starts 0 text).testBit next = true ↔
            ∃ first, starts.testBit first = true ∧ text[first]? = some character ∧
              first + 1 = next := by
        split
        next none => simp [none]
        next => simp [testBit_advance, and_assoc, and_comm]
      rw [List.foldl_cons, inductionHypothesis]
      simp only [step, Spans]
      constructor
      · rintro ⟨next, ⟨first, starting, there, rfl⟩, ⟨after, split⟩, rfl⟩
        refine ⟨first, starting, ⟨after, ?_⟩, by rw [List.length_cons]; omega⟩
        obtain ⟨inside, same⟩ := List.getElem?_eq_some_iff.mp there
        rw [List.drop_eq_getElem_cons inside, same, List.cons_append, split]
      · rintro ⟨first, starting, ⟨after, split⟩, rfl⟩
        have there : text[first]? = some character := by
          rw [← List.head?_drop, ← split]
          rfl
        refine ⟨first + 1, ⟨first, starting, there, rfl⟩, ⟨after, ?_⟩, by
          rw [List.length_cons]; omega⟩
        rw [← List.tail_drop, ← split]
        rfl

mutual

/-- The ends of an expression are the positions that it relates one of the starts to. -/
theorem testBit_ends : ∀ (expr : Expr) (starts : Positions) (last : Nat),
    (expr.ends text starts).testBit last = true ↔
      ∃ first, starts.testBit first = true ∧ expr.Spans text first last
  | .empty, starts, last => by simp [ends, Spans]
  | .literal characters, starts, last => by
      rw [ends]
      exact testBit_foldl_advance
  | .set members _, starts, last => by
      rw [ends]
      split
      next none => simp [none]
      next => simp [testBit_advance, Spans, and_assoc, and_comm]
  | .look condition, starts, last => by
      rw [ends, testBit_filter]
      simp only [Nat.zero_add, Spans]
      constructor
      · rintro ⟨first, inside, holds, starting, same⟩
        exact ⟨first, starting, inside, holds, same⟩
      · rintro ⟨first, starting, inside, holds, same⟩
        exact ⟨first, inside, holds, starting, same⟩
  | .repetition inner least most _, starts, last => by
      have follows : Follows (inner.ends text) (inner.Spans text) := testBit_ends inner
      unfold ends
      rw [testBit_reach follows (fun _ => id) fun _ _ found fresh =>
        absurd found (ne_true_of_eq_false fresh)]
      simp only [testBit_iterate follows, Spans]
      constructor
      · rintro ⟨further, atMost, middle, ⟨first, starting, before⟩, after⟩
        refine ⟨first, starting, further, fun bound isBound => ?_, Steps.add_iff.mpr
          ⟨middle, before, after⟩⟩
        obtain rfl := Option.mem_def.mp isBound
        exact Nat.le_trans atMost (Nat.min_le_left _ _)
      · rintro ⟨first, starting, further, atMost, steps⟩
        obtain ⟨middle, before, after⟩ := Steps.add_iff.mp steps
        obtain ⟨fewer, fewerSteps, bounded, after⟩ := after.exists_le fun _ _ here =>
          @Spans.goesAhead text inner _ _ here
        have inside : fewer ≤ text.length + 1 := by omega
        refine ⟨fewer, ?_, middle, ⟨first, starting, before⟩, after⟩
        cases most with
        | none => exact inside
        | some bound =>
            exact Nat.le_min.mpr ⟨Nat.le_trans fewerSteps (atMost bound rfl), inside⟩
  | .capture inner, starts, last => by
      rw [ends]
      exact testBit_ends inner starts last
  | .concat parts, starts, last => by
      rw [ends]
      exact testBit_endsOfRow parts starts last
  | .alternation branches, starts, last => by
      rw [ends]
      exact testBit_endsOfChoice branches starts last

theorem testBit_endsOfRow : ∀ (parts : List Expr) (starts : Positions) (last : Nat),
    (endsOfRow text parts starts).testBit last = true ↔
      ∃ first, starts.testBit first = true ∧ RowSpans text parts first last
  | [], starts, last => by simp [endsOfRow, RowSpans]
  | part :: rest, starts, last => by
      rw [endsOfRow, testBit_endsOfRow rest]
      simp only [testBit_ends part, RowSpans]
      constructor
      · rintro ⟨middle, ⟨first, starting, here⟩, later⟩
        exact ⟨first, starting, middle, here, later⟩
      · rintro ⟨first, starting, middle, here, later⟩
        exact ⟨middle, ⟨first, starting, here⟩, later⟩

theorem testBit_endsOfChoice : ∀ (branches : List Expr) (starts : Positions) (last : Nat),
    (endsOfChoice text branches starts).testBit last = true ↔
      ∃ first, starts.testBit first = true ∧ ChoiceSpans text branches first last
  | [], starts, last => by simp [endsOfChoice, ChoiceSpans]
  | branch :: rest, starts, last => by
      rw [endsOfChoice, Nat.testBit_or, Bool.or_eq_true, testBit_ends branch,
        testBit_endsOfChoice rest]
      simp only [ChoiceSpans, and_or_left, exists_or]

end

/-- An expression matches in a text when it spans from one of its positions to another. -/
theorem isMatch_iff (expr : Expr) (text : List Char) :
    expr.isMatch text = true ↔ ∃ first ≤ text.length, ∃ last, expr.Spans text first last := by
  have all (position : Nat) : (Nat.pow 2 (text.length + 1) - 1).testBit position = true ↔
      position ≤ text.length := by
    rw [Nat.pow_eq, Nat.testBit_two_pow_sub_one, decide_eq_true_iff, Nat.lt_succ_iff]
  rw [isMatch, decide_eq_true_iff]
  constructor
  · intro found
    obtain ⟨last, member⟩ := Nat.exists_testBit_of_ne_zero found
    obtain ⟨first, starting, spans⟩ := (testBit_ends expr _ last).mp member
    exact ⟨first, (all first).mp starting, last, spans⟩
  · rintro ⟨first, inside, last, spans⟩ none
    have member := (testBit_ends expr _ last).mpr ⟨first, (all first).mpr inside, spans⟩
    rw [none, Nat.zero_testBit] at member
    cases member

theorem rowSpans_append {parts others : List Expr} {first last : Nat} :
    RowSpans text (parts ++ others) first last ↔
      ∃ middle, RowSpans text parts first middle ∧ RowSpans text others middle last := by
  induction parts generalizing first with
  | nil => simp [RowSpans]
  | cons part rest inductionHypothesis =>
      rw [List.cons_append]
      simp only [RowSpans, inductionHypothesis]
      constructor
      · rintro ⟨next, here, middle, before, after⟩
        exact ⟨middle, ⟨next, here, before⟩, after⟩
      · rintro ⟨middle, ⟨next, here, before⟩, after⟩
        exact ⟨next, here, middle, before, after⟩

theorem rowSpans_singleton {part : Expr} {first last : Nat} :
    RowSpans text [part] first last ↔ part.Spans text first last := by
  simp [RowSpans]

theorem rowSpans_partsOf {part : Expr} {first last : Nat} :
    RowSpans text part.partsOf first last ↔ part.Spans text first last := by
  cases part with
  | concat parts => rw [partsOf, Spans]
  | empty => rw [partsOf, RowSpans, Spans]
  | _ => exact rowSpans_singleton

theorem rowSpans_flatMap_partsOf {parts : List Expr} {first last : Nat} :
    RowSpans text (parts.flatMap partsOf) first last ↔ RowSpans text parts first last := by
  induction parts generalizing first with
  | nil => exact Iff.rfl
  | cons part rest inductionHypothesis =>
      rw [List.flatMap_cons, rowSpans_append]
      simp only [rowSpans_partsOf, inductionHypothesis, RowSpans]

theorem spans_literal_append {front back : List Char} {first last : Nat} :
    (literal (front ++ back)).Spans text first last ↔
      ∃ middle, (literal front).Spans text first middle ∧ (literal back).Spans text middle last := by
  simp only [Spans]
  constructor
  · rintro ⟨⟨after, split⟩, rfl⟩
    rw [List.append_assoc] at split
    refine ⟨_, ⟨⟨_, split⟩, rfl⟩, ⟨after, ?_⟩, by rw [List.length_append]; omega⟩
    rw [← List.drop_drop, ← split, List.drop_left]
  · rintro ⟨_, ⟨⟨_, split⟩, rfl⟩, ⟨after, here⟩, rfl⟩
    rw [← List.drop_drop, ← split, List.drop_left] at here
    exact ⟨⟨after, by rw [List.append_assoc, here, split]⟩, by rw [List.length_append]; omega⟩

theorem rowSpans_joinLiteral {part : Expr} {rest : List Expr} {first last : Nat} :
    RowSpans text (joinLiteral part rest) first last ↔ RowSpans text (part :: rest) first last := by
  unfold joinLiteral
  split
  next front back rest =>
    simp only [RowSpans, spans_literal_append]
    constructor
    · rintro ⟨next, ⟨middle, before, after⟩, later⟩
      exact ⟨middle, before, next, after, later⟩
    · rintro ⟨middle, before, next, after, later⟩
      exact ⟨next, ⟨middle, before, after⟩, later⟩
  next => exact Iff.rfl

theorem rowSpans_foldr_joinLiteral {parts : List Expr} {first last : Nat} :
    RowSpans text (parts.foldr joinLiteral []) first last ↔ RowSpans text parts first last := by
  induction parts generalizing first with
  | nil => exact Iff.rfl
  | cons part rest inductionHypothesis =>
      rw [List.foldr_cons, rowSpans_joinLiteral]
      simp only [RowSpans, inductionHypothesis]

/-- To flatten a row and to join its literals keeps its meaning. -/
theorem spans_inRow {parts : List Expr} {first last : Nat} :
    (inRow parts).Spans text first last ↔ RowSpans text parts first last := by
  rw [← @rowSpans_flatMap_partsOf text parts, ← rowSpans_foldr_joinLiteral, inRow]
  split
  next none => rw [none, Spans, RowSpans]
  next part alone => rw [alone, rowSpans_singleton]
  next => rw [Spans]

/-- An expression between the start and the end of a text. -/
def anchored (expr : Expr) : Expr := inRow [.look .textStart, expr, .look .textEnd]

/-- Between the start and the end of a text an expression must span the whole of it. -/
theorem isMatch_anchored (expr : Expr) (text : List Char) :
    expr.anchored.isMatch text = true ↔ expr.Spans text 0 text.length := by
  rw [isMatch_iff, anchored]
  simp only [spans_inRow, RowSpans, Spans, Look.holds]
  constructor
  · rintro ⟨first, starting, last, _, ⟨-, atStart, rfl⟩, _, spans, _, ⟨inside, atEnd, rfl⟩, rfl⟩
    rw [Option.isNone_iff_eq_none, List.getElem?_eq_none_iff] at atEnd
    obtain rfl := Nat.le_antisymm inside atEnd
    cases first with
    | zero => exact spans
    | succ before =>
        rw [characterBefore?, Option.isNone_iff_eq_none, List.getElem?_eq_none_iff] at atStart
        omega
  · intro spans
    exact ⟨0, Nat.zero_le _, text.length, 0, ⟨Nat.zero_le _, rfl, rfl⟩, text.length, spans,
      text.length, ⟨Nat.le_refl _, by simp, rfl⟩, rfl⟩

end Expr

end MeshAccess.Regex
