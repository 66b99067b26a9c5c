import MeshAccess.Match.StringMatcher
import MeshAccess.Proofs.Regex.Anchor
import MeshAccess.Proofs.Regex.Span

/-! This file says which texts a matcher with a regular expression accepts. -/

namespace MeshAccess

namespace Regex

theorem resolve?_anchored (tree : Syntax) (ignoreCase : Bool) :
    tree.anchored.resolve? ignoreCase = (tree.resolve? ignoreCase).map Expr.anchored := by
  have same : (Flags.initial ignoreCase).apply [] = .initial ignoreCase := rfl
  have starts : Resolve.look (.initial ignoreCase) .lineStart = .textStart := rfl
  have ends : Resolve.look (.initial ignoreCase) .lineEnd = .textEnd := rfl
  cases resolved : Resolve.expr? (.initial ignoreCase) tree <;>
    simp [Syntax.resolve?, Syntax.anchored, Resolve.expr?, Resolve.exprs?, same, resolved, starts,
      ends, Expr.anchored]

/-- A pattern that is well-formed by itself is so between the anchors, unless its end is a comment
or it is nested too deep. -/
theorem parse?_anchor {pattern : String} {tree : Syntax}
    (reads : Syntax.read? pattern.toList = some tree) (ignoreCase : Bool) :
    parse? (anchor pattern) ignoreCase =
      if ¬EndsInComment pattern.toList ∧ tree.nesting + 2 ≤ nestingLimit then
        (tree.resolve? ignoreCase).map Expr.anchored
      else none := by
  rw [parse?, read?_anchor reads]
  split
  next => exact resolve?_anchored tree ignoreCase
  next => rfl

/-- A pattern that is well-formed by itself compiles to one expression, if at all. -/
theorem compileWithin?_anchor (fits : SizeCheck) {pattern : String} {ignoreCase : Bool}
    {tree : Syntax} {expr : Expr} (reads : Syntax.read? pattern.toList = some tree)
    (resolves : tree.resolve? ignoreCase = some expr) :
    compileWithin? fits (anchor pattern) ignoreCase =
      if ¬EndsInComment pattern.toList ∧ tree.nesting + 2 ≤ nestingLimit ∧
          fits (anchor pattern) ignoreCase = true then some ⟨expr.anchored⟩
      else none := by
  rw [compileWithin?, parse?_anchor reads, resolves, Option.map_some]
  simp only [← and_assoc]
  split
  next closes => simp [closes]
  next closes => simp [closes]

theorem isSome_compileWithin?_anchor_iff (fits : SizeCheck) {pattern : String} {ignoreCase : Bool}
    {tree : Syntax} {expr : Expr} (reads : Syntax.read? pattern.toList = some tree)
    (resolves : tree.resolve? ignoreCase = some expr) :
    (compileWithin? fits (anchor pattern) ignoreCase).isSome = true ↔
      ¬EndsInComment pattern.toList ∧ tree.nesting + 2 ≤ nestingLimit ∧
        fits (anchor pattern) ignoreCase = true := by
  rw [compileWithin?_anchor fits reads resolves]
  split <;> simp [*]

end Regex

namespace Match.StringMatcher

open Regex

theorem accepts_exact_iff (pattern text : String) :
    (⟨.exact, pattern, false⟩ : StringMatcher).accepts text = true ↔
      text ≠ "" ∧ text = pattern := by
  simp [accepts, acceptsWithin, comparesWith, compare, String.toList_inj]

theorem acceptsWithin_regex (fits : SizeCheck) (pattern : String) (ignoreCase : Bool)
    (text : String) :
    (⟨.regex, pattern, ignoreCase⟩ : StringMatcher).acceptsWithin fits text =
      (!text.isEmpty &&
        (compileWithin? fits (anchor pattern) ignoreCase).any (·.isMatch text)) := by
  simp only [acceptsWithin, acceptsBy]
  cases text.isEmpty <;> rfl

/-- A regular expression that is well-formed by itself and between the anchors accepts the texts
that it matches as a whole. -/
theorem acceptsWithin_regex_iff_spans (fits : SizeCheck) {pattern : String} {ignoreCase : Bool}
    {tree : Syntax} {expr : Expr} (reads : Syntax.read? pattern.toList = some tree)
    (resolves : tree.resolve? ignoreCase = some expr) (text : String) :
    (⟨.regex, pattern, ignoreCase⟩ : StringMatcher).acceptsWithin fits text = true ↔
      text ≠ "" ∧ expr.Spans text.toList 0 text.toList.length ∧
        (compileWithin? fits (anchor pattern) ignoreCase).isSome = true := by
  rw [acceptsWithin_regex, Bool.and_eq_true, Bool.not_eq_true', String.isEmpty_eq_false_iff,
    and_congr_right_iff, compileWithin?_anchor fits reads resolves]
  intro _
  split
  next => simp [isMatch, Expr.isMatch_anchored]
  next => simp

/-- A regular expression that is well-formed by itself accepts the texts that it matches as a whole,
if its end is no comment and if between the anchors it is not nested too deep and keeps to the bound
of the automata, whatever that is. -/
theorem accepts_regex_iff (fits : SizeCheck) {pattern : String} {ignoreCase : Bool} {tree : Syntax}
    {expr : Expr} (reads : Syntax.read? pattern.toList = some tree)
    (resolves : tree.resolve? ignoreCase = some expr) (text : String) :
    (⟨.regex, pattern, ignoreCase⟩ : StringMatcher).acceptsWithin fits text = true ↔
      text ≠ "" ∧ expr.Spans text.toList 0 text.toList.length ∧
        ¬EndsInComment pattern.toList ∧ tree.nesting + 2 ≤ nestingLimit ∧
          fits (anchor pattern) ignoreCase = true := by
  rw [acceptsWithin_regex_iff_spans fits reads resolves,
    isSome_compileWithin?_anchor_iff fits reads resolves]

/-- The pattern `a|bc` as it is written. -/
def oneOrTwo : Syntax :=
  .alternation [.letter ⟨'a', false⟩, .concat [.letter ⟨'b', false⟩, .letter ⟨'c', false⟩]]

/-- The pattern `a|bc` as it is resolved. -/
def oneOrTwoLetters : Expr := .alternation [.literal ['a'], .literal ['b', 'c']]

theorem oneOrTwoLetters_spans : oneOrTwoLetters.Spans "bc".toList 0 "bc".toList.length :=
  .inr (.inl ⟨List.prefix_refl _, rfl⟩)

theorem accepts_oneOrTwo :
    Syntax.read? "a|bc".toList = some oneOrTwo ∧
      oneOrTwo.resolve? false = some oneOrTwoLetters ∧
      (⟨.regex, "a|bc", false⟩ : StringMatcher).acceptsWithin automataFit "bc" = true :=
  ⟨rfl, rfl, (accepts_regex_iff automataFit rfl rfl "bc").mpr
    ⟨by decide, oneOrTwoLetters_spans, by decide +kernel, by decide, by decide +kernel⟩⟩

/-- The pattern `a)|(?:b` closes the group that it is put into and opens another. -/
def unbalanced : StringMatcher := ⟨.regex, "a)|(?:b", false⟩

/-- A pattern may be accepted that is not well-formed by itself. -/
theorem not_wellFormed_of_accepts :
    ¬ ∀ (pattern : String) (ignoreCase : Bool) (text : String),
      (⟨.regex, pattern, ignoreCase⟩ : StringMatcher).accepts text = true ↔
        text ≠ "" ∧ ∃ regex, compile? pattern.toList ignoreCase = some regex ∧
          regex.expr.Spans text.toList 0 text.toList.length := by
  intro whole
  have accepted : unbalanced.accepts "axyz" = true := by decide +kernel
  obtain ⟨-, regex, compiles, -⟩ := (whole "a)|(?:b" false "axyz").mp accepted
  have refused : (compile? "a)|(?:b".toList false).isNone = true := by decide +kernel
  rw [compiles] at refused
  cases refused

end Match.StringMatcher

end MeshAccess
