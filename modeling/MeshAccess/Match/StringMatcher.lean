import MeshAccess.Regex.Pattern
import MeshAccess.Text.LowerCase

/-!
This file holds the matchers for texts.

No matcher accepts the empty text. A pattern that is not well-formed accepts nothing.
-/

namespace MeshAccess.Match

/-- How a matcher compares a text with its pattern. -/
inductive Comparison where
  | exact
  | start
  | finish
  | contains
  | regex
  deriving DecidableEq, Repr

/-- A matcher for texts, which may ignore case. -/
structure StringMatcher where
  comparison : Comparison
  pattern : String
  ignoreCase : Bool
  deriving DecidableEq, Repr

namespace StringMatcher

/-- The needle stands somewhere in the text. -/
def isInside (needle : List Char) : List Char → Bool
  | [] => needle.isEmpty
  | character :: rest => needle.isPrefixOf (character :: rest) || isInside needle rest

/-- The comparisons other than the one with a regular expression. -/
def compare (comparison : Comparison) (pattern text : List Char) : Bool :=
  match comparison with
  | .exact => text == pattern
  | .start => pattern.isPrefixOf text
  | .finish => pattern.isSuffixOf text
  | .contains => isInside pattern text
  | .regex => false

/-- The comparison of a matcher that has no regular expression. -/
def comparesWith (matcher : StringMatcher) (text : String) : Bool :=
  if matcher.ignoreCase then
    compare matcher.comparison (Text.LowerCase.lower matcher.pattern.toList)
      (Text.LowerCase.lower text.toList)
  else compare matcher.comparison matcher.pattern.toList text.toList

/-- The answer of a matcher, given the compiled form of its pattern. -/
def acceptsBy (matcher : StringMatcher) (compiled : Option Regex) (text : String) : Bool :=
  if text.isEmpty then false
  else if matcher.comparison = .regex then compiled.any fun regex => regex.isMatch text
  else matcher.comparesWith text

/-- The pattern of a matcher, compiled to match whole texts. -/
def compiled (matcher : StringMatcher) : Option Regex :=
  Regex.compileAnchored? matcher.pattern matcher.ignoreCase

/-- The matcher accepts a text, with its pattern compiled under the given bound. -/
def acceptsWithin (fits : Regex.SizeCheck) (matcher : StringMatcher) (text : String) : Bool :=
  if text.isEmpty then false
  else if matcher.comparison = .regex then
    matcher.acceptsBy
      (Regex.compileWithin? fits (Regex.anchor matcher.pattern) matcher.ignoreCase) text
  else matcher.comparesWith text

/-- The matcher accepts a text. -/
def accepts (matcher : StringMatcher) (text : String) : Bool :=
  matcher.acceptsWithin Regex.automataFit text

/-- The matcher accepts a text that may be absent. -/
def acceptsOptional (matcher : StringMatcher) (text : Option String) : Bool :=
  text.any matcher.accepts

end StringMatcher

end MeshAccess.Match
