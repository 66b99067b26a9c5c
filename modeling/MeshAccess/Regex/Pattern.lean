import MeshAccess.Regex.Footprint
import MeshAccess.Regex.Match
import MeshAccess.Regex.Reader
import MeshAccess.Regex.Resolve

/-!
This file compiles patterns.
-/

namespace MeshAccess

/-- A pattern that is ready to match. -/
structure Regex where
  expr : Regex.Expr

namespace Regex

/-- A bound on the automata of patterns. Whether a pattern keeps to it depends on its text and on
the choice about case. -/
abbrev SizeCheck := List Char → Bool → Bool

/-- The expression that a pattern spells. -/
def parse? (pattern : List Char) (ignoreCase : Bool) : Option Expr := do
  let syntaxTree ← Syntax.read? pattern
  syntaxTree.resolve? ignoreCase

/-- The automata of a pattern stay within the limit. -/
def automataFit : SizeCheck := fun pattern ignoreCase =>
  (parse? pattern ignoreCase).any Footprint.fits

/-- The compiled form of a pattern. There is none when the pattern is not well-formed or when its
automata are too large. -/
def compileWithin? (fits : SizeCheck) (pattern : List Char) (ignoreCase : Bool) : Option Regex := do
  let expr ← parse? pattern ignoreCase
  if fits pattern ignoreCase then some ⟨expr⟩ else none

def compile? (pattern : List Char) (ignoreCase : Bool) : Option Regex :=
  compileWithin? automataFit pattern ignoreCase

/-- The pattern matches somewhere in the text. -/
def isMatch (regex : Regex) (text : String) : Bool := regex.expr.isMatch text.toList

/-- This function puts a pattern between the start and the end of a text. -/
def anchor (pattern : String) : List Char := "^(?:".toList ++ pattern.toList ++ ")$".toList

/-- The compiled form of a pattern between the start and the end of a text. -/
def compileAnchored? (pattern : String) (ignoreCase : Bool) : Option Regex :=
  compile? (anchor pattern) ignoreCase

end Regex

end MeshAccess
