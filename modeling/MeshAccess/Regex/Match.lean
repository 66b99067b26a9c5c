import MeshAccess.Regex.Expr
import MeshAccess.Unicode.Property

/-!
This file finds out where an expression can match.

A set of positions in a text is a number whose bits are the positions. For every expression, the
function `ends` takes the set of the positions where a match may start to the set of the positions
where one ends.
-/

namespace MeshAccess.Regex

open MeshAccess.Unicode (CodePoints)

/-- A set of positions as the bits of a number. -/
abbrev Positions := Nat

namespace Look

/-- A letter, a digit or an underscore of ASCII. -/
def isAsciiWord (character : Char) : Bool := character.isAlphanum || character = '_'

def isWord (unicode : Bool) (character : Char) : Bool :=
  if unicode && 0x80 ≤ character.toNat then
    Unicode.Property.wordCharacters.contains character.toNat
  else isAsciiWord character

def isWordAt (unicode : Bool) (neighbour : Option Char) : Bool :=
  neighbour.any (isWord unicode)

def WordTest.holds (test : WordTest) (before after : Bool) : Bool :=
  match test with
  | .boundary => before != after
  | .noBoundary => before == after
  | .start => !before && after
  | .finish => before && !after
  | .halfStart => !before
  | .halfEnd => !after

/-- The condition holds between two characters. At an end of the text there is no character. -/
def holds (look : Look) (before after : Option Char) : Bool :=
  match look with
  | .textStart => before.isNone
  | .textEnd => after.isNone
  | .lineStart carriageReturn =>
      before.isNone || before == some '\n' ||
        (carriageReturn && before == some '\r' && after != some '\n')
  | .lineEnd carriageReturn =>
      after.isNone || (after == some '\n' && !(carriageReturn && before == some '\r')) ||
        (carriageReturn && after == some '\r')
  | .word unicode test => WordTest.holds test (isWordAt unicode before) (isWordAt unicode after)

end Look

namespace Positions

/-- The positions after the accepted characters that follow the given positions. The text starts
at position `index`. -/
def advance (accepts : Char → Bool) (starts : Positions) (index : Nat) : List Char → Positions
  | [] => 0
  | character :: rest =>
      (if starts.testBit index && accepts character then 1 <<< (index + 1) else 0) |||
        advance accepts starts (index + 1) rest

/-- The given positions where a condition on the neighbours holds. -/
def filter (accepts : Option Char → Option Char → Bool) (starts : Positions) (index : Nat)
    (before : Option Char) : List Char → Positions
  | [] => if starts.testBit index && accepts before none then 1 <<< index else 0
  | character :: rest =>
      (if starts.testBit index && accepts before (some character) then 1 <<< index else 0) |||
        filter accepts starts (index + 1) (some character) rest

/-- This function applies a step `count` times. It may stop early, once a step changes nothing. -/
def iterate (step : Positions → Positions) : Nat → Positions → Positions
  | 0, starts => starts
  | count + 1, starts =>
      let next := step starts
      if next = starts then starts else iterate step count next

/-- This function collects the positions that at most `count` steps reach. Only the positions that
the last step found for the first time go on. -/
def reach (step : Positions → Positions) : Nat → Positions → Positions → Positions
  | 0, _, found => found
  | count + 1, fresh, found =>
      let next := (step fresh ||| found) ^^^ found
      if next = 0 then found else reach step count next (found ||| next)

end Positions

namespace Expr

mutual

/-- The positions where a match of the expression ends, for the given positions of its start. -/
def ends (text : List Char) : Expr → Positions → Positions
  | .empty, starts => starts
  | .literal characters, starts =>
      characters.foldl (fun reached character =>
        if reached = 0 then 0 else Positions.advance (· = character) reached 0 text) starts
  | .set members _, starts =>
      if starts = 0 then 0
      else Positions.advance (fun character => members.contains character.toNat) starts 0 text
  | .look condition, starts => Positions.filter condition.holds starts 0 none text
  | .repetition inner least most _, starts =>
      let start := Positions.iterate (inner.ends text) least starts
      let more := match most with
        | none => text.length + 1
        | some most => min (most - least) (text.length + 1)
      Positions.reach (inner.ends text) more start start
  | .capture inner, starts => inner.ends text starts
  | .concat parts, starts => endsOfRow text parts starts
  | .alternation branches, starts => endsOfChoice text branches starts

/-- The positions where a match of expressions in a row ends. -/
def endsOfRow (text : List Char) : List Expr → Positions → Positions
  | [], starts => starts
  | part :: rest, starts => endsOfRow text rest (part.ends text starts)

/-- The positions where a match of one of the expressions ends. -/
def endsOfChoice (text : List Char) : List Expr → Positions → Positions
  | [], _ => 0
  | branch :: rest, starts => branch.ends text starts ||| endsOfChoice text rest starts

end

/-- The expression matches somewhere in the text. -/
def isMatch (expr : Expr) (text : List Char) : Bool :=
  expr.ends text (Nat.pow 2 (text.length + 1) - 1) ≠ 0

end Expr

end MeshAccess.Regex
