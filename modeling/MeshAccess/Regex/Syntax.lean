/-!
This file holds regular expressions as they are written.
-/

namespace MeshAccess.Regex

/-- The switches that a pattern may set in its text. -/
inductive Flag where
  | ignoreCase
  | multiLine
  | dotMatchesNewline
  | swapGreed
  | unicode
  | carriageReturn
  | verbose
  deriving DecidableEq, Repr

/-- The flags that a pattern sets, with their new values. -/
abbrev Settings := List (Flag × Bool)

/-- The conditions on a position. -/
inductive Assertion where
  | lineStart
  | lineEnd
  | textStart
  | textEnd
  | wordBoundary
  | noWordBoundary
  | wordStart
  | wordEnd
  | halfWordStart
  | halfWordEnd
  deriving DecidableEq, Repr

/-- The classes that one letter after a backslash names. -/
inductive LetterClass where
  | digit
  | blank
  | word
  deriving DecidableEq, Repr

/-- The classes with a name between colons. -/
inductive NamedClass where
  | alnum
  | alpha
  | ascii
  | blank
  | cntrl
  | digit
  | graph
  | lower
  | print
  | punct
  | space
  | upper
  | word
  | xdigit
  deriving DecidableEq, Repr

/-- A Unicode property. -/
inductive PropertyQuery where
  | name (text : String)
  | value (property : String) (value : String)
  deriving DecidableEq, Repr

/-- A character in a pattern. The pattern may give it as a byte, in two hexadecimal digits. -/
structure Letter where
  character : Char
  isByte : Bool
  deriving DecidableEq, Repr

/-- The operations on two sets in brackets. -/
inductive SetOperation where
  | intersection
  | difference
  | symmetricDifference
  deriving DecidableEq, Repr

/-- What brackets hold. -/
inductive BracketSet where
  | empty
  | letter (letter : Letter)
  | range (first last : Letter)
  | named (kind : NamedClass) (negated : Bool)
  | letterClass (kind : LetterClass) (negated : Bool)
  | property (query : PropertyQuery) (negated : Bool)
  | bracket (negated : Bool) (inner : BracketSet)
  | union (items : List BracketSet)
  | operation (kind : SetOperation) (left right : BracketSet)
  deriving Repr, Inhabited

/-- A regular expression as it is written. -/
inductive Syntax where
  | empty
  | letter (letter : Letter)
  | dot
  | assertion (kind : Assertion)
  | letterClass (kind : LetterClass) (negated : Bool)
  | property (query : PropertyQuery) (negated : Bool)
  | bracket (negated : Bool) (inner : BracketSet)
  | repetition (inner : Syntax) (least : Nat) (most : Option Nat) (isLazy : Bool)
  | group (captures : Bool) (settings : Settings) (inner : Syntax)
  | settings (settings : Settings)
  | alternation (branches : List Syntax)
  | concat (parts : List Syntax)
  deriving Repr, Inhabited

namespace BracketSet

/-- Items side by side. One item stands for itself. -/
def ofItems : List BracketSet → BracketSet
  | [] => .empty
  | [item] => item
  | items => .union items

mutual

/-- The number of sets that stand inside each other at the deepest place. -/
def nesting : BracketSet → Nat
  | .bracket _ inner => inner.nesting + 1
  | .union items => nestingItems items + 1
  | .operation _ left right => max left.nesting right.nesting + 1
  | _ => 0

def nestingItems : List BracketSet → Nat
  | [] => 0
  | item :: rest => max item.nesting (nestingItems rest)

end

end BracketSet

namespace Syntax

/-- Parts in a row. One part stands for itself. -/
def ofParts : List Syntax → Syntax
  | [] => .empty
  | [part] => part
  | parts => .concat parts

/-- Branches of a choice. One branch stands for itself. -/
def ofBranches : List Syntax → Syntax
  | [branch] => branch
  | branches => .alternation branches

mutual

/-- The number of expressions that stand inside each other at the deepest place. -/
def nesting : Syntax → Nat
  | .bracket _ inner => inner.nesting + 1
  | .repetition inner _ _ _ => inner.nesting + 1
  | .group _ _ inner => inner.nesting + 1
  | .alternation branches => nestingParts branches + 1
  | .concat parts => nestingParts parts + 1
  | _ => 0

def nestingParts : List Syntax → Nat
  | [] => 0
  | part :: rest => max part.nesting (nestingParts rest)

end

end Syntax

end MeshAccess.Regex
