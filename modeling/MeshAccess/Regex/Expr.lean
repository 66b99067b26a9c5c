import MeshAccess.Unicode.CodePoints
import MeshAccess.Text.Utf8

/-!
This file holds regular expressions whose flags are resolved.

The smart constructors keep expressions small: they join neighbouring literals, flatten nested
sequences and choices, turn a choice between single characters or between sets into one set, and
take out what all branches of a choice begin with.
-/

namespace MeshAccess.Regex

open MeshAccess.Unicode (CodePoints)

/-- The conditions on the characters around a position, as far as they belong to words. -/
inductive WordTest where
  | boundary
  | noBoundary
  | start
  | finish
  | halfStart
  | halfEnd
  deriving DecidableEq, Repr

/-- The conditions on a position between two characters. A line may end with a line feed alone, or
also with a carriage return. -/
inductive Look where
  | textStart
  | textEnd
  | lineStart (carriageReturn : Bool)
  | lineEnd (carriageReturn : Bool)
  | word (unicode : Bool) (test : WordTest)
  deriving DecidableEq, Repr

/-- A regular expression over characters. A set of characters may have been written as a set of
bytes, and a repetition may prefer few rounds. Neither matters for what they match. -/
inductive Expr where
  | empty
  | literal (characters : List Char)
  | set (members : CodePoints) (unicode : Bool)
  | look (condition : Look)
  | repetition (inner : Expr) (least : Nat) (most : Option Nat) (isLazy : Bool)
  | capture (inner : Expr)
  | concat (parts : List Expr)
  | alternation (branches : List Expr)
  deriving Repr, Inhabited

namespace Expr

/-- The expression that matches nothing. -/
def fail : Expr := .set CodePoints.empty false

/-- A set of one character is a literal. -/
def ofSet (members : CodePoints) (unicode : Bool) : Expr :=
  match members.single? with
  | some point => .literal [Char.ofNat point]
  | none => if members.isEmpty then fail else .set members unicode

mutual

/-- The least number of characters of a match. An expression with an empty set in it has none. -/
def leastLength? : Expr → Option Nat
  | .empty => some 0
  | .literal characters => some characters.length
  | .set members _ => if members.isEmpty then none else some 1
  | .look _ => some 0
  | .repetition inner least _ _ => inner.leastLength?.map (least * ·)
  | .capture inner => inner.leastLength?
  | .concat parts => leastSum? parts
  | .alternation branches => leastOf? branches

def leastSum? : List Expr → Option Nat
  | [] => some 0
  | part :: rest => do
      let first ← part.leastLength?
      return first + (← leastSum? rest)

def leastOf? : List Expr → Option Nat
  | [] => none
  | [branch] => branch.leastLength?
  | branch :: rest => do
      let first ← branch.leastLength?
      return min first (← leastOf? rest)

end

mutual

/-- Every match of the expression is empty. -/
def matchesOnlyEmpty : Expr → Bool
  | .empty => true
  | .literal characters => characters.isEmpty
  | .set _ _ => false
  | .look _ => true
  | .repetition inner _ most _ => most == some 0 || inner.matchesOnlyEmpty
  | .capture inner => inner.matchesOnlyEmpty
  | .concat parts => allOnlyEmpty parts
  | .alternation branches => allOnlyEmpty branches

def allOnlyEmpty : List Expr → Bool
  | [] => true
  | part :: rest => part.matchesOnlyEmpty && allOnlyEmpty rest

end

/-- An expression that matches only the empty text repeats once at most. -/
def repeated (inner : Expr) (least : Nat) (most : Option Nat) (isLazy : Bool) : Expr :=
  let (least, most) :=
    if inner.matchesOnlyEmpty then (min least 1, some (min (most.getD 1) 1)) else (least, most)
  if least = 0 && most = some 0 then .empty
  else if least = 1 && most = some 1 then inner
  else .repetition inner least most isLazy

/-- The parts of a sequence, flattened by one level. -/
def partsOf : Expr → List Expr
  | .concat parts => parts
  | .empty => []
  | part => [part]

/-- This function joins a literal with a literal that follows it. -/
def joinLiteral (part : Expr) (rest : List Expr) : List Expr :=
  match part, rest with
  | .literal first, .literal second :: rest => .literal (first ++ second) :: rest
  | part, rest => part :: rest

/-- The expressions in a row. -/
def inRow (parts : List Expr) : Expr :=
  match (parts.flatMap partsOf).foldr joinLiteral [] with
  | [] => .empty
  | [part] => part
  | parts => .concat parts

/-- The branches of a choice, flattened by one level. -/
def branchesOf : Expr → List Expr
  | .alternation branches => branches
  | branch => [branch]

/-- The set of a literal with one character. -/
def singleton? : Expr → Option CodePoints
  | .literal [character] => some (CodePoints.singleton character.toNat)
  | _ => none

def members? : Expr → Option CodePoints
  | .set members _ => some members
  | _ => none

/-- The set of all branches, if each of them is a single character or each of them is a set. -/
def mergedSet? (branches : List Expr) : Option CodePoints :=
  let union? (set? : Expr → Option CodePoints) :=
    (branches.mapM set?).map (List.foldl CodePoints.union CodePoints.empty)
  union? singleton? <|> union? members?

/-- The choice between expressions that do not begin with the same parts. -/
def plainChoice (branches : List Expr) : Expr :=
  match branches.flatMap branchesOf with
  | [] => fail
  | [branch] => branch
  | branches =>
      match mergedSet? branches with
      | some members => ofSet members true
      | none => .alternation branches

mutual

/-- Two pieces of a pattern are the same. Captures are numbered, so no two of them are the same. -/
def isSame : Expr → Expr → Bool
  | .empty, .empty => true
  | .literal first, .literal second => first = second
  | .set first unicode, .set second alsoUnicode => first = second && unicode = alsoUnicode
  | .look first, .look second => first = second
  | .repetition first least most isLazy, .repetition second other bound alsoLazy =>
      isSame first second && least = other && most = bound && isLazy = alsoLazy
  | .concat firsts, .concat seconds => areSame firsts seconds
  | .alternation firsts, .alternation seconds => areSame firsts seconds
  | _, _ => false

def areSame : List Expr → List Expr → Bool
  | [], [] => true
  | first :: firsts, second :: seconds => isSame first second && areSame firsts seconds
  | _, _ => false

end

/-- The number of parts with which both sequences begin. -/
def sharedLength : List Expr → List Expr → Nat
  | first :: firsts, second :: seconds =>
      if isSame first second then sharedLength firsts seconds + 1 else 0
  | _, _ => 0

def sequence? : Expr → Option (List Expr)
  | .concat parts => some parts
  | _ => none

/-- The choice between expressions. If all of them are sequences that begin with the same parts,
these parts come first. -/
def choice (branches : List Expr) : Expr :=
  match plainChoice branches with
  | .alternation branches =>
      match branches.mapM sequence? with
      | some (first :: others) =>
          let length := (others.map (sharedLength first)).foldl min first.length
          if length = 0 then .alternation branches
          else
            let ends := (first :: others).map fun parts => inRow (parts.drop length)
            inRow (first.take length ++ [plainChoice ends])
      | _ => .alternation branches
  | choice => choice

end Expr

end MeshAccess.Regex
