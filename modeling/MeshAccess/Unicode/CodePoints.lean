/-!
This file holds sets of Unicode scalar values.

A set is a list of closed ranges in ascending order. No two ranges overlap or touch, so a set has
one written form.
-/

namespace MeshAccess.Unicode

/-- A closed range of code points. -/
abbrev CodeRange := Nat × Nat

/-- The largest code point. -/
def lastCodePoint : Nat := 0x10FFFF

/-- The surrogate code points are not scalar values. -/
def surrogates : CodeRange := (0xD800, 0xDFFF)

/-- A set of code points as ascending ranges that neither overlap nor touch. -/
structure CodePoints where
  ranges : List CodeRange
  deriving DecidableEq, Repr, Inhabited

namespace CodePoints

def empty : CodePoints := ⟨[]⟩

def isEmpty (set : CodePoints) : Bool := set.ranges.isEmpty

/-- A code point is in the set when one range holds it. -/
def contains (set : CodePoints) (point : Nat) : Bool :=
  set.ranges.any fun range => range.1 ≤ point && point ≤ range.2

/-- This function adds one range and joins it with every range that it touches. -/
def insertRange (range : CodeRange) : List CodeRange → List CodeRange
  | [] => [range]
  | head :: rest =>
      if range.2 + 1 < head.1 then range :: head :: rest
      else if head.2 + 1 < range.1 then head :: insertRange range rest
      else insertRange (min range.1 head.1, max range.2 head.2) rest

/-- The set that holds exactly the code points of the given ranges. -/
def ofRanges (ranges : List CodeRange) : CodePoints :=
  ⟨ranges.foldr (fun range set => if range.1 ≤ range.2 then insertRange range set else set) []⟩

def singleton (point : Nat) : CodePoints := ⟨[(point, point)]⟩

def union (first second : CodePoints) : CodePoints :=
  ⟨first.ranges.foldr insertRange second.ranges⟩

/-- The ranges between `start` and `limit` that the given ascending ranges leave out. -/
def gaps (start limit : Nat) : List CodeRange → List CodeRange
  | [] => if start ≤ limit then [(start, limit)] else []
  | range :: rest =>
      if start < range.1 then (start, range.1 - 1) :: gaps (range.2 + 1) limit rest
      else gaps (range.2 + 1) limit rest

/-- The scalar values outside the set. -/
def complement (set : CodePoints) : CodePoints :=
  ⟨gaps 0 lastCodePoint (insertRange surrogates set.ranges)⟩

def inter (first second : CodePoints) : CodePoints :=
  (first.complement.union second.complement).complement

def difference (first second : CodePoints) : CodePoints :=
  first.inter second.complement

/-- The code points in exactly one of the two sets. -/
def symmetricDifference (first second : CodePoints) : CodePoints :=
  (first.union second).difference (first.inter second)

/-- Every scalar value. -/
def all : CodePoints := empty.complement

/-- The first 128 code points. -/
def ascii : CodePoints := ⟨[(0, 0x7F)]⟩

/-- A set is in ASCII when every range ends before code point 128. -/
def isAscii (set : CodePoints) : Bool := set.ranges.all fun range => range.2 < 0x80

/-- The only member, when the set has exactly one. -/
def single? (set : CodePoints) : Option Nat :=
  match set.ranges with
  | [range] => if range.1 = range.2 then some range.1 else none
  | _ => none

end CodePoints

end MeshAccess.Unicode
