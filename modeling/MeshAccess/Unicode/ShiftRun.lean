import MeshAccess.Unicode.CodePoints

/-!
This file holds maps on code points that move whole runs by a constant distance.

The case maps of Unicode are such maps. A run of stride two takes every second code point, as the
upper case letters do in an alphabet whose cases alternate.
-/

namespace MeshAccess.Unicode

/-- Every code point from `first` to `last` in steps of `stride` moves by `shift`. -/
structure ShiftRun where
  first : Nat
  last : Nat
  stride : Nat
  shift : Int
  deriving DecidableEq, Repr, Inhabited

namespace ShiftRun

/-- The image of one code point, when the run moves it. -/
def image? (run : ShiftRun) (point : Nat) : Option Nat :=
  if run.first ≤ point && point ≤ run.last && (point - run.first) % run.stride = 0 then
    some (point + run.shift).toNat
  else none

/-- The image of a code point under a list of runs. A point outside all runs stays. -/
def apply (runs : List ShiftRun) (point : Nat) : Nat :=
  (runs.findSome? fun run => run.image? point).getD point

/-- The first members of the run, at most `count` many, that lie in the range from `low` on. -/
def members (run : ShiftRun) (low high : Nat) : Nat → List Nat
  | 0 => []
  | count + 1 =>
      let point := run.last - run.stride * count
      if low ≤ point && point ≤ high then point :: run.members low high count
      else run.members low high count

/-- The number of the code points that the run moves. -/
def size (run : ShiftRun) : Nat := (run.last - run.first) / run.stride + 1

/-- The code points of the range that the run moves. -/
def within (run : ShiftRun) (range : CodeRange) : List CodeRange :=
  if range.2 < run.first || run.last < range.1 then []
  else if run.stride = 1 then [(max range.1 run.first, min range.2 run.last)]
  else (run.members range.1 range.2 run.size).map fun point => (point, point)

/-- This function moves both ends of a range. -/
def moveRange (distance : Int) (range : CodeRange) : CodeRange :=
  ((range.1 + distance).toNat, (range.2 + distance).toNat)

/-- The images of the members that lie in the range. -/
def images (run : ShiftRun) (range : CodeRange) : List CodeRange :=
  (run.within range).map (moveRange run.shift)

/-- The members whose images lie in the range. -/
def preimages (run : ShiftRun) (range : CodeRange) : List CodeRange :=
  if (range.2 : Int) < run.first + run.shift then []
  else run.within (((range.1 : Int) - run.shift).toNat, ((range.2 : Int) - run.shift).toNat)

end ShiftRun

end MeshAccess.Unicode
