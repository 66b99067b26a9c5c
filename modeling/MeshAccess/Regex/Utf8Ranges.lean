import MeshAccess.Unicode.CodePoints
import MeshAccess.Text.Utf8

/-!
This file splits ranges of code points into sequences of byte ranges.

A sequence stands for the UTF-8 forms that take their first byte from its first range, their second
byte from its second range, and so on. The sequences of a range are in ascending order.
-/

namespace MeshAccess.Regex.Utf8Ranges

open MeshAccess.Unicode (CodePoints CodeRange)

/-- A closed range of bytes. -/
abbrev ByteRange := Nat × Nat

/-- The last code points of one, two and three bytes, and the ones around the surrogates. -/
def borders : List Nat := [0x7F, 0x7FF, 0xD7FF, 0xDFFF, 0xFFFF]

/-- The sequence of a range whose ends have equally many bytes. -/
def sequence (first last : Nat) : List ByteRange :=
  let bytes := fun point => (Text.Utf8.encodeChar (Char.ofNat point)).map UInt8.toNat
  (bytes first).zip (bytes last)

/-- The first place where a range must be split: before it all sequences are complete. -/
def splitPoint? (first last : Nat) : Option Nat :=
  (borders.find? fun border => first ≤ border && border < last).or
    ([64, Nat.pow 64 2, Nat.pow 64 3].findSome? fun size =>
      if last < 0x80 || first / size = last / size then none
      else if first % size ≠ 0 then some (first / size * size + size - 1)
      else if last % size ≠ size - 1 then some (last / size * size - 1)
      else none)

/-- The sequences of a range. Every split makes two smaller ranges. -/
def ofRange : Nat → CodeRange → List (List ByteRange)
  | 0, _ => []
  | fuel + 1, (first, last) =>
      match splitPoint? first last with
      | some middle => ofRange fuel (first, middle) ++ ofRange fuel (middle + 1, last)
      | none =>
          if 0xD800 ≤ first && first ≤ 0xDFFF then [] else [sequence first last]

/-- The sequences of a set. No range takes more than 64 splits. -/
def ofSet (set : CodePoints) : List (List ByteRange) := set.ranges.flatMap (ofRange 64)

end MeshAccess.Regex.Utf8Ranges
