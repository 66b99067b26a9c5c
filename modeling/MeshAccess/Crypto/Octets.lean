/-!
This file holds numbers as sequences of bytes, with the leading byte first.
-/

namespace MeshAccess.Crypto.Octets

/-- The number whose digits to the base 256 are the given bytes, the leading one first. -/
def ofList (bytes : List UInt8) : Nat :=
  bytes.foldl (fun value byte => 256 * value + byte.toNat) 0

/-- The last `count` digits to the base 256 of a number, the leading one first. -/
def toList : Nat → Nat → List UInt8
  | 0, _ => []
  | count + 1, value => toList count (value / 256) ++ [value.toUInt8]

/-- The parts of a list of the given length. The last part may be shorter. -/
def chunks {α : Type} (length : Nat) (items : List α) : List (List α) :=
  if _nonempty : items.isEmpty ∨ length = 0 then []
  else items.take length :: chunks length (items.drop length)
  termination_by items.length
  decreasing_by
    simp only [List.isEmpty_iff, not_or, List.length_drop] at *
    have := List.length_pos_iff.mpr _nonempty.1
    omega

end MeshAccess.Crypto.Octets
