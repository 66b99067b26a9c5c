/-!
This file holds the variable-length form of natural numbers.

Each byte has seven bits of the number, the lowest ones first, and the top bit of a byte says whether
another one follows. The reader takes at most ten bytes and numbers of at most 64 bits, also in forms
that are longer than necessary.
-/

namespace MeshAccess.Wire.Varint

def encode (value : Nat) : List UInt8 :=
  if value < 128 then [value.toUInt8]
  else (value % 128 + 128).toUInt8 :: encode (value / 128)
  termination_by value
  decreasing_by omega

/-- This function reads a number of at most `count` bytes. The last byte of the longest form has one
bit. -/
def readWithin? : Nat → List UInt8 → Option (Nat × List UInt8)
  | 0, _ => none
  | _, [] => none
  | count + 1, byte :: rest =>
      if byte.toNat < 128 then
        if count = 0 && 2 ≤ byte.toNat then none else some (byte.toNat, rest)
      else
        (readWithin? count rest).map fun (value, tail) => (byte.toNat - 128 + 128 * value, tail)

/-- The most bytes of a number. -/
def maxLength : Nat := 10

/-- This function reads a number and gives the bytes after it. -/
def read? (bytes : List UInt8) : Option (Nat × List UInt8) := readWithin? maxLength bytes

theorem readWithin?_length {count value : Nat} {bytes tail : List UInt8}
    (read : readWithin? count bytes = some (value, tail)) : tail.length < bytes.length := by
  induction count generalizing bytes value with
  | zero => simp [readWithin?] at read
  | succ count inductionHypothesis =>
      cases bytes with
      | nil => simp [readWithin?] at read
      | cons byte rest =>
          simp only [readWithin?] at read
          split at read
          · split at read
            · simp at read
            · simp only [Option.some.injEq, Prod.mk.injEq] at read
              simp [← read.2]
          · obtain ⟨⟨value', tail'⟩, inner, equal⟩ := Option.map_eq_some_iff.mp read
            obtain ⟨_, rfl⟩ := Prod.mk.inj equal
            exact Nat.lt_succ_of_lt (inductionHypothesis inner)

theorem read?_length {value : Nat} {bytes tail : List UInt8}
    (read : read? bytes = some (value, tail)) : tail.length < bytes.length :=
  readWithin?_length read

end MeshAccess.Wire.Varint
