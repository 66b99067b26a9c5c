import MeshAccess.Proofs.Text.Utf8
import MeshAccess.Wire.Varint

/-! This file says that a number of 64 bits can be read back from its variable-length form. -/

namespace MeshAccess.Wire.Varint

open Text.Utf8 (toNat_toUInt8)

theorem encode_ne_nil (value : Nat) : encode value ≠ [] := by
  rw [encode]
  split <;> exact List.cons_ne_nil _ _

/-- A number is read back if its bits fit into the bytes that may be read, of which the last one has
one bit. -/
theorem readWithin?_encode_append (count : Nat) {value : Nat} (small : value < 2 ^ (7 * count + 1))
    (tail : List UInt8) :
    readWithin? (count + 1) (encode value ++ tail) = some (value, tail) := by
  induction count generalizing value with
  | zero =>
      have one : value < 2 := small
      rw [encode, if_pos (by omega), List.singleton_append, readWithin?,
        toNat_toUInt8 (by omega), if_pos (by omega)]
      exact if_neg (by simpa using one)
  | succ count inductionHypothesis =>
      rw [encode]
      split
      next last =>
        rw [List.singleton_append, readWithin?, toNat_toUInt8 (by omega), if_pos last]
        exact if_neg (by simp)
      next more =>
        have rest : value / 128 < 2 ^ (7 * count + 1) := by
          rw [Nat.div_lt_iff_lt_mul (by decide)]
          calc
            value < 2 ^ (7 * (count + 1) + 1) := small
            _ = 2 ^ (7 * count + 1) * 128 := by ring
        have joined : value % 128 + 128 - 128 + 128 * (value / 128) = value := by omega
        rw [List.cons_append, readWithin?, toNat_toUInt8 (by omega), if_neg (by omega),
          inductionHypothesis rest, Option.map_some]
        exact congrArg (fun value => some (value, tail)) joined

/-- A number of at most 64 bits is read back, whatever comes after it. -/
theorem read?_encode_append {value : Nat} (small : value < 2 ^ 64) (tail : List UInt8) :
    read? (encode value ++ tail) = some (value, tail) :=
  readWithin?_encode_append 9 small tail

theorem readWithin?_lt {count value : Nat} {bytes tail : List UInt8}
    (read : readWithin? (count + 1) bytes = some (value, tail)) : value < 2 ^ (7 * count + 1) := by
  induction count generalizing bytes value with
  | zero =>
      cases bytes with
      | nil => cases read
      | cons byte rest =>
          rw [readWithin?] at read
          split at read
          · split at read
            · cases read
            next small =>
              cases read
              simpa using small
          · cases read
  | succ count inductionHypothesis =>
      cases bytes with
      | nil => cases read
      | cons byte rest =>
          have more : 2 ^ (7 * (count + 1) + 1) = 2 ^ (7 * count + 1) * 128 := by ring
          have positive : 0 < 2 ^ (7 * count + 1) := Nat.pow_pos (by decide)
          have byteSmall : byte.toNat < 256 := byte.toNat_lt
          rw [readWithin?] at read
          split at read
          next last =>
            rw [if_neg (by simp)] at read
            cases read
            omega
          next =>
            obtain ⟨⟨rest, after⟩, inner, same⟩ := Option.map_eq_some_iff.mp read
            cases same
            have restSmall := inductionHypothesis inner
            omega

/-- A number that is read has at most 64 bits. -/
theorem read?_lt {value : Nat} {bytes tail : List UInt8} (read : read? bytes = some (value, tail)) :
    value < 2 ^ 64 :=
  @readWithin?_lt 9 value bytes tail read

section Length

theorem length_encode_pos (value : Nat) : 0 < (encode value).length :=
  List.length_pos_iff.mpr (encode_ne_nil value)

/-- Each byte of a number has seven bits. -/
theorem length_encode_le_iff (count value : Nat) :
    (encode value).length ≤ count + 1 ↔ value < 128 ^ (count + 1) := by
  induction count generalizing value with
  | zero =>
      have positive := length_encode_pos (value / 128)
      rw [encode]
      split
      · rw [List.length_singleton]
        omega
      · rw [List.length_cons]
        omega
  | succ count inductionHypothesis =>
      have more : 128 ^ (count + 2) = 128 ^ (count + 1) * 128 := Nat.pow_succ 128 (count + 1)
      have positive : 0 < 128 ^ (count + 1) := Nat.pow_pos (by decide)
      rw [encode]
      split
      · rw [List.length_singleton]
        omega
      · rw [List.length_cons, Nat.add_le_add_iff_right, inductionHypothesis,
          Nat.div_lt_iff_lt_mul (by decide), ← more]

theorem length_encode_mono {value other : Nat} (notGreater : value ≤ other) :
    (encode value).length ≤ (encode other).length := by
  obtain ⟨count, length⟩ := Nat.exists_eq_add_of_le' (length_encode_pos other)
  rw [length, length_encode_le_iff]
  exact Nat.lt_of_le_of_lt notGreater ((length_encode_le_iff count other).mp (Nat.le_of_eq length))

/-- A sum takes no more bytes than its parts. -/
theorem length_encode_add_le (first second : Nat) :
    (encode (first + second)).length ≤ (encode first).length + (encode second).length := by
  obtain ⟨left, leftLength⟩ := Nat.exists_eq_add_of_le' (length_encode_pos first)
  obtain ⟨right, rightLength⟩ := Nat.exists_eq_add_of_le' (length_encode_pos second)
  have firstSmall := (length_encode_le_iff left first).mp (Nat.le_of_eq leftLength)
  have secondSmall := (length_encode_le_iff right second).mp (Nat.le_of_eq rightLength)
  have leftPositive : 0 < 128 ^ left := Nat.pow_pos (by decide)
  have rightPositive : 0 < 128 ^ right := Nat.pow_pos (by decide)
  rw [leftLength, rightLength, show left + 1 + (right + 1) = left + right + 1 + 1 by omega,
    length_encode_le_iff]
  calc
    first + second < 128 ^ left * 128 + 128 ^ right * 128 := Nat.add_lt_add firstSmall secondSmall
    _ ≤ 128 ^ left * 128 * (128 ^ right * 128) :=
      Nat.add_le_mul (by omega) (by omega)
    _ = 128 ^ (left + right + 1 + 1) := by ring

/-- A number takes at most the bytes that it is read from. -/
theorem length_encode_le_of_readWithin? {count value : Nat} {bytes tail : List UInt8}
    (read : readWithin? count bytes = some (value, tail)) :
    (encode value).length + tail.length ≤ bytes.length := by
  induction count generalizing bytes value with
  | zero => cases read
  | succ count inductionHypothesis =>
      cases bytes with
      | nil => cases read
      | cons byte rest =>
          rw [readWithin?] at read
          split at read
          next last =>
            split at read
            · cases read
            · cases read
              rw [encode, if_pos last, List.length_singleton, List.length_cons]
              omega
          next more =>
            obtain ⟨⟨others, after⟩, inner, same⟩ := Option.map_eq_some_iff.mp read
            cases same
            have bound := inductionHypothesis inner
            have positive := length_encode_pos others
            have byteSmall : byte.toNat < 256 := byte.toNat_lt
            rw [encode, List.length_cons]
            split
            · rw [List.length_singleton]
              omega
            · have quotient : (byte.toNat - 128 + 128 * others) / 128 = others := by omega
              rw [quotient, List.length_cons]
              omega

theorem length_encode_le_of_read? {value : Nat} {bytes tail : List UInt8}
    (read : read? bytes = some (value, tail)) :
    (encode value).length + tail.length ≤ bytes.length :=
  length_encode_le_of_readWithin? read

end Length

end MeshAccess.Wire.Varint
