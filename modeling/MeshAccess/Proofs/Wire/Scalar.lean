import MeshAccess.Proofs.Wire.Records

/-! This file says which scalars the reader makes, and that it reads what is written. -/

namespace MeshAccess.Wire

theorem twosComplement_lt (value : Int) : twosComplement value < 2 ^ 64 := by
  rw [twosComplement, Nat.pow_eq]
  omega

theorem signed32_twosComplement {value : Int} (low : -2 ^ 31 ≤ value) (high : value < 2 ^ 31) :
    signed32 (twosComplement value) = value := by
  rw [signed32, twosComplement]
  simp only [Nat.pow_eq]
  split <;> omega

theorem readFixed64_writeFixed64 {bits : Nat} (small : bits < 2 ^ 64) :
    readFixed64 (writeFixed64 bits) = bits := by
  have digits : writeFixed64 bits =
      [bits.toUInt8, (bits / 256).toUInt8, (bits / 65536).toUInt8, (bits / 16777216).toUInt8,
        (bits / 4294967296).toUInt8, (bits / 1099511627776).toUInt8,
        (bits / 281474976710656).toUInt8, (bits / 72057594037927936).toUInt8] := by
    simp [writeFixed64, List.range_succ]
  rw [digits, readFixed64]
  simp only [List.foldr_cons, List.foldr_nil, UInt8.toNat_ofNat']
  omega

/-- A scalar is read back from its payload. -/
theorem Scalar.read?_payload {scalar : Scalar} {value : Value}
    (hasKind : value.HasKind (.scalar scalar)) :
    scalar.read? (value.payload (.scalar scalar)) = some value := by
  cases hasKind with
  | bool value => cases value <;> rfl
  | int32 low high => rw [Value.payload, read?, signed32_twosComplement low high]
  | @uint32 value small =>
      have word : value % Nat.pow 2 32 = value := Nat.mod_eq_of_lt small
      rw [Value.payload, read?, word]
  | double small => rw [Value.payload, read?, readFixed64_writeFixed64 small]
  | text value =>
      rw [Value.payload, read?, Text.Utf8.string?_bytes]
      rfl
  | bytes value => rfl

theorem length_delimit (bytes : List UInt8) :
    (delimit bytes).length = (Varint.encode bytes.length).length + bytes.length :=
  List.length_append

theorem length_delimit_le_double {bytes read : List UInt8}
    (bound : bytes.length ≤ 2 * read.length) :
    (delimit bytes).length ≤ 2 * (delimit read).length := by
  have monotone := Varint.length_encode_mono bound
  have parts := Varint.length_encode_add_le read.length read.length
  rw [← Nat.two_mul] at parts
  rw [length_delimit, length_delimit]
  omega

theorem length_delimit_le_add {bytes former read : List UInt8}
    (bound : bytes.length ≤ former.length + 2 * read.length) :
    (delimit bytes).length ≤ (delimit former).length + 2 * (delimit read).length := by
  have monotone := Varint.length_encode_mono bound
  have parts := Varint.length_encode_add_le former.length (2 * read.length)
  have halves := Varint.length_encode_add_le read.length read.length
  rw [← Nat.two_mul] at halves
  rw [length_delimit, length_delimit, length_delimit]
  omega

/-- A value of a scalar that a payload makes. -/
structure Scalar.IsFound (scalar : Scalar) (payload : Payload) (value : Value) : Prop where
  hasKind : value.HasKind (.scalar scalar)
  wireType : payload.wireType = scalar.wireType
  notLonger : (value.write (.scalar scalar)).length ≤ 2 * payload.write.length

theorem signed32_bounds (value : Nat) : -2 ^ 31 ≤ signed32 value ∧ signed32 value < 2 ^ 31 := by
  rw [signed32]
  simp only [Nat.pow_eq]
  split <;> omega

/-- A negative number is written with ten bytes, and it is read from five bytes or more. -/
theorem length_encode_signed32_le (value : Nat) :
    (Varint.encode (twosComplement (signed32 value))).length ≤
      2 * (Varint.encode value).length := by
  by_cases small : value % 2 ^ 32 < 2 ^ 31
  · have same : twosComplement (signed32 value) = value % 2 ^ 32 := by
      rw [signed32, twosComplement]
      simp only [Nat.pow_eq]
      rw [if_pos small]
      omega
    have shorter := Varint.length_encode_mono (Nat.mod_le value (2 ^ 32))
    rw [same]
    omega
  · have wide := twosComplement_lt (signed32 value)
    have ten := (Varint.length_encode_le_iff 9 _).mpr (Nat.lt_trans wide (by decide))
    have five : ¬ (Varint.encode value).length ≤ 4 := by
      rw [Varint.length_encode_le_iff 3]
      omega
    omega

theorem readFixed64_lt {bytes : List UInt8} : readFixed64 bytes < 2 ^ (8 * bytes.length) := by
  induction bytes with
  | nil => decide
  | cons byte rest inductionHypothesis =>
      have byteSmall : byte.toNat < 256 := byte.toNat_lt
      have more : 2 ^ (8 * (rest.length + 1)) = 2 ^ (8 * rest.length) * 256 := by
        rw [Nat.mul_add, Nat.pow_add]
      rw [readFixed64] at inductionHypothesis
      rw [readFixed64, List.foldr_cons, List.length_cons]
      omega

theorem Scalar.isFound_of_read? {scalar : Scalar} {payload : Payload} {value : Value}
    (isSized : payload.IsSized) (read : scalar.read? payload = some value) :
    scalar.IsFound payload value := by
  rw [read?.eq_def] at read
  split at read
  next number =>
    cases read
    have single : ∀ flag : Bool, (Varint.encode (if flag then 1 else 0)).length ≤ 1 := by
      intro flag
      rw [Varint.length_encode_le_iff 0]
      cases flag <;> decide
    have more : 1 ≤ 2 * (Varint.encode number).length := by
      have positive := Varint.length_encode_pos number
      omega
    exact ⟨.bool _, rfl, Nat.le_trans (single _) more⟩
  next number =>
    cases read
    obtain ⟨low, high⟩ := signed32_bounds number
    exact ⟨.int32 low high, rfl, length_encode_signed32_le number⟩
  next number =>
    cases read
    have shorter := Varint.length_encode_mono (Nat.mod_le number (Nat.pow 2 32))
    exact ⟨.uint32 (Nat.mod_lt number (by decide)), rfl,
      Nat.le_trans shorter (Nat.le_mul_of_pos_left _ (by decide))⟩
  next content =>
    cases read
    have size : content.length = 8 := isSized
    have small : readFixed64 content < 2 ^ (8 * content.length) := readFixed64_lt
    rw [size] at small
    have written : (writeFixed64 (readFixed64 content)).length = 8 := List.length_map _
    refine ⟨.double small, rfl, ?_⟩
    rw [Value.write, Payload.write, written, size]
    decide
  next content =>
    obtain ⟨text, decoded, rfl⟩ := Option.map_eq_some_iff.mp read
    have shorter := Text.Utf8.length_bytes_le decoded
    exact ⟨.text text, rfl, length_delimit_le_double (by omega)⟩
  next content =>
    cases read
    exact ⟨.bytes content, rfl, length_delimit_le_double (by omega)⟩
  next => cases read

end MeshAccess.Wire
