import MeshAccess.Proofs.Wire.Varint
import MeshAccess.Wire.Writer

/-! This file says that records can be read back from the bytes that they are written as. -/

namespace MeshAccess.Wire

/-- A byte sequence that a length of 64 bits can announce. -/
def IsAddressable (bytes : List UInt8) : Prop := bytes.length < 2 ^ 64

namespace Payload

/-- The shape of a payload. -/
def wireType : Payload → WireType
  | .varint _ => .varint
  | .fixed64 _ => .fixed64
  | .fixed32 _ => .fixed32
  | .delimited _ => .delimited

/-- The bytes of a payload. -/
def write : Payload → List UInt8
  | .varint value => Varint.encode value
  | .fixed64 bytes => bytes
  | .fixed32 bytes => bytes
  | .delimited bytes => delimit bytes

/-- The payload has the size that belongs to its shape. -/
def IsSized : Payload → Prop
  | .varint value => value < 2 ^ 64
  | .fixed64 bytes => bytes.length = 8
  | .fixed32 bytes => bytes.length = 4
  | .delimited bytes => IsAddressable bytes

end Payload

namespace Record

/-- The bytes of a record. -/
def write (record : Record) : List UInt8 :=
  writeKey record.tag record.payload.wireType ++ record.payload.write

/-- A key is split into its tag and the shape of the payload. -/
theorem readKey?_of_read? {tag : Nat} (positive : 1 ≤ tag) (small : tag < 2 ^ 29)
    {wireType : WireType} {bytes tail : List UInt8}
    (read : Varint.read? bytes = some (8 * tag + wireType.toNat, tail)) :
    readKey? bytes = some ((tag, wireType), tail) := by
  have shape : wireType.toNat < 8 := by cases wireType <;> decide
  have known : WireType.ofNat? wireType.toNat = some wireType := by cases wireType <;> rfl
  have remainder : (8 * tag + wireType.toNat) % 8 = wireType.toNat := by omega
  have quotient : (8 * tag + wireType.toNat) / 8 = tag := by omega
  have fits : 8 * tag + wireType.toNat ≤ maxKey := by
    change 8 * tag + wireType.toNat ≤ 2 ^ 32 - 1
    omega
  rw [readKey?, read]
  simp only [Option.bind_eq_bind, Option.bind_some]
  rw [remainder, known, quotient]
  simp [fits, positive]

theorem readKey?_writeKey_append {tag : Nat} (positive : 1 ≤ tag) (small : tag < 2 ^ 29)
    (wireType : WireType) (tail : List UInt8) :
    readKey? (writeKey tag wireType ++ tail) = some ((tag, wireType), tail) := by
  have shape : wireType.toNat < 8 := by cases wireType <;> decide
  exact readKey?_of_read? positive small (Varint.read?_encode_append (by omega) tail)

theorem takeBytes?_append (bytes tail : List UInt8) :
    takeBytes? bytes.length (bytes ++ tail) = some (bytes, tail) := by
  simp [takeBytes?]

theorem readDelimited?_delimit_append {bytes : List UInt8} (addressable : IsAddressable bytes)
    (tail : List UInt8) : readDelimited? (delimit bytes ++ tail) = some (bytes, tail) := by
  rw [readDelimited?, delimit, List.append_assoc, Varint.read?_encode_append addressable]
  exact takeBytes?_append bytes tail

theorem readPayload?_write_append {payload : Payload} (isSized : payload.IsSized)
    (tail : List UInt8) :
    readPayload? (payload.write ++ tail) payload.wireType = some (payload, tail) := by
  cases payload with
  | varint value =>
      rw [Payload.wireType, readPayload?, Payload.write, Varint.read?_encode_append isSized]
      rfl
  | fixed64 bytes =>
      have size : bytes.length = 8 := isSized
      rw [Payload.wireType, readPayload?, Payload.write, ← size, takeBytes?_append]
      rfl
  | fixed32 bytes =>
      have size : bytes.length = 4 := isSized
      rw [Payload.wireType, readPayload?, Payload.write, ← size, takeBytes?_append]
      rfl
  | delimited bytes =>
      rw [Payload.wireType, readPayload?, Payload.write, readDelimited?_delimit_append isSized]
      rfl

/-- The record can be read back by a reader that expects its tag. -/
structure IsReadable (reading : Nat → Reading) (record : Record) : Prop where
  positive : 1 ≤ record.tag
  small : record.tag < 2 ^ 29
  isSized : record.payload.IsSized
  expected : reading record.tag = .asWritten ∨
    reading record.tag = .asDelimited ∧ record.payload.wireType = .delimited

variable {limit : Nat} {reading : Nat → Reading}

theorem read?_write_append {record : Record} (isReadable : record.IsReadable reading)
    (tail : List UInt8) :
    read? limit reading (record.write ++ tail) = some (some record, tail) := by
  rw [read?, write, List.append_assoc,
    readKey?_writeKey_append isReadable.positive isReadable.small]
  dsimp only
  rcases isReadable.expected with expected | ⟨expected, isDelimited⟩
  · rw [expected]
    dsimp only
    rw [readPayload?_write_append isReadable.isSized]
    rfl
  · rw [expected]
    have isSized := isReadable.isSized
    obtain ⟨tag, payload⟩ := record
    cases payload with
    | delimited bytes =>
        dsimp only
        rw [Payload.write, readDelimited?_delimit_append isSized]
        rfl
    | varint | fixed64 | fixed32 => cases isDelimited

theorem length_write (record : Record) :
    record.write.length =
      (writeKey record.tag record.payload.wireType).length + record.payload.write.length :=
  List.length_append

theorem readAll?_nil : readAll? limit reading [] = some [] := by
  rw [readAll?]
  exact if_pos rfl

/-- A sequence of records begins with its first record. -/
theorem readAll?_of_read? {bytes tail : List UInt8} {found : Option Record}
    (read : read? limit reading bytes = some (found, tail)) :
    readAll? limit reading bytes =
      (readAll? limit reading tail).map fun records => found.toList ++ records := by
  have notEmpty : ¬ bytes.isEmpty = true := by
    rw [List.isEmpty_iff]
    rintro rfl
    exact absurd (read?_length read) (Nat.not_lt_zero _)
  rw [readAll?, if_neg notEmpty]
  split
  next failed => cases failed.symm.trans read
  next found tail again =>
    cases again.symm.trans read
    rfl

/-- A sequence of records is read back from its bytes. -/
theorem readAll?_flatMap_write {records : List Record}
    (areReadable : ∀ record ∈ records, record.IsReadable reading) :
    readAll? limit reading (records.flatMap write) = some records := by
  induction records with
  | nil => exact readAll?_nil
  | cons record rest inductionHypothesis =>
      obtain ⟨isReadable, others⟩ := List.forall_mem_cons.mp areReadable
      rw [List.flatMap_cons, readAll?_of_read? (read?_write_append isReadable _),
        inductionHypothesis others]
      rfl

theorem length_payload_le {record : Record} {bytes : List UInt8}
    (isDelimited : record.payload = .delimited bytes) : bytes.length ≤ record.write.length := by
  rw [write, isDelimited, Payload.write, delimit]
  simp only [List.length_append]
  omega

/-- The bytes of a payload are among the bytes of its record. -/
theorem length_write_le {records : List Record} {record : Record} (member : record ∈ records) :
    record.write.length ≤ (records.flatMap write).length := by
  obtain ⟨before, after, rfl⟩ := List.append_of_mem member
  simp only [List.flatMap_append, List.flatMap_cons, List.length_append]
  omega

section Found

/-- The shape of its payload does not change the length of a key. -/
theorem length_writeKey (tag : Nat) (wireType other : WireType) :
    (writeKey tag wireType).length ≤ (writeKey tag other).length := by
  have shape : wireType.toNat < 8 := by cases wireType <;> decide
  obtain ⟨count, length⟩ := Nat.exists_eq_add_of_le'
    (Varint.length_encode_pos (8 * tag + other.toNat))
  have small := (Varint.length_encode_le_iff count _).mp (Nat.le_of_eq length)
  have more : 128 ^ (count + 1) = 128 ^ count * 128 := Nat.pow_succ 128 count
  rw [writeKey, writeKey, length, Varint.length_encode_le_iff]
  omega

theorem length_writeKey_le_of_readKey? {tag : Nat} {wireType : WireType} {bytes tail : List UInt8}
    (read : readKey? bytes = some ((tag, wireType), tail)) :
    (writeKey tag wireType).length + tail.length ≤ bytes.length := by
  simp only [readKey?, Option.bind_eq_bind, Option.bind_eq_some_iff] at read
  obtain ⟨⟨key, rest⟩, inner, found, known, final⟩ := read
  split at final
  · cases final
    have shape : wireType.toNat = key % 8 := by
      revert known
      fun_cases WireType.ofNat? (key % 8) <;> grind [WireType.toNat]
    have whole : 8 * (key / 8) + wireType.toNat = key := by omega
    rw [writeKey, whole]
    exact Varint.length_encode_le_of_read? inner
  · cases final

theorem length_of_takeBytes? {count : Nat} {bytes value tail : List UInt8}
    (read : takeBytes? count bytes = some (value, tail)) :
    value.length = count ∧ count + tail.length = bytes.length := by
  rw [takeBytes?] at read
  split at read
  · cases read
    rw [List.length_take, List.length_drop]
    omega
  · cases read

/-- The parts of a payload that is read. -/
structure IsFound (payload : Payload) (bytes tail : List UInt8) : Prop where
  isSized : payload.IsSized
  notLonger : payload.write.length + tail.length ≤ bytes.length

theorem isFound_of_readDelimited? {bytes value tail : List UInt8}
    (read : readDelimited? bytes = some (value, tail)) : IsFound (.delimited value) bytes tail := by
  simp only [readDelimited?, Option.bind_eq_bind, Option.bind_eq_some_iff] at read
  obtain ⟨⟨length, rest⟩, announced, taken⟩ := read
  obtain ⟨rfl, whole⟩ := length_of_takeBytes? taken
  have bound := Varint.length_encode_le_of_read? announced
  dsimp only at whole bound
  refine ⟨Varint.read?_lt announced, ?_⟩
  rw [Payload.write, delimit, List.length_append]
  omega

theorem isFound_of_readPayload? {bytes tail : List UInt8} {wireType : WireType} {payload : Payload}
    (read : readPayload? bytes wireType = some (payload, tail)) :
    payload.wireType = wireType ∧ IsFound payload bytes tail := by
  cases wireType with
  | varint =>
      obtain ⟨⟨value, rest⟩, inner, same⟩ := Option.map_eq_some_iff.mp read
      cases same
      exact ⟨rfl, Varint.read?_lt inner, Varint.length_encode_le_of_read? inner⟩
  | fixed64 | fixed32 =>
      obtain ⟨⟨value, rest⟩, inner, same⟩ := Option.map_eq_some_iff.mp read
      cases same
      obtain ⟨size, whole⟩ := length_of_takeBytes? inner
      exact ⟨rfl, size, Nat.le_of_eq (size.symm ▸ whole)⟩
  | delimited =>
      obtain ⟨⟨value, rest⟩, inner, same⟩ := Option.map_eq_some_iff.mp read
      cases same
      exact ⟨rfl, isFound_of_readDelimited? inner⟩
  | startGroup | endGroup => cases read

/-- A record of a known tag. -/
structure IsKnown (reading : Nat → Reading) (record : Record) : Prop where
  expected : reading record.tag ≠ .skipped
  isSized : record.payload.IsSized

theorem isKnown_of_read? {record : Record} {bytes tail : List UInt8}
    (read : read? limit reading bytes = some (some record, tail)) :
    record.IsKnown reading ∧ record.write.length + tail.length ≤ bytes.length := by
  rw [read?] at read
  split at read
  · cases read
  next tag wireType rest key =>
    have keyBound := length_writeKey_le_of_readKey? key
    split at read
    next expected =>
      obtain ⟨⟨payload, final⟩, inner, same⟩ := Option.map_eq_some_iff.mp read
      cases same
      obtain ⟨rfl, isSized, notLonger⟩ := isFound_of_readPayload? inner
      refine ⟨⟨ne_of_eq_of_ne expected (by decide), isSized⟩, ?_⟩
      rw [write, List.length_append]
      dsimp only
      omega
    next expected =>
      obtain ⟨⟨value, final⟩, inner, same⟩ := Option.map_eq_some_iff.mp read
      cases same
      obtain ⟨isSized, notLonger⟩ := isFound_of_readDelimited? inner
      have sameLength := length_writeKey tag .delimited wireType
      refine ⟨⟨ne_of_eq_of_ne expected (by decide), isSized⟩, ?_⟩
      rw [write, List.length_append, Payload.wireType]
      dsimp only
      omega
    · obtain ⟨final, _, same⟩ := Option.map_eq_some_iff.mp read
      cases same

/-- The records that are read take at most the bytes that they are read from. -/
theorem isKnown_of_readAll? {bytes : List UInt8} {records : List Record}
    (read : readAll? limit reading bytes = some records) :
    (∀ record ∈ records, record.IsKnown reading) ∧
      (records.flatMap write).length ≤ bytes.length := by
  fun_induction readAll? limit reading bytes generalizing records with
  | case1 =>
      cases read
      exact ⟨nofun, Nat.zero_le _⟩
  | case2 => cases read
  | case3 bytes _ found tail first inductionHypothesis =>
      obtain ⟨rest, others, rfl⟩ := Option.map_eq_some_iff.mp read
      obtain ⟨othersKnown, othersNotLonger⟩ := inductionHypothesis others
      cases found with
      | none =>
          have shorter := read?_length first
          exact ⟨othersKnown, Nat.le_trans othersNotLonger (Nat.le_of_lt shorter)⟩
      | some record =>
          obtain ⟨isKnown, notLonger⟩ := isKnown_of_read? first
          refine ⟨List.forall_mem_cons.mpr ⟨isKnown, othersKnown⟩, ?_⟩
          rw [Option.toList_some, List.singleton_append, List.flatMap_cons, List.length_append]
          omega

end Found

end Record

end MeshAccess.Wire
