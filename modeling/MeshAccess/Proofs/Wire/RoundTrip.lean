import MeshAccess.Proofs.Wire.Decoded
import MeshAccess.Proofs.Wire.Slots

/-! This file says that a message can be read back from its bytes. -/

namespace MeshAccess.Wire

open Text (Utf8.bytes)

section Level

variable {inner : Inner} {depth limit : Nat} {type : MessageType}

/-- A message is read back if what is inside it is. -/
theorem mergeRecords?_encode (restores : inner.Restores depth) {value : Value}
    (hasKind : value.HasKind (.message type)) (shallow : value.depth ≤ depth + 1)
    (addressable : IsAddressable (encode type value)) :
    mergeRecords? limit inner type type.absent (encode type value) = some value := by
  cases hasKind with
  | @message _ slots fit =>
      rw [Value.depth, Nat.add_le_add_iff_right, slotsDepth_le_iff] at shallow
      have areReadable : ∀ record ∈ recordsOf type.fields slots,
          record.IsReadable (fieldReading type.fields) := fun _ member =>
        isReadable_recordsOf fit addressable member
      have folded := foldlM_recordsOf restores fit type.tags_nodup shallow
        fun record member => (areReadable record member).isSized
      rw [encode, writeSlots_eq fit, MessageType.absent, mergeRecords?,
        Record.readAll?_flatMap_write areReadable]
      change (List.foldlM _ _ _ >>= fun slots => some (Value.message slots)) = _
      rw [MessageType.absentSlots, folded]
      rfl

theorem foldlM_nameRecords (name : String) (value : Value) :
    (nameRecords name).foldlM (mergePair? inner.message type) ("", value) = some (name, value) := by
  rw [nameRecords]
  split
  next isEmpty =>
    rw [String.isEmpty_iff.mp isEmpty]
    rfl
  next =>
    have read : Scalar.text.read? (.delimited (Utf8.bytes name)) = some (.text name) :=
      Scalar.read?_payload (.text name)
    rw [List.foldlM_cons, mergePair?, if_pos rfl, read]
    rfl

theorem foldlM_valueRecords (restores : inner.Restores depth) (name : String) {value : Value}
    (hasKind : value.HasKind (.message type)) (shallow : entryDepth value value.depth ≤ depth + 1)
    (areSized : ∀ record ∈ valueRecords type value, record.payload.IsSized) :
    (valueRecords type value).foldlM (mergePair? inner.message type) (name, type.absent) =
      some (name, value) := by
  rw [valueRecords] at areSized ⊢
  split
  next isAbsent =>
    rw [(Value.isAbsent_iff hasKind).mp isAbsent]
    rfl
  next written =>
    rw [entryDepth, if_neg written, Nat.add_le_add_iff_right] at shallow
    have isSized := areSized _ (by rw [if_neg written]; exact List.mem_singleton_self _)
    have merged : Kind.merge? inner.message (.message type) (some type.absent)
        (value.payload (.message type)) = some value :=
      Kind.merge?_payload restores hasKind shallow isSized
    rw [List.foldlM_cons, mergePair?, if_neg (show 2 ≠ 1 by decide), merged]
    rfl

/-- An entry of a map is read back if the message in it is. -/
theorem readPair?_entryBytes (restores : inner.Restores depth) {entry : String × Value}
    (hasKind : entry.2.HasKind (.message type))
    (shallow : entryDepth entry.2 entry.2.depth ≤ depth + 1)
    (addressable : IsAddressable (entryBytes type entry)) :
    readPair? limit inner.message type (entryBytes type entry) = some entry := by
  have areReadable : ∀ record ∈ entryRecords type entry, record.IsReadable pairReading :=
    fun _ member => isReadable_entryRecords hasKind addressable member
  obtain ⟨name, value⟩ := entry
  rw [readPair?, entryBytes, Record.readAll?_flatMap_write areReadable]
  change (entryRecords type (name, value)).foldlM _ _ = _
  rw [entryRecords, List.foldlM_append, foldlM_nameRecords]
  change List.foldlM _ (name, type.absent) _ = _
  exact foldlM_valueRecords restores name hasKind shallow fun record member =>
    (areReadable record (List.mem_append_right _ member)).isSized

end Level

/-- Messages are read back on every level. -/
theorem Inner.restores_within (limit : Nat) : (within limit).Restores limit := by
  induction limit with
  | zero =>
      -- A message takes a level, and so does an entry.
      refine ⟨fun hasKind shallow => ?_, fun _ shallow => ?_⟩
      · cases hasKind
        rw [Value.depth] at shallow
        exact absurd shallow (Nat.not_succ_le_zero _)
      · rw [entryDepth] at shallow
        exact absurd shallow (Nat.not_succ_le_zero _)
  | succ limit inductionHypothesis =>
      refine ⟨fun hasKind shallow addressable => ?_, fun hasKind shallow addressable => ?_⟩
      · rw [within, merge?_eq]
        exact mergeRecords?_encode inductionHypothesis hasKind shallow addressable
      · rw [within, pair?_eq]
        exact readPair?_entryBytes inductionHypothesis hasKind shallow addressable

/-- A message is read back if its levels of nesting are within the limit. -/
theorem decode?_encode {type : MessageType} {value : Value}
    (conforms : value.Conforms (.message type) (nestingLimit + 1))
    (addressable : IsAddressable (encode type value)) :
    decode? type (encode type value) = some value := by
  rw [decode?, merge?_eq]
  exact mergeRecords?_encode (Inner.restores_within nestingLimit) conforms.hasKind conforms.shallow
    addressable

/-- A message can be read back from its bytes. A length in a message has 64 bits, and a byte sequence
in memory is shorter than half of what such a length can say. -/
structure MessageType.RoundTrips (type : MessageType) : Prop where
  /-- Every message is read back as it was, with what is there and what is not, if what is in it takes
  at most the levels of the limit. The message itself is one level more. -/
  restored : ∀ value : Value, value.Conforms (.message type) (nestingLimit + 1) →
    IsAddressable (encode type value) → decode? type (encode type value) = some value
  /-- A message that is read from any bytes, also from longer forms, is read again from its own. -/
  readAgain : ∀ (bytes : List UInt8) (value : Value), bytes.length < 2 ^ 63 →
    decode? type bytes = some value → decode? type (encode type value) = some value

/-- All message types can be read back. -/
theorem MessageType.roundTrips (type : MessageType) : type.RoundTrips where
  restored _ conforms addressable := decode?_encode conforms addressable
  readAgain bytes value inMemory decoded := by
    obtain ⟨conforms, notLonger⟩ := isMerged_of_decode? decoded
    have addressable : IsAddressable (encode type value) := by
      rw [type.encode_absent, List.length_nil] at notLonger
      rw [IsAddressable]
      omega
    exact decode?_encode conforms addressable

/-- A wrapper with the default value is not a missing one. -/
example : decode? .cidrRange [18, 0] =
    some (.message [.plain (.text ""), .optional (some (.message [.plain (.uint32 0)]))]) := by cbv

end MeshAccess.Wire
