import MeshAccess.Proofs.Wire.Scalar

/-! This file says that a message type reads the records of its messages. -/

namespace MeshAccess.Wire

section Size

/-- A payload with a length fits into the bytes around it. -/
def Payload.FitsInto (size : Nat) (payload : Payload) : Prop :=
  ∀ bytes, payload = .delimited bytes → bytes.length ≤ size

variable {size : Nat}

theorem Value.isSized_payload {kind : Kind} {value : Value} (hasKind : value.HasKind kind)
    (fitsInto : (value.payload kind).FitsInto size) (addressable : size < 2 ^ 64) :
    (value.payload kind).IsSized := by
  have delimited {bytes : List UInt8} (isDelimited : value.payload kind = .delimited bytes) :
      IsAddressable bytes :=
    Nat.lt_of_le_of_lt (fitsInto bytes isDelimited) addressable
  cases hasKind with
  | bool value =>
      have small : (if value then 1 else 0) < 2 ^ 64 := by split <;> decide
      exact small
  | int32 => exact twosComplement_lt _
  | uint32 small => exact Nat.lt_trans small (by decide)
  | double => exact List.length_map _
  | text | bytes | message => exact delimited rfl

theorem Slot.isSized_of_mem {shape : Shape} {slot : Slot} (fits : slot.Fits shape)
    {record : Record} (member : record ∈ slot.records shape)
    (fitsInto : record.payload.FitsInto size) (addressable : size < 2 ^ 64) :
    record.payload.IsSized := by
  cases fits with
  | plain hasKind =>
      rw [records] at member
      split at member
      · cases member
      · cases List.mem_singleton.mp member
        exact Value.isSized_payload hasKind fitsInto addressable
  | missing => cases member
  | optional hasKind =>
      cases List.mem_singleton.mp member
      exact Value.isSized_payload hasKind fitsInto addressable
  | repeated haveKind =>
      obtain ⟨value, among, rfl⟩ := List.mem_map.mp member
      exact Value.isSized_payload (haveKind value among) fitsInto addressable
  | unchosen => cases member
  | choice chosen hasKind =>
      rw [records, chosen] at member
      cases List.mem_singleton.mp member
      exact Value.isSized_payload hasKind fitsInto addressable
  | map ascending haveKind =>
      obtain ⟨entry, among, rfl⟩ := List.mem_map.mp member
      exact Nat.lt_of_le_of_lt (fitsInto _ rfl) addressable

theorem Record.fitsInto_of_mem {records : List Record} {record : Record}
    (member : record ∈ records) :
    record.payload.FitsInto (records.flatMap Record.write).length := fun _ isDelimited =>
  Nat.le_trans (length_payload_le isDelimited) (length_write_le member)

end Size

theorem mem_recordsOf {fields : List Field} {slots : List Slot}
    (fit : Fit fields slots)
    {record : Record} (member : record ∈ recordsOf fields slots) :
    ∃ field ∈ fields, ∃ slot : Slot, slot.Fits field.shape ∧
      record ∈ slot.records field.shape := by
  induction fit with
  | nil => cases member
  | @cons field slot fields slots fits rest inductionHypothesis =>
      rcases List.mem_append.mp member with first | later
      · exact ⟨field, List.mem_cons_self, slot, fits, first⟩
      · obtain ⟨other, among, found⟩ := inductionHypothesis later
        exact ⟨other, List.mem_cons_of_mem field among, found⟩

/-- The records of a map have lengths. -/
theorem Slot.wireType_of_map {tag : Nat} {type : MessageType} {slot : Slot} {record : Record}
    (member : record ∈ slot.records (.map tag type)) : record.payload.wireType = .delimited := by
  cases slot with
  | map entries =>
      obtain ⟨entry, _, rfl⟩ := List.mem_map.mp member
      rfl
  | _ => cases member

/-- A message type reads the records of its messages. -/
theorem isReadable_recordsOf {type : MessageType} {slots : List Slot}
    (fit : Fit type.fields slots)
    (addressable : IsAddressable (writeSlots type.fields slots)) {record : Record}
    (member : record ∈ recordsOf type.fields slots) :
    record.IsReadable (fieldReading type.fields) := by
  obtain ⟨field, among, slot, fits, own⟩ := mem_recordsOf fit member
  have tagged := Slot.tag_mem own
  obtain ⟨positive, small⟩ := type.tags_inRange field among record.tag tagged
  rw [IsAddressable, writeSlots_eq fit] at addressable
  refine ⟨positive, small,
    Slot.isSized_of_mem fits own (Record.fitsInto_of_mem member) addressable, ?_⟩
  rw [fieldReading_eq type.tags_nodup among tagged]
  cases shape : field.shape with
  | map tag type =>
      rw [shape] at own
      exact .inr ⟨rfl, Slot.wireType_of_map own⟩
  | _ => exact .inl rfl

/-- The records of an entry of a map are read. -/
theorem isReadable_entryRecords {type : MessageType} {entry : String × Value}
    (hasKind : entry.2.HasKind (.message type))
    (addressable : IsAddressable (entryBytes type entry)) {record : Record}
    (member : record ∈ entryRecords type entry) :
    record.IsReadable pairReading := by
  have fitsInto := Record.fitsInto_of_mem member
  rcases List.mem_append.mp member with first | second
  · rw [nameRecords] at first
    split at first
    · cases first
    · cases List.mem_singleton.mp first
      exact ⟨Nat.le_refl 1, show 1 < 2 ^ 29 by decide,
        Nat.lt_of_le_of_lt (fitsInto _ rfl) addressable, .inl rfl⟩
  · rw [valueRecords] at second
    split at second
    · cases second
    · cases List.mem_singleton.mp second
      exact ⟨show 1 ≤ 2 by decide, show 2 < 2 ^ 29 by decide,
        Value.isSized_payload hasKind fitsInto addressable, .inl rfl⟩

end MeshAccess.Wire
