import MeshAccess.Proofs.Wire.Record
import MeshAccess.Proofs.Wire.Schema
import MeshAccess.Proofs.Wire.Value

/-! This file divides the bytes of a message into the records of its fields. -/

namespace MeshAccess.Wire

open Text (Utf8.bytes)

/-- The payload of a value, without its length. -/
def Value.payload (kind : Kind) : Value → Payload
  | .bool value => .varint (if value then 1 else 0)
  | .int32 value => .varint (twosComplement value)
  | .uint32 value => .varint value
  | .double bits => .fixed64 (writeFixed64 bits)
  | .text value => .delimited (Utf8.bytes value)
  | .bytes value => .delimited value
  | .message slots =>
      match kind with
      | .message type => .delimited (writeSlots type.fields slots)
      | .scalar _ => .delimited []

/-- The record of the name of an entry, if it is written. -/
def nameRecords (name : String) : List Record :=
  if name.isEmpty then [] else [⟨1, .delimited (Utf8.bytes name)⟩]

/-- The record of the value of an entry, if it is written. -/
def valueRecords (type : MessageType) (value : Value) : List Record :=
  if value.isAbsent then [] else [⟨2, value.payload (.message type)⟩]

/-- The records of an entry of a map. -/
def entryRecords (type : MessageType) (entry : String × Value) : List Record :=
  nameRecords entry.1 ++ valueRecords type entry.2

/-- The bytes of an entry of a map. -/
def entryBytes (type : MessageType) (entry : String × Value) : List UInt8 :=
  (entryRecords type entry).flatMap Record.write

/-- The records of a field. -/
def Slot.records : Shape → Slot → List Record
  | .plain tag scalar, .plain value =>
      if value.isZero then [] else [⟨tag, value.payload (.scalar scalar)⟩]
  | .optional tag kind, .optional value => value.toList.map fun value => ⟨tag, value.payload kind⟩
  | .repeated tag kind, .repeated values => values.map fun value => ⟨tag, value.payload kind⟩
  | .choice variants, .choice (some (tag, value)) =>
      (variants.find? fun variant => variant.tag = tag).toList.map fun variant =>
        ⟨tag, value.payload variant.kind⟩
  | .map tag type, .map entries =>
      entries.map fun entry => ⟨tag, .delimited (entryBytes type entry)⟩
  | _, _ => []

/-- The records of a message. -/
def recordsOf : List Field → List Slot → List Record
  | field :: fields, slot :: slots => slot.records field.shape ++ recordsOf fields slots
  | _, _ => []

theorem Value.write_eq (kind : Kind) (value : Value) :
    value.write kind = (value.payload kind).write := by
  cases value with
  | message slots => cases kind <;> rfl
  | _ => rfl

theorem Value.wireType_payload {kind : Kind} {value : Value} (hasKind : value.HasKind kind) :
    (value.payload kind).wireType = kind.wireType := by
  cases hasKind <;> rfl

/-- A record with a value is written as its key and the value. -/
theorem Value.write_record {kind : Kind} {value : Value} (hasKind : value.HasKind kind)
    (tag : Nat) :
    Record.write ⟨tag, value.payload kind⟩ = writeKey tag kind.wireType ++ value.write kind := by
  rw [Record.write, value.wireType_payload hasKind, value.write_eq]

theorem writeValues_eq {tag : Nat} {kind : Kind} {values : List Value}
    (haveKind : ∀ value ∈ values, value.HasKind kind) :
    writeValues tag kind values =
      (values.map fun value => ⟨tag, value.payload kind⟩).flatMap Record.write := by
  induction values with
  | nil => rfl
  | cons value rest inductionHypothesis =>
      obtain ⟨hasKind, others⟩ := List.forall_mem_cons.mp haveKind
      rw [writeValues, inductionHypothesis others, List.map_cons, List.flatMap_cons,
        Value.write_record hasKind]

theorem writeEntries_cons {tag : Nat} {type : MessageType} {entry : String × Value}
    (hasKind : entry.2.HasKind (.message type)) (rest : List (String × Value)) :
    writeEntries tag type (entry :: rest) =
      Record.write ⟨tag, .delimited (entryBytes type entry)⟩ ++ writeEntries tag type rest := by
  obtain ⟨name, value⟩ := entry
  have content : (if name.isEmpty then [] else
      writeKey 1 .delimited ++ delimit (Utf8.bytes name)) ++
        (if value.isAbsent then [] else writeKey 2 .delimited ++ value.write (.message type)) =
      entryBytes type (name, value) := by
    rw [entryBytes, entryRecords, List.flatMap_append, nameRecords, valueRecords]
    congr 1
    · cases name.isEmpty <;> simp [Record.write, Payload.write, Payload.wireType]
    · cases value.isAbsent <;> simp [Value.write_record hasKind, Kind.wireType]
  rw [writeEntries, content]
  rfl

theorem writeEntries_eq {tag : Nat} {type : MessageType} {entries : List (String × Value)}
    (haveKind : ∀ entry ∈ entries, entry.2.HasKind (.message type)) :
    writeEntries tag type entries =
      (entries.map fun entry => ⟨tag, .delimited (entryBytes type entry)⟩).flatMap
        Record.write := by
  induction entries with
  | nil => rfl
  | cons entry rest inductionHypothesis =>
      obtain ⟨hasKind, others⟩ := List.forall_mem_cons.mp haveKind
      rw [writeEntries_cons hasKind, inductionHypothesis others, List.map_cons, List.flatMap_cons]

theorem Slot.write_eq {shape : Shape} {slot : Slot} (fits : slot.Fits shape) :
    slot.write shape = (slot.records shape).flatMap Record.write := by
  cases fits with
  | @plain tag scalar value hasKind =>
      rw [write, records]
      cases value.isZero with
      | true => rfl
      | false => simp [Value.write_record hasKind, Kind.wireType]
  | missing => rfl
  | optional hasKind => simp [write, records, Value.write_record hasKind]
  | repeated haveKind => exact writeValues_eq haveKind
  | unchosen => rfl
  | choice chosen hasKind => simp [write, records, chosen, Value.write_record hasKind]
  | map ascending haveKind => exact writeEntries_eq haveKind

/-- The bytes of a message are those of its records. -/
theorem writeSlots_eq {fields : List Field} {slots : List Slot}
    (fit : Fit fields slots) :
    writeSlots fields slots = (recordsOf fields slots).flatMap Record.write := by
  induction fit with
  | nil => rfl
  | cons fits rest inductionHypothesis =>
      rw [writeSlots, recordsOf, List.flatMap_append, inductionHypothesis, Slot.write_eq fits]

/-- The records of a field have the tags of the field. -/
theorem Slot.tag_mem {shape : Shape} {slot : Slot} {record : Record}
    (member : record ∈ slot.records shape) : record.tag ∈ shape.tags := by
  rw [records.eq_def] at member
  split at member
  · split at member
    · cases member
    · rw [List.mem_singleton.mp member]
      exact List.mem_singleton_self _
  · obtain ⟨value, _, rfl⟩ := List.mem_map.mp member
    exact List.mem_singleton_self _
  · obtain ⟨value, _, rfl⟩ := List.mem_map.mp member
    exact List.mem_singleton_self _
  · obtain ⟨variant, chosen, rfl⟩ := List.mem_map.mp member
    rw [Option.mem_toList] at chosen
    have sameTag := List.find?_some chosen
    exact List.mem_map.mpr ⟨variant, List.mem_of_find?_eq_some chosen, by simpa using sameTag⟩
  · obtain ⟨entry, _, rfl⟩ := List.mem_map.mp member
    exact List.mem_singleton_self _
  · cases member

end MeshAccess.Wire
