import MeshAccess.NameMap
import MeshAccess.Proofs.Wire.Scalar

/-! This file says what a record makes of the slot of its field, given what is inside it. -/

namespace MeshAccess.Wire

theorem Value.write_message {type : MessageType} {value : Value}
    (hasKind : value.HasKind (.message type)) :
    value.write (.message type) = delimit (encode type value) := by
  cases hasKind
  rfl

theorem Slot.write_absent (shape : Shape) : (absent shape).write shape = [] := by
  cases shape with
  | plain tag scalar => cases scalar <;> rfl
  | _ => rfl

theorem MessageType.encode_absent (type : MessageType) : encode type type.absent = [] := by
  rw [absent, encode, absentSlots]
  induction type.fields with
  | nil => rfl
  | cons field rest inductionHypothesis =>
      rw [List.map_cons, writeSlots, Slot.write_absent, inductionHypothesis]
      rfl

/-- A message that is made of a former one and a byte sequence. -/
structure Value.IsMerged (type : MessageType) (depth : Nat) (value former : Value)
    (bytes : List UInt8) : Prop where
  conforms : value.Conforms (.message type) depth
  notLonger : (encode type value).length ≤ (encode type former).length + 2 * bytes.length

/-- An entry of a map that is made of a byte sequence. -/
structure IsEntry (type : MessageType) (depth : Nat) (bytes : List UInt8)
    (entry : String × Value) : Prop where
  hasKind : entry.2.HasKind (.message type)
  shallow : entryDepth entry.2 entry.2.depth ≤ depth
  notLonger : (entryBytes type entry).length ≤ 2 * bytes.length

/-- What is made inside a message conforms to its type. The former message may also be the one
without any field when no level is left for it. -/
structure Inner.Conforms (inner : Inner) (depth : Nat) : Prop where
  message : ∀ {type former bytes value}, former.HasKind (.message type) →
    former.isAbsent ∨ former.depth ≤ depth → inner.message type former bytes = some value →
      value.IsMerged type depth former bytes
  entry : ∀ {type bytes entry}, inner.entry type bytes = some entry → IsEntry type depth bytes entry

variable {inner : Inner} {depth : Nat}

namespace Kind

variable {kind : Kind} {former : Option Value} {payload : Payload} {value : Value}

/-- A value that is made of a former one and a payload. -/
structure IsMerged (kind : Kind) (depth : Nat) (former : Option Value) (payload : Payload)
    (value : Value) : Prop where
  conforms : value.Conforms kind depth
  wireType : payload.wireType = kind.wireType
  notLonger : (value.write kind).length ≤
    (former.elim 0 fun value => (value.write kind).length) + 2 * payload.write.length

theorem isMerged_of_merge? (innerConforms : inner.Conforms depth)
    (conform : ∀ value ∈ former, value.Conforms kind depth) (isSized : payload.IsSized)
    (merged : kind.merge? inner.message former payload = some value) :
    kind.IsMerged depth former payload value := by
  cases kind with
  | scalar scalar =>
      obtain ⟨hasKind, wireType, notLonger⟩ := Scalar.isFound_of_read? isSized merged
      have shallow : value.depth ≤ depth := Value.depth_of_hasScalar hasKind ▸ Nat.zero_le depth
      exact ⟨⟨hasKind, shallow⟩, wireType, Nat.le_trans notLonger (Nat.le_add_left _ _)⟩
  | message type =>
      cases payload with
      | varint | fixed64 | fixed32 => cases merged
      | delimited bytes =>
          cases former with
          | none =>
              obtain ⟨conforms, notLonger⟩ :=
                innerConforms.message type.hasKind_absent (.inl type.isAbsent_absent) merged
              rw [type.encode_absent, List.length_nil, Nat.zero_add] at notLonger
              refine ⟨conforms, rfl, ?_⟩
              rw [Value.write_message conforms.hasKind, Option.elim_none, Nat.zero_add]
              exact length_delimit_le_double notLonger
          | some former =>
              obtain ⟨hasKind, shallow⟩ := conform former rfl
              obtain ⟨conforms, notLonger⟩ := innerConforms.message hasKind (.inr shallow) merged
              refine ⟨conforms, rfl, ?_⟩
              rw [Value.write_message conforms.hasKind, Option.elim_some,
                Value.write_message hasKind]
              exact length_delimit_le_add notLonger

theorem isMerged_of_merge?_none (innerConforms : inner.Conforms depth) (isSized : payload.IsSized)
    (merged : kind.merge? inner.message none payload = some value) :
    kind.IsMerged depth none payload value :=
  isMerged_of_merge? innerConforms nofun isSized merged

theorem isMerged_of_merge?_some (innerConforms : inner.Conforms depth) {former : Value}
    (conforms : former.Conforms kind depth) (isSized : payload.IsSized)
    (merged : kind.merge? inner.message (some former) payload = some value) :
    kind.IsMerged depth (some former) payload value := by
  refine isMerged_of_merge? innerConforms ?_ isSized merged
  rintro _ ⟨⟩
  exact conforms

/-- The bytes of a value with the key in front. -/
def recordSize (tag : Nat) (kind : Kind) (value : Value) : Nat :=
  (writeKey tag kind.wireType ++ value.write kind).length

theorem IsMerged.recordSize_le {record : Record}
    (isMerged : kind.IsMerged depth former record.payload value) :
    recordSize record.tag kind value ≤
      (former.elim 0 (recordSize record.tag kind)) + 2 * record.write.length := by
  have notLonger := isMerged.notLonger
  rw [recordSize, Record.length_write, isMerged.wireType, List.length_append]
  cases former with
  | none =>
      rw [Option.elim_none] at notLonger ⊢
      omega
  | some former =>
      rw [Option.elim_some] at notLonger ⊢
      rw [recordSize, List.length_append]
      omega

end Kind

theorem Slot.insertEntry_eq (name : String) (value : Value) (entries : List (String × Value)) :
    insertEntry name value entries = NameMap.insertSorted name value entries := by
  induction entries with
  | nil => rfl
  | cons head rest inductionHypothesis =>
      rw [insertEntry, NameMap.insertSorted, inductionHypothesis]

theorem length_writeEntries_insert (tag : Nat) {type : MessageType} (name : String) {value : Value}
    {entries : List (String × Value)} (hasKind : value.HasKind (.message type))
    (haveKind : ∀ entry ∈ entries, entry.2.HasKind (.message type)) :
    (writeEntries tag type (Slot.insertEntry name value entries)).length ≤
      (writeEntries tag type entries).length +
        (Record.write ⟨tag, .delimited (entryBytes type (name, value))⟩).length := by
  have own (rest : List (String × Value)) :=
    @writeEntries_cons tag type (name, value) hasKind rest
  induction entries with
  | nil =>
      rw [Slot.insertEntry, own, List.length_append, writeEntries]
      omega
  | cons head rest inductionHypothesis =>
      obtain ⟨headKind, others⟩ := List.forall_mem_cons.mp haveKind
      have bound := inductionHypothesis others
      rw [Slot.insertEntry, writeEntries_cons headKind, List.length_append]
      split
      · rw [own, writeEntries_cons headKind, List.length_append, List.length_append]
        omega
      split
      · rw [own, List.length_append]
        omega
      · rw [writeEntries_cons headKind, List.length_append]
        omega

theorem length_writeValues_append (tag : Nat) (kind : Kind) (values : List Value) (value : Value) :
    (writeValues tag kind (values ++ [value])).length =
      (writeValues tag kind values).length + kind.recordSize tag value := by
  induction values with
  | nil => simp [writeValues, Kind.recordSize]
  | cons head rest inductionHypothesis =>
      simp only [List.cons_append, writeValues, List.length_append, inductionHypothesis]
      omega

namespace Slot

variable {shape : Shape} {slot result : Slot} {record : Record}

/-- A slot that is made of a former one and a record. -/
structure IsMerged (shape : Shape) (depth : Nat) (slot : Slot) (record : Record) (result : Slot) :
    Prop where
  conforms : result.Conforms shape depth
  notLonger : (result.write shape).length ≤ (slot.write shape).length + 2 * record.write.length

theorem length_write_choice {variants : List Variant} {variant : Variant} {tag : Nat}
    (found : variants.find? (fun variant => variant.tag = tag) = some variant) (value : Value) :
    (write (.choice variants) (.choice (some (tag, value)))).length =
      variant.kind.recordSize tag value := by
  rw [write, found]
  rfl

/-- A choice is made of the former one if that has the same variant. -/
theorem isMerged_choice {variants : List Variant} {variant : Variant} {former : Option Value}
    {value : Value}
    (found : variants.find? (fun variant => variant.tag = record.tag) = some variant)
    (isMerged : variant.kind.IsMerged depth former record.payload value)
    (notLonger : former.elim 0 (variant.kind.recordSize record.tag) ≤
      (slot.write (.choice variants)).length) :
    IsMerged (.choice variants) depth slot record (.choice (some (record.tag, value))) := by
  have sameTag : variant.tag = record.tag := by simpa using List.find?_some found
  have bound := isMerged.recordSize_le
  refine ⟨⟨?_, isMerged.conforms.shallow⟩, ?_⟩
  · rw [← sameTag] at found ⊢
    exact .choice found isMerged.conforms.hasKind
  · rw [length_write_choice found]
    omega

theorem mem_insertEntry {name : String} {value : Value} {entry : String × Value}
    {entries : List (String × Value)} (member : entry ∈ insertEntry name value entries) :
    entry = (name, value) ∨ entry ∈ entries :=
  NameMap.mem_insertSorted (insertEntry_eq name value entries ▸ member)

theorem isMerged_map {type : MessageType} {name : String} {value : Value} {bytes : List UInt8}
    {entries : List (String × Value)} (isDelimited : record.payload = .delimited bytes)
    (isEntry : IsEntry type depth bytes (name, value))
    (ascending : entries.Pairwise fun first second => first.1 < second.1)
    (haveKind : ∀ entry ∈ entries, entry.2.HasKind (.message type))
    (shallow : entriesDepth entries ≤ depth) :
    IsMerged (.map record.tag type) depth (.map entries) record
      (.map (insertEntry name value entries)) := by
  obtain ⟨hasKind, entryShallow, notLonger⟩ := isEntry
  refine ⟨⟨.map ?_ ?_, entriesDepth_le_iff.mpr ?_⟩, ?_⟩
  · rw [insertEntry_eq]
    exact NameMap.pairwise_insertSorted name value ascending
  · intro entry member
    rcases mem_insertEntry member with rfl | member
    · exact hasKind
    · exact haveKind entry member
  · intro entry member
    rcases mem_insertEntry member with rfl | member
    · exact entryShallow
    · exact entriesDepth_le_iff.mp shallow entry member
  · have inserted := length_writeEntries_insert record.tag name hasKind haveKind
    have content := length_delimit_le_double notLonger
    rw [Record.length_write] at inserted ⊢
    rw [isDelimited]
    rw [Payload.write] at inserted ⊢
    dsimp only [Payload.wireType] at inserted ⊢
    rw [write, write]
    omega

/-- A record of a field keeps the slot in its field. -/
theorem isMerged_of_merge? (innerConforms : inner.Conforms depth)
    (conforms : slot.Conforms shape depth) (tagged : record.tag ∈ shape.tags)
    (isSized : record.payload.IsSized) (merged : slot.merge? inner shape record = some result) :
    IsMerged shape depth slot record result := by
  obtain ⟨fits, shallow⟩ := conforms
  cases fits with
  | @plain tag scalar former hasKind =>
      obtain ⟨value, read, rfl⟩ := Option.map_eq_some_iff.mp merged
      have isMerged : (Kind.scalar scalar).IsMerged depth none record.payload value :=
        Kind.isMerged_of_merge?_none innerConforms isSized read
      have bound := isMerged.recordSize_le
      cases List.mem_singleton.mp tagged
      refine ⟨⟨.plain isMerged.conforms.hasKind, isMerged.conforms.shallow⟩, ?_⟩
      rw [Option.elim_none, Kind.recordSize] at bound
      rw [write]
      split
      · exact Nat.zero_le _
      · exact Nat.le_trans bound (by omega)
  | @missing tag kind =>
      obtain ⟨value, read, rfl⟩ := Option.map_eq_some_iff.mp merged
      have isMerged := Kind.isMerged_of_merge?_none innerConforms isSized read
      cases List.mem_singleton.mp tagged
      exact ⟨⟨.optional isMerged.conforms.hasKind, isMerged.conforms.shallow⟩,
        isMerged.recordSize_le⟩
  | @optional tag kind former hasKind =>
      obtain ⟨value, read, rfl⟩ := Option.map_eq_some_iff.mp merged
      have isMerged := Kind.isMerged_of_merge?_some innerConforms ⟨hasKind, shallow⟩ isSized read
      cases List.mem_singleton.mp tagged
      exact ⟨⟨.optional isMerged.conforms.hasKind, isMerged.conforms.shallow⟩,
        isMerged.recordSize_le⟩
  | @repeated tag kind values haveKind =>
      obtain ⟨value, read, rfl⟩ := Option.map_eq_some_iff.mp merged
      have isMerged := Kind.isMerged_of_merge?_none innerConforms isSized read
      have bound := isMerged.recordSize_le
      cases List.mem_singleton.mp tagged
      obtain ⟨valueKind, valueShallow⟩ := isMerged.conforms
      refine ⟨⟨.repeated ?_, valuesDepth_le_iff.mpr ?_⟩, ?_⟩
      · exact List.forall_mem_append.mpr ⟨haveKind, List.forall_mem_singleton.mpr valueKind⟩
      · exact List.forall_mem_append.mpr
          ⟨valuesDepth_le_iff.mp shallow, List.forall_mem_singleton.mpr valueShallow⟩
      · rw [Option.elim_none] at bound
        rw [write, write, length_writeValues_append]
        omega
  | unchosen variants =>
      rw [merge?] at merged
      split at merged
      next variant found =>
        obtain ⟨value, read, rfl⟩ := Option.map_eq_some_iff.mp merged
        exact isMerged_choice found (Kind.isMerged_of_merge?_none innerConforms isSized read)
          (Nat.zero_le _)
      · cases merged
  | @choice variants current former chosen hasKind =>
      rw [merge?] at merged
      split at merged
      next variant found =>
        obtain ⟨value, read, rfl⟩ := Option.map_eq_some_iff.mp merged
        rw [chosen?] at read
        split at read
        next sameTag =>
          rw [sameTag] at chosen
          cases found.symm.trans chosen
          refine isMerged_choice found
            (Kind.isMerged_of_merge?_some innerConforms ⟨hasKind, shallow⟩ isSized read) ?_
          rw [sameTag, length_write_choice found]
          exact Nat.le_refl _
        next =>
          exact isMerged_choice found (Kind.isMerged_of_merge?_none innerConforms isSized read)
            (Nat.zero_le _)
      · cases merged
  | @map tag type entries ascending haveKind =>
      rw [merge?] at merged
      split at merged
      next bytes isDelimited =>
        obtain ⟨⟨name, value⟩, read, rfl⟩ := Option.map_eq_some_iff.mp merged
        cases List.mem_singleton.mp tagged
        exact isMerged_map isDelimited (innerConforms.entry read) ascending haveKind shallow
      · cases merged

end Slot

end MeshAccess.Wire
