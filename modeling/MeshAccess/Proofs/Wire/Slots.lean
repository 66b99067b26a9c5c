import MeshAccess.Proofs.Wire.Readable

/-! This file says that the slots of a message can be read back from its records. -/

namespace MeshAccess.Wire

/-- What is inside a message is read back, if it takes at most the given levels of nesting. -/
structure Inner.Restores (inner : Inner) (depth : Nat) : Prop where
  message : ∀ {type value}, value.HasKind (.message type) → value.depth ≤ depth →
    IsAddressable (encode type value) →
      inner.message type type.absent (encode type value) = some value
  entry : ∀ {type entry}, entry.2.HasKind (.message type) →
    entryDepth entry.2 entry.2.depth ≤ depth → IsAddressable (entryBytes type entry) →
      inner.entry type (entryBytes type entry) = some entry

variable {inner : Inner} {depth : Nat}

theorem Kind.merge?_payload (restores : inner.Restores depth) {kind : Kind} {value : Value}
    (hasKind : value.HasKind kind) (shallow : value.depth ≤ depth)
    (isSized : (value.payload kind).IsSized) :
    kind.merge? inner.message none (value.payload kind) = some value := by
  cases kind with
  | scalar scalar => exact Scalar.read?_payload hasKind
  | message type =>
      cases hasKind with
      | message fit => exact restores.message (.message fit) shallow isSized

namespace Slot

theorem insertEntry_of_last {name : String} {value : Value} {entries : List (String × Value)}
    (below : ∀ entry ∈ entries, entry.1 < name) :
    insertEntry name value entries = entries ++ [(name, value)] := by
  induction entries with
  | nil => rfl
  | cons head rest inductionHypothesis =>
      obtain ⟨first, others⟩ := List.forall_mem_cons.mp below
      have notBelow : ¬ name < head.1 := fun above =>
        String.lt_irrefl _ (String.lt_trans first above)
      have different : name ≠ head.1 := fun equal => String.lt_irrefl _ (equal ▸ first)
      rw [insertEntry, if_neg notBelow, if_neg different, inductionHypothesis others]
      rfl

theorem foldlM_repeated (restores : inner.Restores depth) {tag : Nat} {kind : Kind}
    {values : List Value} (haveKind : ∀ value ∈ values, value.HasKind kind)
    (shallow : ∀ value ∈ values, value.depth ≤ depth)
    (areSized : ∀ value ∈ values, (value.payload kind).IsSized) (former : List Value) :
    (values.map fun value => (⟨tag, value.payload kind⟩ : Record)).foldlM
        (merge? inner (.repeated tag kind)) (.repeated former) =
      some (.repeated (former ++ values)) := by
  induction values generalizing former with
  | nil =>
      rw [List.append_nil]
      rfl
  | cons value rest inductionHypothesis =>
      obtain ⟨hasKind, othersKind⟩ := List.forall_mem_cons.mp haveKind
      obtain ⟨valueShallow, othersShallow⟩ := List.forall_mem_cons.mp shallow
      obtain ⟨isSized, othersSized⟩ := List.forall_mem_cons.mp areSized
      have merged : merge? inner (.repeated tag kind) (.repeated former)
          ⟨tag, value.payload kind⟩ = some (.repeated (former ++ [value])) := by
        rw [merge?, Kind.merge?_payload restores hasKind valueShallow isSized]
        rfl
      rw [List.map_cons, List.foldlM_cons, merged, List.append_cons former value rest]
      exact inductionHypothesis othersKind othersShallow othersSized _

/-- Entries in ascending order are put one after the other. -/
theorem foldlM_map (restores : inner.Restores depth) {tag : Nat} {type : MessageType}
    {entries : List (String × Value)}
    (haveKind : ∀ entry ∈ entries, entry.2.HasKind (.message type))
    (shallow : ∀ entry ∈ entries, entryDepth entry.2 entry.2.depth ≤ depth)
    (addressable : ∀ entry ∈ entries, IsAddressable (entryBytes type entry))
    (former : List (String × Value))
    (ascending : (former ++ entries).Pairwise fun first second => first.1 < second.1) :
    (entries.map fun entry => (⟨tag, .delimited (entryBytes type entry)⟩ : Record)).foldlM
        (merge? inner (.map tag type)) (.map former) = some (.map (former ++ entries)) := by
  induction entries generalizing former with
  | nil =>
      rw [List.append_nil]
      rfl
  | cons entry rest inductionHypothesis =>
      obtain ⟨hasKind, othersKind⟩ := List.forall_mem_cons.mp haveKind
      obtain ⟨entryShallow, othersShallow⟩ := List.forall_mem_cons.mp shallow
      obtain ⟨entryAddressable, othersAddressable⟩ := List.forall_mem_cons.mp addressable
      have below : ∀ other ∈ former, other.1 < entry.1 := fun other member =>
        (List.pairwise_append.mp ascending).2.2 other member entry List.mem_cons_self
      have merged : merge? inner (.map tag type) (.map former)
          ⟨tag, .delimited (entryBytes type entry)⟩ = some (.map (former ++ [entry])) := by
        rw [merge?]
        dsimp only
        rw [restores.entry hasKind entryShallow entryAddressable, Option.map_some]
        exact congrArg (fun entries => some (Slot.map entries)) (insertEntry_of_last below)
      rw [List.append_cons former entry rest] at ascending
      rw [List.map_cons, List.foldlM_cons, merged, List.append_cons former entry rest]
      exact inductionHypothesis othersKind othersShallow othersAddressable _ ascending

/-- The records of a field make its slot. -/
theorem foldlM_records (restores : inner.Restores depth) {shape : Shape} {slot : Slot}
    (fits : slot.Fits shape) (shallow : slot.depth ≤ depth)
    (areSized : ∀ record ∈ slot.records shape, record.payload.IsSized) :
    (slot.records shape).foldlM (merge? inner shape) (absent shape) = some slot := by
  cases fits with
  | @plain tag scalar value hasKind =>
      rw [records]
      split
      next isZero =>
        rw [(Value.isZero_iff hasKind).mp isZero]
        rfl
      next =>
        rw [List.foldlM_cons, absent, merge?, Scalar.read?_payload hasKind]
        rfl
  | missing => rfl
  | @optional tag kind value hasKind =>
      have isSized := areSized _ (List.mem_singleton_self _)
      have merged : merge? inner (.optional tag kind) (absent (.optional tag kind))
          ⟨tag, value.payload kind⟩ = some (.optional (some value)) := by
        rw [absent, merge?, Kind.merge?_payload restores hasKind shallow isSized]
        rfl
      rw [records, Option.toList_some, List.map_singleton, List.foldlM_cons, merged]
      rfl
  | @repeated tag kind values haveKind =>
      have sized : ∀ value ∈ values, (value.payload kind).IsSized := fun value member =>
        areSized _ (List.mem_map.mpr ⟨value, member, rfl⟩)
      exact foldlM_repeated restores haveKind (valuesDepth_le_iff.mp shallow) sized []
  | unchosen => rfl
  | @choice variants variant value chosen hasKind =>
      rw [records, chosen] at areSized
      have isSized := areSized _ (List.mem_singleton_self _)
      have merged : merge? inner (.choice variants) (absent (.choice variants))
          ⟨variant.tag, value.payload variant.kind⟩ =
            some (.choice (some (variant.tag, value))) := by
        rw [absent, merge?]
        dsimp only
        rw [chosen]
        dsimp only
        rw [chosen?, Kind.merge?_payload restores hasKind shallow isSized]
        rfl
      rw [records, chosen, Option.toList_some, List.map_singleton, List.foldlM_cons, merged]
      rfl
  | @map tag type entries ascending haveKind =>
      have addressable : ∀ entry ∈ entries, IsAddressable (entryBytes type entry) :=
        fun entry member => areSized _ (List.mem_map.mpr ⟨entry, member, rfl⟩)
      exact foldlM_map restores haveKind (entriesDepth_le_iff.mp shallow) addressable [] ascending

end Slot

section Fold

variable {fields : List Field} {field : Field} {records : List Record}

/-- The records of the first field are merged into its slot. -/
theorem foldlM_mergeRecord?_first (own : ∀ record ∈ records, record.tag ∈ field.shape.tags)
    (slot : Slot) (slots : List Slot) :
    records.foldlM (mergeRecord? inner (field :: fields)) (slot :: slots) =
      (records.foldlM (Slot.merge? inner field.shape) slot).map fun slot => slot :: slots := by
  induction records generalizing slot with
  | nil => rfl
  | cons record rest inductionHypothesis =>
      obtain ⟨tagged, others⟩ := List.forall_mem_cons.mp own
      rw [List.foldlM_cons, List.foldlM_cons, mergeRecord?,
        if_pos (List.contains_iff_mem.mpr tagged)]
      cases Slot.merge? inner field.shape slot record with
      | none => rfl
      | some merged => exact inductionHypothesis others merged

/-- The records of other fields leave the first slot as it is. -/
theorem foldlM_mergeRecord?_later (own : ∀ record ∈ records, record.tag ∉ field.shape.tags)
    (slot : Slot) (slots : List Slot) :
    records.foldlM (mergeRecord? inner (field :: fields)) (slot :: slots) =
      (records.foldlM (mergeRecord? inner fields) slots).map fun slots => slot :: slots := by
  induction records generalizing slots with
  | nil => rfl
  | cons record rest inductionHypothesis =>
      obtain ⟨foreign, others⟩ := List.forall_mem_cons.mp own
      have notHere : ¬ field.shape.tags.contains record.tag = true := by
        rwa [List.contains_iff_mem]
      rw [List.foldlM_cons, List.foldlM_cons, mergeRecord?, if_neg notHere]
      cases mergeRecord? inner fields slots record with
      | none => rfl
      | some merged => exact inductionHypothesis others merged

/-- The records of a message make its slots. -/
theorem foldlM_recordsOf (restores : inner.Restores depth) {slots : List Slot}
    (fit : Fit fields slots)
    (distinct : (fields.flatMap fun field => field.shape.tags).Nodup)
    (shallow : ∀ slot ∈ slots, slot.depth ≤ depth)
    (areSized : ∀ record ∈ recordsOf fields slots, record.payload.IsSized) :
    (recordsOf fields slots).foldlM (mergeRecord? inner fields)
      (fields.map fun field => .absent field.shape) = some slots := by
  induction fit with
  | nil => rfl
  | @cons field slot fields slots fits rest inductionHypothesis =>
      obtain ⟨_, others, apart⟩ := List.nodup_append.mp distinct
      obtain ⟨slotShallow, othersShallow⟩ := List.forall_mem_cons.mp shallow
      obtain ⟨slotSized, othersSized⟩ := List.forall_mem_append.mp areSized
      -- No record of the later fields goes into the first slot.
      have elsewhere : ∀ record ∈ recordsOf fields slots, record.tag ∉ field.shape.tags := by
        intro record member here
        obtain ⟨other, among, otherSlot, _, own⟩ := mem_recordsOf rest member
        exact apart _ here _ (List.mem_flatMap.mpr ⟨other, among, Slot.tag_mem own⟩) rfl
      rw [recordsOf, List.map_cons, List.foldlM_append,
        foldlM_mergeRecord?_first fun _ member => Slot.tag_mem member,
        Slot.foldlM_records restores fits slotShallow slotSized]
      change List.foldlM _ (slot :: _) _ = _
      rw [foldlM_mergeRecord?_later elsewhere,
        inductionHypothesis others othersShallow othersSized]
      rfl

end Fold

end MeshAccess.Wire
