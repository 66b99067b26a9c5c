import MeshAccess.Proofs.Wire.Merged

/-! This file says which messages the reader makes. -/

namespace MeshAccess.Wire

/-- What each record preserves holds at the end, and the bytes add up. -/
theorem foldlM_preserves {State : Type} {merge : State → Record → Option State}
    {holds : State → Prop} {size : State → Nat} {records : List Record}
    (preserves : ∀ record ∈ records, ∀ before after, holds before →
      merge before record = some after →
        holds after ∧ size after ≤ size before + 2 * record.write.length)
    {first last : State} (initially : holds first) (run : records.foldlM merge first = some last) :
    holds last ∧ size last ≤ size first + 2 * (records.flatMap Record.write).length := by
  induction records generalizing first with
  | nil =>
      cases run
      exact ⟨initially, Nat.le_add_right _ _⟩
  | cons record rest inductionHypothesis =>
      obtain ⟨here, others⟩ := List.forall_mem_cons.mp preserves
      rw [List.foldlM_cons] at run
      obtain ⟨next, merged, remaining⟩ := Option.bind_eq_some_iff.mp run
      obtain ⟨nextHolds, nextBound⟩ := here first next initially merged
      obtain ⟨lastHolds, lastBound⟩ := inductionHypothesis others nextHolds remaining
      refine ⟨lastHolds, ?_⟩
      rw [List.flatMap_cons, List.length_append]
      omega

variable {inner : Inner} {depth limit : Nat} {type : MessageType}

section Messages

variable {fields : List Field}

/-- The slots belong to the fields and take at most the given levels of nesting. -/
def Conform (depth : Nat) : List Field → List Slot → Prop :=
  List.Forall₂ fun field slot => slot.Conforms field.shape depth

theorem conform_iff {slots : List Slot} :
    Conform depth fields slots ↔ Fit fields slots ∧ ∀ slot ∈ slots, slot.depth ≤ depth := by
  constructor
  · intro conform
    induction conform with
    | nil => exact ⟨.nil, nofun⟩
    | cons conforms rest inductionHypothesis =>
        obtain ⟨fit, shallow⟩ := inductionHypothesis
        exact ⟨.cons conforms.fits fit, List.forall_mem_cons.mpr ⟨conforms.shallow, shallow⟩⟩
  · rintro ⟨fit, shallow⟩
    induction fit with
    | nil => exact .nil
    | cons fits rest inductionHypothesis =>
        obtain ⟨here, others⟩ := List.forall_mem_cons.mp shallow
        exact .cons ⟨fits, here⟩ (inductionHypothesis others)

/-- A message is one level deeper than its slots. -/
theorem conforms_message_iff {slots : List Slot} :
    (Value.message slots).Conforms (.message type) (depth + 1) ↔
      Conform depth type.fields slots := by
  rw [conform_iff]
  constructor
  · rintro ⟨hasKind, shallow⟩
    rw [Value.depth, Nat.add_le_add_iff_right, slotsDepth_le_iff] at shallow
    cases hasKind with
    | message fit => exact ⟨fit, shallow⟩
  · rintro ⟨fit, shallow⟩
    refine ⟨.message fit, ?_⟩
    rw [Value.depth, Nat.add_le_add_iff_right, slotsDepth_le_iff]
    exact shallow

theorem conform_of_mergeRecord? (innerConforms : inner.Conforms depth) {record : Record}
    (isSized : record.payload.IsSized) {before after : List Slot}
    (conform : Conform depth fields before)
    (merged : mergeRecord? inner fields before record = some after) :
    Conform depth fields after ∧
      (writeSlots fields after).length ≤
        (writeSlots fields before).length + 2 * record.write.length := by
  induction conform generalizing after with
  | nil => cases merged
  | @cons field slot fields slots conforms rest inductionHypothesis =>
      rw [mergeRecord?] at merged
      split at merged
      next own =>
        obtain ⟨result, here, rfl⟩ := Option.map_eq_some_iff.mp merged
        have tagged := List.contains_iff_mem.mp own
        have isMerged := Slot.isMerged_of_merge? innerConforms conforms tagged isSized here
        have bound := isMerged.notLonger
        refine ⟨.cons isMerged.conforms rest, ?_⟩
        rw [writeSlots, writeSlots, List.length_append, List.length_append]
        omega
      next =>
        obtain ⟨results, there, rfl⟩ := Option.map_eq_some_iff.mp merged
        obtain ⟨conform, bound⟩ := inductionHypothesis there
        refine ⟨.cons conforms conform, ?_⟩
        rw [writeSlots, writeSlots, List.length_append, List.length_append]
        omega

theorem isMerged_of_mergeRecords? (innerConforms : inner.Conforms depth) {former value : Value}
    {bytes : List UInt8} (conforms : former.Conforms (.message type) (depth + 1))
    (merged : mergeRecords? limit inner type former bytes = some value) :
    value.IsMerged type (depth + 1) former bytes := by
  cases former with
  | message slots =>
      obtain ⟨records, read, run⟩ := Option.bind_eq_some_iff.mp merged
      obtain ⟨results, folded, same⟩ := Option.bind_eq_some_iff.mp run
      cases same
      obtain ⟨areKnown, notLonger⟩ := Record.isKnown_of_readAll? read
      obtain ⟨conform, bound⟩ := foldlM_preserves
        (fun record member _ _ conform here =>
          conform_of_mergeRecord? innerConforms (areKnown record member).isSized conform here)
        (conforms_message_iff.mp conforms) folded
      refine ⟨conforms_message_iff.mpr conform, ?_⟩
      rw [encode, encode]
      omega
  | _ => cases merged

end Messages

section Entries

theorem entryBytes_length (entry : String × Value) :
    (entryBytes type entry).length = ((nameRecords entry.1).flatMap Record.write).length +
      ((valueRecords type entry.2).flatMap Record.write).length := by
  rw [entryBytes, entryRecords, List.flatMap_append, List.length_append]

theorem length_nameRecords_le (name : String) :
    ((nameRecords name).flatMap Record.write).length ≤
      (Kind.scalar .text).recordSize 1 (.text name) := by
  rw [nameRecords]
  split
  · exact Nat.zero_le _
  · rw [List.flatMap_singleton]
    exact Nat.le_refl _

theorem length_valueRecords {value : Value} (hasKind : value.HasKind (.message type)) :
    ((valueRecords type value).flatMap Record.write).length =
      if value.isAbsent then 0 else (Kind.message type).recordSize 2 value := by
  rw [valueRecords]
  split
  · rfl
  · rw [List.flatMap_singleton, Value.write_record hasKind]
    rfl

theorem recordSize_le_of_merge? (innerConforms : inner.Conforms depth) {record : Record}
    {former value : Value} (hasKind : former.HasKind (.message type))
    (shallow : entryDepth former former.depth ≤ depth + 1) (isSized : record.payload.IsSized)
    (second : record.tag = 2)
    (merged : (Kind.message type).merge? inner.message (some former) record.payload = some value) :
    value.Conforms (.message type) depth ∧ (Kind.message type).recordSize 2 value ≤
      ((valueRecords type former).flatMap Record.write).length + 2 * record.write.length := by
  rw [length_valueRecords hasKind]
  split
  next absent =>
    rw [(Value.isAbsent_iff hasKind).mp absent] at merged
    have fresh : (Kind.message type).merge? inner.message none record.payload = some value := merged
    have isMerged := Kind.isMerged_of_merge?_none innerConforms isSized fresh
    have bound := isMerged.recordSize_le
    rw [second] at bound
    exact ⟨isMerged.conforms, bound⟩
  next written =>
    rw [entryDepth, if_neg written, Nat.add_le_add_iff_right] at shallow
    have isMerged := Kind.isMerged_of_merge?_some innerConforms ⟨hasKind, shallow⟩ isSized merged
    have bound := isMerged.recordSize_le
    rw [second] at bound
    exact ⟨isMerged.conforms, bound⟩

/-- A name or a value is put into an entry. -/
theorem mergePair?_preserves (innerConforms : inner.Conforms depth) {record : Record}
    (isKnown : record.IsKnown pairReading) {before after : String × Value}
    (hasKind : before.2.HasKind (.message type))
    (shallow : entryDepth before.2 before.2.depth ≤ depth + 1)
    (merged : mergePair? inner.message type before record = some after) :
    (after.2.HasKind (.message type) ∧ entryDepth after.2 after.2.depth ≤ depth + 1) ∧
      (entryBytes type after).length ≤
        (entryBytes type before).length + 2 * record.write.length := by
  rw [entryBytes_length, entryBytes_length]
  rw [mergePair?] at merged
  split at merged
  next first =>
    split at merged
    next name read =>
      cases merged
      have isMerged : (Kind.scalar .text).IsMerged depth none record.payload (.text name) :=
        Kind.isMerged_of_merge?_none innerConforms isKnown.isSized read
      have bound := isMerged.recordSize_le
      have nameBound := length_nameRecords_le name
      rw [first, Option.elim_none] at bound
      refine ⟨⟨hasKind, shallow⟩, ?_⟩
      dsimp only
      omega
    · cases merged
  next notFirst =>
    obtain ⟨value, read, rfl⟩ := Option.map_eq_some_iff.mp merged
    have second : record.tag = 2 := by
      have expected := isKnown.expected
      rw [pairReading] at expected
      grind
    obtain ⟨⟨valueKind, valueShallow⟩, bound⟩ :=
      recordSize_le_of_merge? innerConforms hasKind shallow isKnown.isSized second read
    refine ⟨⟨valueKind, ?_⟩, ?_⟩
    · rw [entryDepth]
      dsimp only
      split <;> omega
    · rw [length_valueRecords valueKind]
      dsimp only
      split <;> omega

/-- The entry of a map conforms if the message in it does. -/
theorem isEntry_of_readPair? (innerConforms : inner.Conforms depth) {entry : String × Value}
    {bytes : List UInt8} (read : readPair? limit inner.message type bytes = some entry) :
    IsEntry type (depth + 1) bytes entry := by
  obtain ⟨records, readAll, run⟩ := Option.bind_eq_some_iff.mp read
  obtain ⟨areKnown, notLonger⟩ := Record.isKnown_of_readAll? readAll
  have flat : entryDepth type.absent type.absent.depth ≤ depth + 1 := by
    rw [entryDepth, if_pos type.isAbsent_absent]
    exact Nat.le_add_left 1 depth
  have empty : (entryBytes type ("", type.absent)).length = 0 := by
    rw [entryBytes_length, length_valueRecords type.hasKind_absent,
      if_pos type.isAbsent_absent]
    rfl
  obtain ⟨⟨hasKind, shallow⟩, bound⟩ := foldlM_preserves
    (fun record member _ _ holds here =>
      mergePair?_preserves innerConforms (areKnown record member) holds.1 holds.2 here)
    ⟨type.hasKind_absent, flat⟩ run
  exact ⟨hasKind, shallow, by omega⟩

end Entries

/-- What is inside a message with the given levels left inside it. -/
def Inner.within : Nat → Inner
  | 0 => .none
  | limit + 1 => ⟨merge? limit, pair? limit⟩

theorem merge?_eq (limit : Nat) : merge? limit = mergeRecords? limit (.within limit) := by
  cases limit <;> rw [merge?] <;> rfl

theorem pair?_eq (limit : Nat) : pair? limit = readPair? limit (Inner.within limit).message := by
  cases limit <;> rw [pair?] <;> rfl

/-- Messages conform on every level. -/
theorem Inner.conforms_within (limit : Nat) : (within limit).Conforms limit := by
  induction limit with
  | zero => exact ⟨nofun, nofun⟩
  | succ limit inductionHypothesis =>
      refine ⟨fun {type _ _ _} hasKind shallow made => ?_, fun made => ?_⟩
      · rw [within, merge?_eq] at made
        refine isMerged_of_mergeRecords? inductionHypothesis ⟨hasKind, ?_⟩ made
        rcases shallow with absent | shallow
        -- The message without any field takes one level, and there is one.
        · rw [(Value.isAbsent_iff hasKind).mp absent, type.depth_absent]
          exact Nat.le_add_left 1 limit
        · exact shallow
      · rw [within, pair?_eq] at made
        exact isEntry_of_readPair? inductionHypothesis made

/-- A decoded message conforms to its type, and it is written with at most twice the bytes. -/
theorem isMerged_of_decode? {bytes : List UInt8} {value : Value}
    (decoded : decode? type bytes = some value) :
    value.IsMerged type (nestingLimit + 1) type.absent bytes := by
  rw [decode?, merge?_eq] at decoded
  have flat : type.absent.depth ≤ nestingLimit + 1 := by
    rw [type.depth_absent]
    exact Nat.le_add_left 1 nestingLimit
  exact isMerged_of_mergeRecords? (Inner.conforms_within nestingLimit) ⟨type.hasKind_absent, flat⟩
    decoded

end MeshAccess.Wire
