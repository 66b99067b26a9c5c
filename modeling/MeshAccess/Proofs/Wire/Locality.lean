import MeshAccess.Proofs.Wire.Grammar

/-! This file says that the readers of records look at nothing after the bytes that they take. -/

namespace MeshAccess.Wire

variable {Value Other : Type} {read : List UInt8 → Option (Value × List UInt8)}

/-- A reader takes a beginning of the bytes, and what comes after it makes no difference. -/
def IsLocal (read : List UInt8 → Option (Value × List UInt8)) : Prop :=
  ∀ bytes value tail, read bytes = some (value, tail) →
    ∃ taken, bytes = taken ++ tail ∧ ∀ after, read (taken ++ after) = some (value, after)

/-- A function skips a beginning of the bytes, and what comes after it makes no difference. -/
def SkipsLocally (skip : List UInt8 → Option (List UInt8)) : Prop :=
  ∀ bytes tail, skip bytes = some tail →
    ∃ taken, bytes = taken ++ tail ∧ ∀ after, skip (taken ++ after) = some after

namespace IsLocal

theorem fail : IsLocal fun _ => (none : Option (Value × List UInt8)) := nofun

theorem pure (value : Value) : IsLocal fun bytes => some (value, bytes) := by
  rintro bytes _ _ ⟨⟩
  exact ⟨[], rfl, fun _ => rfl⟩

/-- One reader goes on where another one stops. -/
theorem bind {next : Value → List UInt8 → Option (Other × List UInt8)} (isLocal : IsLocal read)
    (nextIsLocal : ∀ value, IsLocal (next value)) :
    IsLocal fun bytes => (read bytes).bind fun found => next found.1 found.2 := by
  intro bytes value tail both
  obtain ⟨⟨first, middle⟩, firstRead, secondRead⟩ := Option.bind_eq_some_iff.mp both
  obtain ⟨taken, rfl, firstAgain⟩ := isLocal bytes first middle firstRead
  obtain ⟨more, rfl, secondAgain⟩ := nextIsLocal first middle value tail secondRead
  refine ⟨taken ++ more, (List.append_assoc taken more tail).symm, fun after => ?_⟩
  dsimp only
  rw [List.append_assoc, firstAgain]
  exact secondAgain after

theorem map (isLocal : IsLocal read) (change : Value → Other) :
    IsLocal fun bytes => (read bytes).map fun found => (change found.1, found.2) := by
  have chained := isLocal.bind fun value => pure (change value)
  intro bytes value tail
  dsimp only
  simp only [Option.map_eq_bind]
  exact chained bytes value tail

theorem ite {condition : Prop} [Decidable condition]
    {other : List UInt8 → Option (Value × List UInt8)} (isLocal : IsLocal read)
    (otherIsLocal : IsLocal other) :
    IsLocal fun bytes => if condition then read bytes else other bytes := by
  by_cases holds : condition
  · simpa [holds] using isLocal
  · simpa [holds] using otherIsLocal

/-- The value that is read may be left out. -/
theorem skips (isLocal : IsLocal read) : SkipsLocally fun bytes => (read bytes).map Prod.snd := by
  intro bytes tail skipped
  obtain ⟨⟨value, rest⟩, found, rfl⟩ := Option.map_eq_some_iff.mp skipped
  obtain ⟨taken, same, again⟩ := isLocal bytes value rest found
  refine ⟨taken, same, fun after => ?_⟩
  dsimp only
  rw [again]
  rfl

end IsLocal

theorem SkipsLocally.reads {skip : List UInt8 → Option (List UInt8)} (skips : SkipsLocally skip)
    (value : Value) : IsLocal fun bytes => (skip bytes).map fun rest => (value, rest) := by
  intro bytes _ tail read
  obtain ⟨rest, skipped, same⟩ := Option.map_eq_some_iff.mp read
  cases same
  obtain ⟨taken, same, again⟩ := skips bytes tail skipped
  refine ⟨taken, same, fun after => ?_⟩
  dsimp only
  rw [again]
  rfl

theorem Varint.isLocal_read? : IsLocal Varint.read? := by
  intro bytes value tail read
  obtain ⟨taken, rfl, isForm⟩ := Varint.read?_eq_some_iff.mp read
  exact ⟨taken, rfl, fun after => Varint.read?_eq_some_iff.mpr ⟨taken, rfl, isForm⟩⟩

namespace Record

theorem isLocal_readKey? : IsLocal readKey? := by
  have split (number : Nat) : IsLocal fun tail =>
      (WireType.ofNat? (number % 8)).bind fun wireType =>
        if number ≤ maxKey && 1 ≤ number / 8 then some ((number / 8, wireType), tail)
        else none := by
    rcases WireType.ofNat? (number % 8) with _ | wireType
    · exact .fail
    · exact .ite (.pure (number / 8, wireType)) .fail
  exact Varint.isLocal_read?.bind split

theorem isLocal_takeBytes? (count : Nat) : IsLocal (takeBytes? count) := by
  intro bytes value tail read
  rw [takeBytes?, Option.ite_none_right_eq_some] at read
  obtain ⟨enough, same⟩ := read
  cases same
  refine ⟨bytes.take count, (List.take_append_drop count bytes).symm, fun after => ?_⟩
  have size : (bytes.take count).length = count := List.length_take_of_le enough
  have taken := takeBytes?_append (bytes.take count) after
  rwa [size] at taken

theorem isLocal_readDelimited? : IsLocal readDelimited? :=
  Varint.isLocal_read?.bind isLocal_takeBytes?

theorem isLocal_readPayload? (wireType : WireType) :
    IsLocal fun bytes => readPayload? bytes wireType := by
  cases wireType with
  | varint => exact Varint.isLocal_read?.map Payload.varint
  | fixed64 => exact (isLocal_takeBytes? 8).map Payload.fixed64
  | fixed32 => exact (isLocal_takeBytes? 4).map Payload.fixed32
  | delimited => exact isLocal_readDelimited?.map Payload.delimited
  | startGroup => exact .fail
  | endGroup => exact .fail

theorem isLocal_skipAfterKey? (limit innermost : Nat) (outer : List Nat) (key : Nat × WireType) :
    IsLocal (skipAfterKey? limit innermost outer key) := by
  unfold skipAfterKey?
  refine .ite (.ite (.pure outer) .fail) (.ite .fail (.ite (.pure _) ?_))
  exact (isLocal_readPayload? key.2).map fun _ => innermost :: outer

theorem isLocal_skipInGroups? (limit innermost : Nat) (outer : List Nat) :
    IsLocal (skipInGroups? limit innermost outer) := by
  rw [funext (skipInGroups?_eq limit innermost outer)]
  exact isLocal_readKey?.bind (isLocal_skipAfterKey? limit innermost outer)

theorem skipsLocally_skipGroups? (limit : Nat) (opened : List Nat) :
    SkipsLocally (skipGroups? limit opened) := by
  intro bytes tail skipped
  fun_induction skipGroups? limit opened bytes with
  | case1 bytes =>
      cases skipped
      refine ⟨[], rfl, fun after => ?_⟩
      rw [skipGroups?]
      rfl
  | case2 => cases skipped
  | case3 bytes innermost outer opened middle step inductionHypothesis =>
      obtain ⟨taken, rfl, again⟩ := isLocal_skipInGroups? limit innermost outer _ _ _ step
      obtain ⟨more, rfl, moreAgain⟩ := inductionHypothesis skipped
      refine ⟨taken ++ more, (List.append_assoc taken more tail).symm, fun after => ?_⟩
      rw [List.append_assoc, skipGroups?_cons, again]
      exact moreAgain after

theorem skipsLocally_skipPayload? (limit tag : Nat) (wireType : WireType) :
    SkipsLocally fun bytes => skipPayload? limit tag bytes wireType := by
  cases limit with
  | zero => exact fun bytes tail skipped => nomatch skipped
  | succ limit =>
      cases wireType with
      | startGroup => exact skipsLocally_skipGroups? (limit + 1) [tag]
      | varint => exact (isLocal_readPayload? .varint).skips
      | fixed64 => exact (isLocal_readPayload? .fixed64).skips
      | fixed32 => exact (isLocal_readPayload? .fixed32).skips
      | delimited => exact (isLocal_readPayload? .delimited).skips
      | endGroup => exact (isLocal_readPayload? .endGroup).skips

/-- What is done in a record once its key has been read. -/
def readAfterKey? (limit : Nat) (reading : Nat → Reading) (key : Nat × WireType)
    (tail : List UInt8) : Option (Option Record × List UInt8) :=
  match reading key.1 with
  | .asWritten => (readPayload? tail key.2).map fun found => (some ⟨key.1, found.1⟩, found.2)
  | .asDelimited =>
      (readDelimited? tail).map fun found => (some ⟨key.1, .delimited found.1⟩, found.2)
  | .skipped => (skipPayload? limit key.1 tail key.2).map fun rest => (none, rest)

theorem read?_eq (limit : Nat) (reading : Nat → Reading) (bytes : List UInt8) :
    read? limit reading bytes =
      (readKey? bytes).bind fun found => readAfterKey? limit reading found.1 found.2 := by
  rw [read?]
  rcases readKey? bytes with _ | ⟨⟨tag, wireType⟩, tail⟩
  · rfl
  · rfl

theorem isLocal_readAfterKey? (limit : Nat) (reading : Nat → Reading) (key : Nat × WireType) :
    IsLocal (readAfterKey? limit reading key) := by
  unfold readAfterKey?
  cases reading key.1 with
  | asWritten => exact (isLocal_readPayload? key.2).map fun payload => some (mk key.1 payload)
  | asDelimited => exact isLocal_readDelimited?.map fun bytes => some (mk key.1 (.delimited bytes))
  | skipped => exact (skipsLocally_skipPayload? limit key.1 key.2).reads none

/-- A record is read from its own bytes. -/
theorem isLocal_read? (limit : Nat) (reading : Nat → Reading) : IsLocal (read? limit reading) := by
  rw [funext (read?_eq limit reading)]
  exact isLocal_readKey?.bind (isLocal_readAfterKey? limit reading)

/-- A sequence of records is read before what comes after it. -/
theorem readAll?_append {limit : Nat} {reading : Nat → Reading} {bytes : List UInt8}
    {records : List Record} (read : readAll? limit reading bytes = some records)
    (rest : List UInt8) :
    readAll? limit reading (bytes ++ rest) =
      (readAll? limit reading rest).map fun others => records ++ others := by
  fun_induction readAll? limit reading bytes generalizing records with
  | case1 bytes isEmpty =>
      cases read
      rw [List.isEmpty_iff.mp isEmpty]
      exact (congrFun Option.map_id _).symm
  | case2 => cases read
  | case3 bytes notEmpty found tail first inductionHypothesis =>
      obtain ⟨others, readOthers, rfl⟩ := Option.map_eq_some_iff.mp read
      obtain ⟨taken, rfl, again⟩ := isLocal_read? limit reading bytes found tail first
      rw [List.append_assoc, readAll?_of_read? (again (tail ++ rest)),
        inductionHypothesis readOthers, Option.map_map]
      simp only [Function.comp_def, List.append_assoc]

end Record

end MeshAccess.Wire
