import MeshAccess.Proofs.Wire.Decoded
import MeshAccess.Proofs.Wire.Locality

/-! This file says that a record of an unknown tag changes nothing about a message. -/

namespace MeshAccess.Wire

/-- A message of a type, or an entry of a map with values of a type. -/
inductive Container where
  | message (type : MessageType)
  | entry (type : MessageType)
  deriving DecidableEq, Repr

namespace Container

/-- How the tags in a container are read. -/
def reading : Container → Nat → Record.Reading
  | .message type => fieldReading type.fields
  | .entry _ => pairReading

/-- The tags that a container declares. -/
def tags : Container → List Nat
  | .message type => type.fields.flatMap fun field => field.shape.tags
  | .entry _ => [1, 2]

def ofKind? : Kind → Option Container
  | .scalar _ => none
  | .message type => some (.message type)

def ofShape? (tag : Nat) : Shape → Option Container
  | .plain _ _ => none
  | .optional _ kind => ofKind? kind
  | .repeated _ kind => ofKind? kind
  | .choice variants =>
      (variants.find? fun variant => variant.tag = tag).bind fun variant => ofKind? variant.kind
  | .map _ type => some (.entry type)

/-- The container inside the records of a tag. -/
def inside? : Container → Nat → Option Container
  | .message type, tag =>
      (type.fields.find? fun field => field.shape.tags.contains tag).bind fun field =>
        ofShape? tag field.shape
  | .entry type, tag => if tag = 2 then some (.message type) else none

/-- What the records of a container are merged into. -/
abbrev State : Container → Type
  | .message _ => List Slot
  | .entry _ => String × Value

/-- This function merges a record into a container with the given levels left inside it. -/
def step? (limit : Nat) : (container : Container) → container.State → Record →
    Option container.State
  | .message type => mergeRecord? (.within limit) type.fields
  | .entry type => mergePair? (Inner.within limit).message type

/-- This function merges the records of a byte sequence one after the other. -/
def absorb? (limit : Nat) (container : Container) (state : container.State)
    (bytes : List UInt8) : Option container.State := do
  let records ← Record.readAll? limit container.reading bytes
  records.foldlM (container.step? limit) state

variable {limit tag : Nat} {container inner : Container} {bytes old new tail : List UInt8}

theorem reading_of_undeclared (undeclared : tag ∉ container.tags) :
    container.reading tag = .skipped := by
  cases container with
  | message type =>
      have none : (type.fields.find? fun field => field.shape.tags.contains tag) = none := by
        rw [List.find?_eq_none]
        intro field member among
        exact undeclared (List.mem_flatMap.mpr ⟨field, member, List.contains_iff_mem.mp among⟩)
      rw [reading, fieldReading, none]
  | entry type =>
      have neither : tag ≠ 1 ∧ tag ≠ 2 := by simpa [tags] using undeclared
      simp [reading, pairReading, neither]

/-- A tag with a container inside is known. -/
theorem reading_of_inside? (contains : container.inside? tag = some inner) :
    container.reading tag ≠ .skipped := by
  cases container with
  | message type =>
      obtain ⟨field, found, -⟩ := Option.bind_eq_some_iff.mp contains
      rw [reading, fieldReading, found]
      dsimp only
      split <;> simp
  | entry type =>
      rw [inside?, Option.ite_none_right_eq_some] at contains
      simp [reading, pairReading, contains.1]

/-- Records are merged before those that come after them. -/
theorem absorb?_append {before : List UInt8} {records : List Record}
    (read : Record.readAll? limit container.reading before = some records)
    (state : container.State) (after : List UInt8) :
    container.absorb? limit state (before ++ after) =
      (records.foldlM (container.step? limit) state).bind fun next =>
        container.absorb? limit next after := by
  simp only [absorb?, Record.readAll?_append read, Option.bind_eq_bind]
  cases Record.readAll? limit container.reading after with
  | none => simp
  | some others => exact List.foldlM_append

/-- The first record of a byte sequence is merged before the others. -/
theorem absorb?_of_read? {found : Option Record}
    (read : Record.read? limit container.reading bytes = some (found, tail))
    (state : container.State) :
    container.absorb? limit state bytes =
      (found.elim (some state) (container.step? limit state)).bind fun next =>
        container.absorb? limit next tail := by
  simp only [absorb?, Record.readAll?_of_read? read, Option.bind_eq_bind]
  cases Record.readAll? limit container.reading tail with
  | none => simp
  | some records =>
      cases found with
      | none => rfl
      | some record => exact List.foldlM_cons

theorem merge?_eq_map_absorb? (type : MessageType) (slots : List Slot) (bytes : List UInt8) :
    merge? limit type (.message slots) bytes =
      ((message type).absorb? limit slots bytes).map .message := by
  rw [merge?_eq, mergeRecords?, absorb?]
  simp only [Option.bind_eq_bind, Option.map_bind]
  congr 1
  funext records
  exact (Option.map_eq_bind).symm

theorem pair?_eq_absorb? (type : MessageType) (bytes : List UInt8) :
    pair? limit type bytes = (entry type).absorb? limit ("", type.absent) bytes := by
  rw [pair?_eq]
  rfl

/-- Two byte sequences do the same to a container. -/
def Agree (limit : Nat) (container : Container) (old new : List UInt8) : Prop :=
  ∀ state, container.absorb? limit state new = container.absorb? limit state old

theorem Agree.merge?_eq {type : MessageType} (agree : (message type).Agree limit old new)
    (former : Value) : merge? limit type former new = merge? limit type former old := by
  cases former with
  | message slots => rw [merge?_eq_map_absorb?, merge?_eq_map_absorb?, agree]
  | _ => rw [Wire.merge?_eq]; rfl

theorem Agree.pair?_eq {type : MessageType} (agree : (entry type).Agree limit old new) :
    pair? limit type new = pair? limit type old := by
  rw [pair?_eq_absorb?, pair?_eq_absorb?, agree]

/-- A value depends on the bytes of a message only through what they make. -/
theorem Agree.kind {kind : Kind} (agree : inner.Agree limit old new)
    (contains : ofKind? kind = some inner) (former : Option Value) :
    kind.merge? (merge? limit) former (.delimited new) =
      kind.merge? (merge? limit) former (.delimited old) := by
  cases kind with
  | scalar scalar => cases contains
  | message type =>
      cases contains
      exact agree.merge?_eq _

theorem Agree.slot {shape : Shape} (agree : inner.Agree limit old new)
    (contains : ofShape? tag shape = some inner) (slot : Slot) :
    slot.merge? (.within (limit + 1)) shape ⟨tag, .delimited new⟩ =
      slot.merge? (.within (limit + 1)) shape ⟨tag, .delimited old⟩ := by
  cases shape with
  | plain tag scalar => cases contains
  | optional own kind =>
      cases slot with
      | optional former => exact congrArg (Option.map _) (agree.kind contains former)
      | _ => rfl
  | repeated own kind =>
      cases slot with
      | repeated values => exact congrArg (Option.map _) (agree.kind contains none)
      | _ => rfl
  | choice variants =>
      obtain ⟨variant, found, contains⟩ := Option.bind_eq_some_iff.mp contains
      cases slot with
      | choice former =>
          simp only [Slot.merge?, found]
          exact congrArg (Option.map _) (agree.kind contains _)
      | _ => rfl
  | map own type =>
      cases contains
      cases slot with
      | map entries => exact congrArg (Option.map _) agree.pair?_eq
      | _ => rfl

theorem Agree.fields {fields : List Field} {field : Field} (agree : inner.Agree limit old new)
    (found : (fields.find? fun field => field.shape.tags.contains tag) = some field)
    (contains : ofShape? tag field.shape = some inner) (slots : List Slot) :
    mergeRecord? (.within (limit + 1)) fields slots ⟨tag, .delimited new⟩ =
      mergeRecord? (.within (limit + 1)) fields slots ⟨tag, .delimited old⟩ := by
  induction fields generalizing slots with
  | nil => cases found
  | cons head rest inductionHypothesis =>
      cases slots with
      | nil => rfl
      | cons slot slots =>
          rw [List.find?_cons] at found
          rw [mergeRecord?, mergeRecord?]
          split at found
          next own =>
            cases found
            rw [if_pos own, if_pos own, agree.slot contains]
          next foreign =>
            have elsewhere := Bool.not_eq_true _ ▸ foreign
            rw [if_neg elsewhere, if_neg elsewhere, inductionHypothesis found]

/-- A record depends on the bytes inside it only through what they make. -/
theorem Agree.step?_eq (agree : inner.Agree limit old new)
    (contains : container.inside? tag = some inner) (state : container.State) :
    container.step? (limit + 1) state ⟨tag, .delimited new⟩ =
      container.step? (limit + 1) state ⟨tag, .delimited old⟩ := by
  cases container with
  | message type =>
      obtain ⟨field, found, contains⟩ := Option.bind_eq_some_iff.mp contains
      exact agree.fields found contains state
  | entry type =>
      rw [inside?, Option.ite_none_right_eq_some] at contains
      obtain ⟨rfl, same⟩ := contains
      have kind : ofKind? (.message type) = some inner := same
      exact congrArg (Option.map _) (agree.kind kind (some state.2))

/-- The payload of a tag has a length, either because its key says so or whatever its key says. -/
def IsAnnounced (container : Container) (tag : Nat) (wireType : WireType) : Prop :=
  wireType = .delimited ∨ container.reading tag = .asDelimited

theorem read?_of_inside? {wireType : WireType} {key length : List UInt8}
    (contains : container.inside? tag = some inner) (isKey : Record.IsKey tag wireType key)
    (isAnnounced : container.IsAnnounced tag wireType)
    (isForm : Varint.IsForm length bytes.length) (limit : Nat) (tail : List UInt8) :
    Record.read? limit container.reading (key ++ length ++ bytes ++ tail) =
      some (some ⟨tag, .delimited bytes⟩, tail) := by
  have content : Record.readDelimited? (length ++ (bytes ++ tail)) = some (bytes, tail) := by
    rw [← List.append_assoc]
    exact Record.readDelimited?_append isForm tail
  rw [List.append_assoc, List.append_assoc, Record.read?_eq, isKey.readKey?_append,
    Option.bind_some, Record.readAfterKey?]
  have isKnown := reading_of_inside? contains
  split
  next asWritten =>
    have isDelimited : wireType = .delimited :=
      isAnnounced.resolve_right fun asDelimited => nomatch asWritten.symm.trans asDelimited
    rw [isDelimited, Record.readPayload?, content]
    rfl
  next asDelimited =>
    rw [content]
    rfl
  next skipped => exact absurd skipped isKnown

end Container

/-- The second byte sequence is the first one with a record more. The record stands between two
records of a container, or inside one of them, and its tag is not declared where it stands. At most
the given levels of nesting are left in the container. -/
inductive Inserts : Nat → Container → List UInt8 → List UInt8 → Prop where
  | here {limit tag : Nat} {container : Container} {before record : List UInt8}
      {records : List Record}
      (boundary : Record.readAll? limit container.reading before = some records)
      (undeclared : tag ∉ container.tags) (isWritten : Record.IsWritten limit tag record)
      (after : List UInt8) :
      Inserts limit container (before ++ after) (before ++ (record ++ after))
  /-- The length of the record around it is adjusted. -/
  | inside {limit tag : Nat} {container inner : Container} {wireType : WireType}
      {before key oldLength newLength old new : List UInt8} {records : List Record}
      (boundary : Record.readAll? (limit + 1) container.reading before = some records)
      (contains : container.inside? tag = some inner) (isKey : Record.IsKey tag wireType key)
      (isAnnounced : container.IsAnnounced tag wireType)
      (oldForm : Varint.IsForm oldLength old.length) (newForm : Varint.IsForm newLength new.length)
      (inserts : Inserts limit inner old new) (after : List UInt8) :
      Inserts (limit + 1) container (before ++ (key ++ oldLength ++ old ++ after))
        (before ++ (key ++ newLength ++ new ++ after))

/-- A record of an unknown tag changes nothing about the container. -/
theorem Inserts.agree {limit : Nat} {container : Container} {old new : List UInt8}
    (inserts : Inserts limit container old new) : container.Agree limit old new := by
  -- The records before the new one lead to some state, and from there nothing differs.
  induction inserts with
  | @here limit tag container before record records boundary undeclared isWritten after =>
      intro state
      have skipped := isWritten.read?_append (Container.reading_of_undeclared undeclared) after
      rw [Container.absorb?_append boundary, Container.absorb?_append boundary]
      refine congrArg _ (funext fun next => ?_)
      exact Container.absorb?_of_read? skipped next
  | @inside limit tag container inner wireType before key oldLength newLength old new records
      boundary contains isKey isAnnounced oldForm newForm inserts after inductionHypothesis =>
      intro state
      have oldRead :=
        Container.read?_of_inside? contains isKey isAnnounced oldForm (limit + 1) after
      have newRead :=
        Container.read?_of_inside? contains isKey isAnnounced newForm (limit + 1) after
      rw [Container.absorb?_append boundary, Container.absorb?_append boundary]
      refine congrArg _ (funext fun next => ?_)
      rw [Container.absorb?_of_read? oldRead, Container.absorb?_of_read? newRead,
        Option.elim_some, Option.elim_some, inductionHypothesis.step?_eq contains]

/-- A byte sequence spells the same message with a record of an unknown tag in it. -/
theorem decode?_of_inserts {type : MessageType} {old new : List UInt8}
    (inserts : Inserts nestingLimit (.message type) old new) :
    decode? type new = decode? type old :=
  inserts.agree.merge?_eq type.absent

/-- A group stands after the permission of a policy, which is the value of an entry of a map. -/
theorem decode?_of_groupInPolicy :
    Inserts nestingLimit (.message .rbac) [18, 4, 18, 2, 10, 0]
        [18, 9, 18, 7, 10, 0, 59, 8, 150, 1, 60] ∧
      decode? .rbac [18, 9, 18, 7, 10, 0, 59, 8, 150, 1, 60] =
        decode? .rbac [18, 4, 18, 2, 10, 0] ∧
      (decode? .rbac [18, 4, 18, 2, 10, 0]).isSome = true := by
  have digit (byte : UInt8) (isLast : byte.toNat < 128) : Varint.IsForm [byte] byte.toNat :=
    ⟨.last isLast, Nat.le_add_left 1 9, by omega⟩
  have digits : Varint.IsForm [150, 1] 150 :=
    ⟨.more (by decide) (.last (by decide)), by decide, by decide⟩
  have key : Record.IsKey 2 .delimited [18] := ⟨by decide, by decide, digit 18 (by decide)⟩
  have varint : Record.IsKey 1 .varint [8] := ⟨by decide, by decide, digit 8 (by decide)⟩
  have start : Record.IsKey 7 .startGroup [59] := ⟨by decide, by decide, digit 59 (by decide)⟩
  have finish : Record.IsKey 7 .endGroup [60] := ⟨by decide, by decide, digit 60 (by decide)⟩
  have contents : ∀ record ∈ [(1, [8, 150, 1])], Record.IsWritten 97 record.1 record.2 :=
    List.forall_mem_singleton.mpr (.plain varint (.varint digits))
  have nothing (limit : Nat) (container : Container) :
      Record.readAll? limit container.reading [] = some [] := Record.readAll?_nil
  have permission : Record.read? 98 (Container.message .policy).reading [10, 0] =
      some (some ⟨1, .delimited []⟩, []) := rfl
  have before : Record.readAll? 98 (Container.message .policy).reading [10, 0] =
      some [⟨1, .delimited []⟩] := by
    rw [Record.readAll?_of_read? permission, nothing]
    rfl
  have inPolicy : Inserts 98 (.message .policy) [10, 0] [10, 0, 59, 8, 150, 1, 60] :=
    .here before (by decide) (.group start contents finish) []
  have inEntry : Inserts 99 (.entry .policy) [18, 2, 10, 0] [18, 7, 10, 0, 59, 8, 150, 1, 60] :=
    .inside (nothing _ _) rfl key (.inl rfl) (digit 2 (by decide)) (digit 7 (by decide)) inPolicy []
  have inMessage : Inserts 100 (.message .rbac) [18, 4, 18, 2, 10, 0]
      [18, 9, 18, 7, 10, 0, 59, 8, 150, 1, 60] :=
    .inside (nothing _ _) rfl key (.inl rfl) (digit 4 (by decide)) (digit 9 (by decide)) inEntry []
  exact ⟨inMessage, decode?_of_inserts inMessage, by decide +kernel⟩

end MeshAccess.Wire
