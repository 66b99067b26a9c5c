import MeshAccess.Proofs.Wire.Record

/-! This file says which byte sequences are records, and how unknown ones are skipped. -/

namespace MeshAccess.Wire

namespace Varint

/-- The bytes are the digits of a number. The top bit says that another digit follows. -/
inductive Spells : List UInt8 → Nat → Prop where
  | last {byte : UInt8} (isLast : byte.toNat < 128) : Spells [byte] byte.toNat
  | more {byte : UInt8} {rest : List UInt8} {value : Nat} (goesOn : 128 ≤ byte.toNat)
      (spells : Spells rest value) : Spells (byte :: rest) (byte.toNat - 128 + 128 * value)

/-- The bytes are a form of a number that the reader takes. -/
structure IsForm (bytes : List UInt8) (value : Nat) : Prop where
  spells : Spells bytes value
  short : bytes.length ≤ maxLength
  small : value < 2 ^ 64

variable {bytes tail : List UInt8} {value count : Nat}

theorem readWithin?_of_spells (spells : Spells bytes value) (short : bytes.length ≤ count + 1)
    (small : value < 2 ^ (7 * count + 1)) (tail : List UInt8) :
    readWithin? (count + 1) (bytes ++ tail) = some (value, tail) := by
  induction spells generalizing count with
  | @last byte isLast =>
      rw [List.singleton_append, readWithin?, if_pos isLast]
      cases count with
      | zero =>
          have bit : byte.toNat < 2 := small
          exact if_neg (by simpa using bit)
      | succ count => exact if_neg (by simp)
  | @more byte rest value goesOn spells inductionHypothesis =>
      have positive : 0 < rest.length := by cases spells <;> exact Nat.zero_lt_succ _
      rw [List.length_cons] at short
      cases count with
      | zero => omega
      | succ count =>
          have power : 2 ^ (7 * (count + 1) + 1) = 2 ^ (7 * count + 1) * 128 := by ring
          rw [List.cons_append, readWithin?, if_neg (Nat.not_lt.mpr goesOn),
            inductionHypothesis (by omega) (by omega)]
          rfl

theorem spells_of_readWithin? (read : readWithin? count bytes = some (value, tail)) :
    ∃ taken, bytes = taken ++ tail ∧ Spells taken value ∧ taken.length ≤ count := by
  induction count generalizing bytes value with
  | zero => cases read
  | succ count inductionHypothesis =>
      cases bytes with
      | nil => cases read
      | cons byte rest =>
          rw [readWithin?] at read
          split at read
          next isLast =>
            rw [Option.ite_none_left_eq_some] at read
            obtain ⟨-, same⟩ := read
            cases same
            exact ⟨[byte], rfl, .last isLast, Nat.le_add_left 1 count⟩
          next goesOn =>
            obtain ⟨⟨others, after⟩, inner, same⟩ := Option.map_eq_some_iff.mp read
            cases same
            obtain ⟨taken, rfl, spells, short⟩ := inductionHypothesis inner
            refine ⟨byte :: taken, rfl, .more (Nat.not_lt.mp goesOn) spells, ?_⟩
            exact Nat.succ_le_succ short

/-- The reader takes exactly the forms of numbers. -/
theorem read?_eq_some_iff :
    read? bytes = some (value, tail) ↔ ∃ taken, bytes = taken ++ tail ∧ IsForm taken value := by
  constructor
  · intro read
    obtain ⟨taken, same, spells, short⟩ := spells_of_readWithin? read
    exact ⟨taken, same, spells, short, read?_lt read⟩
  · rintro ⟨taken, rfl, isForm⟩
    exact readWithin?_of_spells isForm.spells isForm.short isForm.small tail

end Varint

namespace Record

/-- The bytes are a key. -/
structure IsKey (tag : Nat) (wireType : WireType) (bytes : List UInt8) : Prop where
  positive : 1 ≤ tag
  small : tag < 2 ^ 29
  isForm : Varint.IsForm bytes (8 * tag + wireType.toNat)

/-- The bytes are a payload that is no group. -/
inductive IsPayload : WireType → List UInt8 → Prop where
  | varint {bytes : List UInt8} {value : Nat} (isForm : Varint.IsForm bytes value) :
      IsPayload .varint bytes
  | fixed64 {bytes : List UInt8} (size : bytes.length = 8) : IsPayload .fixed64 bytes
  | fixed32 {bytes : List UInt8} (size : bytes.length = 4) : IsPayload .fixed32 bytes
  | delimited {length bytes : List UInt8} (isForm : Varint.IsForm length bytes.length) :
      IsPayload .delimited (length ++ bytes)

/-- The bytes are a record of a tag, and take at most the given levels of nesting. The records in a
group have tags of their own. -/
inductive IsWritten : Nat → Nat → List UInt8 → Prop where
  | plain {limit tag : Nat} {wireType : WireType} {key payload : List UInt8}
      (isKey : IsKey tag wireType key) (isPayload : IsPayload wireType payload) :
      IsWritten (limit + 1) tag (key ++ payload)
  | group {limit tag : Nat} {start finish : List UInt8} {records : List (Nat × List UInt8)}
      (isStart : IsKey tag .startGroup start)
      (areWritten : ∀ record ∈ records, IsWritten limit record.1 record.2)
      (isEnd : IsKey tag .endGroup finish) :
      IsWritten (limit + 1) tag (start ++ records.flatMap Prod.snd ++ finish)

variable {tag limit innermost : Nat} {outer : List Nat} {wireType : WireType}
  {key bytes : List UInt8}

theorem IsKey.readKey?_append (isKey : IsKey tag wireType key) (tail : List UInt8) :
    readKey? (key ++ tail) = some ((tag, wireType), tail) :=
  readKey?_of_read? isKey.positive isKey.small
    (Varint.read?_eq_some_iff.mpr ⟨key, rfl, isKey.isForm⟩)

theorem readDelimited?_append {length : List UInt8} (isForm : Varint.IsForm length bytes.length)
    (tail : List UInt8) : readDelimited? (length ++ bytes ++ tail) = some (bytes, tail) := by
  have read := Varint.read?_eq_some_iff.mpr ⟨length, List.append_assoc length bytes tail, isForm⟩
  rw [readDelimited?, read]
  exact takeBytes?_append bytes tail

theorem IsPayload.readPayload?_append (isPayload : IsPayload wireType bytes) (tail : List UInt8) :
    (readPayload? (bytes ++ tail) wireType).map Prod.snd = some tail := by
  cases isPayload with
  | varint isForm =>
      rw [readPayload?, Varint.read?_eq_some_iff.mpr ⟨bytes, rfl, isForm⟩]
      rfl
  | fixed64 size =>
      rw [readPayload?, ← size, takeBytes?_append]
      rfl
  | fixed32 size =>
      rw [readPayload?, ← size, takeBytes?_append]
      rfl
  | delimited isForm =>
      rw [readPayload?, readDelimited?_append isForm]
      rfl

theorem IsPayload.ne_startGroup (isPayload : IsPayload wireType bytes) :
    wireType ≠ .startGroup := by
  rintro rfl
  cases isPayload

theorem IsPayload.ne_endGroup (isPayload : IsPayload wireType bytes) : wireType ≠ .endGroup := by
  rintro rfl
  cases isPayload

/-- What is done inside groups once a key has been read. -/
def skipAfterKey? (limit innermost : Nat) (outer : List Nat) (key : Nat × WireType)
    (tail : List UInt8) : Option (List Nat × List UInt8) :=
  if key.2 = .endGroup then if key.1 = innermost then some (outer, tail) else none
  else if limit ≤ outer.length + 1 then none
  else if key.2 = .startGroup then some (key.1 :: innermost :: outer, tail)
  else (readPayload? tail key.2).map fun payload => (innermost :: outer, payload.2)

theorem skipInGroups?_eq (limit innermost : Nat) (outer : List Nat) (bytes : List UInt8) :
    skipInGroups? limit innermost outer bytes =
      (readKey? bytes).bind fun found => skipAfterKey? limit innermost outer found.1 found.2 := by
  rw [skipInGroups?]
  rcases readKey? bytes with _ | ⟨⟨tag, wireType⟩, tail⟩
  · rfl
  · cases wireType <;> rfl

theorem skipGroups?_cons (limit innermost : Nat) (outer : List Nat) (bytes : List UInt8) :
    skipGroups? limit (innermost :: outer) bytes =
      (skipInGroups? limit innermost outer bytes).bind fun found =>
        skipGroups? limit found.1 found.2 := by
  rw [skipGroups?]
  split
  next failed =>
    rw [failed]
    rfl
  next opened tail skipped =>
    rw [skipped]
    rfl

/-- A key inside groups is followed by what it says. -/
theorem IsKey.skipGroups?_append (isKey : IsKey tag wireType key) (tail : List UInt8) :
    skipGroups? limit (innermost :: outer) (key ++ tail) =
      (skipAfterKey? limit innermost outer (tag, wireType) tail).bind fun found =>
        skipGroups? limit found.1 found.2 := by
  rw [skipGroups?_cons, skipInGroups?_eq, isKey.readKey?_append]
  rfl

/-- The records of a group are skipped, if each of them is. -/
theorem skipGroups?_flatMap {opened : List Nat} {records : List (Nat × List UInt8)}
    (skipped : ∀ record ∈ records, ∀ tail,
      skipGroups? limit opened (record.2 ++ tail) = skipGroups? limit opened tail)
    (tail : List UInt8) :
    skipGroups? limit opened (records.flatMap Prod.snd ++ tail) =
      skipGroups? limit opened tail := by
  induction records with
  | nil => rfl
  | cons record rest inductionHypothesis =>
      obtain ⟨here, others⟩ := List.forall_mem_cons.mp skipped
      rw [List.flatMap_cons, List.append_assoc, here, inductionHypothesis others]

/-- A record inside groups is skipped, if there are levels left for it. -/
theorem IsWritten.skipGroups?_append {level : Nat} (isWritten : IsWritten level tag bytes)
    (room : outer.length + 1 + level ≤ limit) (tail : List UInt8) :
    skipGroups? limit (innermost :: outer) (bytes ++ tail) =
      skipGroups? limit (innermost :: outer) tail := by
  -- A group opens one more, so the room is measured against all open ones.
  induction isWritten generalizing innermost outer tail with
  | plain isKey isPayload =>
      obtain ⟨found, read, rfl⟩ := Option.map_eq_some_iff.mp (isPayload.readPayload?_append tail)
      have enough : ¬ limit ≤ outer.length + 1 := by omega
      rw [List.append_assoc, isKey.skipGroups?_append, skipAfterKey?,
        if_neg isPayload.ne_endGroup, if_neg enough, if_neg isPayload.ne_startGroup, read]
      rfl
  | @group level tag start finish records isStart areWritten isEnd inductionHypothesis =>
      have enough : ¬ limit ≤ outer.length + 1 := by omega
      have deeper : (innermost :: outer).length + 1 + level ≤ limit := by
        rw [List.length_cons]
        omega
      have skipped : ∀ record ∈ records, ∀ tail,
          skipGroups? limit (tag :: innermost :: outer) (record.2 ++ tail) =
            skipGroups? limit (tag :: innermost :: outer) tail :=
        fun record member tail => inductionHypothesis record member deeper tail
      rw [List.append_assoc, List.append_assoc, isStart.skipGroups?_append, skipAfterKey?,
        if_neg nofun, if_neg enough, if_pos rfl, Option.bind_some, skipGroups?_flatMap skipped,
        isEnd.skipGroups?_append, skipAfterKey?, if_pos rfl, if_pos rfl]
      rfl

/-- A reader skips a record of an unknown tag, if there are levels left for it. -/
theorem IsWritten.read?_append {reading : Nat → Reading} (isWritten : IsWritten limit tag bytes)
    (unknown : reading tag = .skipped) (tail : List UInt8) :
    read? limit reading (bytes ++ tail) = some (none, tail) := by
  cases isWritten with
  | @plain limit tag wireType key payload isKey isPayload =>
      have skipped : skipPayload? (limit + 1) tag (payload ++ tail) wireType = some tail := by
        rw [← isPayload.readPayload?_append tail]
        cases isPayload <;> rfl
      rw [read?, List.append_assoc, isKey.readKey?_append]
      simp only [unknown, skipped, Option.map_some]
  | @group level tag start finish records isStart areWritten isEnd =>
      have room : ([] : List Nat).length + 1 + level ≤ level + 1 := by
        rw [List.length_nil]
        omega
      have inside : ∀ record ∈ records, ∀ tail,
          skipGroups? (level + 1) [tag] (record.2 ++ tail) = skipGroups? (level + 1) [tag] tail :=
        fun record member tail => (areWritten record member).skipGroups?_append room tail
      have skipped : skipPayload? (level + 1) tag (records.flatMap Prod.snd ++ (finish ++ tail))
          .startGroup = some tail := by
        rw [skipPayload?, if_neg (Nat.succ_ne_zero level), skipGroups?_flatMap inside,
          isEnd.skipGroups?_append, skipAfterKey?, if_pos rfl, if_pos rfl, Option.bind_some,
          skipGroups?]
      rw [read?, List.append_assoc, List.append_assoc, isStart.readKey?_append]
      simp only [unknown, skipped, Option.map_some]

end Record

end MeshAccess.Wire
