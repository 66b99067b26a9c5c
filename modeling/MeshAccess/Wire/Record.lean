import MeshAccess.Wire.Varint

/-!
This file splits a byte sequence into records.

A record is a tag with a payload. A message knows the tags of its fields, and it skips the records of
other tags. Only a skipped record may be a group, which is a sequence of records up to an end mark.
-/

namespace MeshAccess.Wire

/-- The shapes of payloads. -/
inductive WireType where
  | varint
  | fixed64
  | delimited
  | startGroup
  | endGroup
  | fixed32
  deriving DecidableEq, Repr

namespace WireType

def ofNat? : Nat → Option WireType
  | 0 => some .varint
  | 1 => some .fixed64
  | 2 => some .delimited
  | 3 => some .startGroup
  | 4 => some .endGroup
  | 5 => some .fixed32
  | _ => none

def toNat : WireType → Nat
  | .varint => 0
  | .fixed64 => 1
  | .delimited => 2
  | .startGroup => 3
  | .endGroup => 4
  | .fixed32 => 5

end WireType

/-- The payload of a field. -/
inductive Payload where
  | varint (value : Nat)
  | fixed64 (bytes : List UInt8)
  | fixed32 (bytes : List UInt8)
  | delimited (bytes : List UInt8)
  deriving DecidableEq, Repr

/-- A tag with a payload. -/
structure Record where
  tag : Nat
  payload : Payload
  deriving DecidableEq, Repr

namespace Record

/-- The largest number of a key, which holds a tag and the shape of the payload. -/
def maxKey : Nat := Nat.pow 2 32 - 1

/-- This function reads a tag and the shape of the payload after it. -/
def readKey? (bytes : List UInt8) : Option ((Nat × WireType) × List UInt8) := do
  let (key, tail) ← Varint.read? bytes
  let wireType ← WireType.ofNat? (key % 8)
  if key ≤ maxKey && 1 ≤ key / 8 then some ((key / 8, wireType), tail) else none

/-- This function takes a number of bytes. -/
def takeBytes? (count : Nat) (bytes : List UInt8) : Option (List UInt8 × List UInt8) :=
  if count ≤ bytes.length then some (bytes.take count, bytes.drop count) else none

/-- This function reads a length and as many bytes. -/
def readDelimited? (bytes : List UInt8) : Option (List UInt8 × List UInt8) := do
  let (length, tail) ← Varint.read? bytes
  takeBytes? length tail

/-- This function reads a payload that is no group. -/
def readPayload? (bytes : List UInt8) : WireType → Option (Payload × List UInt8)
  | .varint => (Varint.read? bytes).map fun (value, tail) => (.varint value, tail)
  | .fixed64 => (takeBytes? 8 bytes).map fun (value, tail) => (.fixed64 value, tail)
  | .fixed32 => (takeBytes? 4 bytes).map fun (value, tail) => (.fixed32 value, tail)
  | .delimited => (readDelimited? bytes).map fun (value, tail) => (.delimited value, tail)
  | .startGroup => none
  | .endGroup => none

theorem readKey?_length {bytes tail : List UInt8} {key : Nat × WireType}
    (read : readKey? bytes = some (key, tail)) : tail.length < bytes.length := by
  simp only [readKey?, Option.bind_eq_bind, Option.bind_eq_some_iff] at read
  obtain ⟨⟨number, rest⟩, inner, wireType, _, final⟩ := read
  split at final
  · simp only [Option.some.injEq, Prod.mk.injEq] at final
    exact final.2 ▸ Varint.read?_length inner
  · simp at final

theorem takeBytes?_length {count : Nat} {bytes value tail : List UInt8}
    (read : takeBytes? count bytes = some (value, tail)) : tail.length ≤ bytes.length := by
  simp only [takeBytes?] at read
  split at read
  · simp only [Option.some.injEq, Prod.mk.injEq] at read
    simp [← read.2]
  · simp at read

theorem readDelimited?_length {bytes value tail : List UInt8}
    (read : readDelimited? bytes = some (value, tail)) : tail.length ≤ bytes.length := by
  simp only [readDelimited?, Option.bind_eq_bind, Option.bind_eq_some_iff] at read
  obtain ⟨⟨length, rest⟩, inner, final⟩ := read
  exact Nat.le_trans (takeBytes?_length final) (Nat.le_of_lt (Varint.read?_length inner))

theorem readPayload?_length {bytes tail : List UInt8} {wireType : WireType} {payload : Payload}
    (read : readPayload? bytes wireType = some (payload, tail)) :
    tail.length ≤ bytes.length := by
  cases wireType <;>
    simp only [readPayload?, Option.map_eq_some_iff, Prod.mk.injEq, Prod.exists,
      reduceCtorEq] at read
  · obtain ⟨value, rest, inner, _, rfl⟩ := read
    exact Nat.le_of_lt (Varint.read?_length inner)
  · obtain ⟨value, rest, inner, _, rfl⟩ := read
    exact takeBytes?_length inner
  · obtain ⟨value, rest, inner, _, rfl⟩ := read
    exact readDelimited?_length inner
  · obtain ⟨value, rest, inner, _, rfl⟩ := read
    exact takeBytes?_length inner

/-- This function skips one record inside groups, or the mark that ends the innermost one. The tags of
the open groups are given with the innermost one first. Fewer than `limit` groups may be open when a
record stands in them. -/
def skipInGroups? (limit innermost : Nat) (outer : List Nat) (bytes : List UInt8) :
    Option (List Nat × List UInt8) :=
  match readKey? bytes with
  | none => none
  | some ((tag, .endGroup), tail) => if tag = innermost then some (outer, tail) else none
  | some ((tag, wireType), tail) =>
      if limit ≤ outer.length + 1 then none
      else if wireType = .startGroup then some (tag :: innermost :: outer, tail)
      else (readPayload? tail wireType).map fun payload => (innermost :: outer, payload.2)

theorem skipInGroups?_length {limit innermost : Nat} {outer opened : List Nat}
    {bytes tail : List UInt8}
    (skipped : skipInGroups? limit innermost outer bytes = some (opened, tail)) :
    tail.length < bytes.length := by
  simp only [skipInGroups?] at skipped
  split at skipped
  · simp at skipped
  next key =>
    split at skipped
    · simp only [Option.some.injEq, Prod.mk.injEq] at skipped
      exact skipped.2 ▸ readKey?_length key
    · simp at skipped
  next key =>
    have shorter := readKey?_length key
    split at skipped
    · simp at skipped
    · split at skipped
      · simp only [Option.some.injEq, Prod.mk.injEq] at skipped
        exact skipped.2 ▸ shorter
      · obtain ⟨⟨payload, rest⟩, inner, equal⟩ := Option.map_eq_some_iff.mp skipped
        obtain ⟨_, rfl⟩ := Prod.mk.inj equal
        exact Nat.lt_of_le_of_lt (readPayload?_length inner) shorter

/-- This function skips what is left of the open groups. -/
def skipGroups? (limit : Nat) (opened : List Nat) (bytes : List UInt8) : Option (List UInt8) :=
  match opened with
  | [] => some bytes
  | innermost :: outer =>
      match _skipped : skipInGroups? limit innermost outer bytes with
      | none => none
      | some (opened, tail) => skipGroups? limit opened tail
  termination_by bytes.length
  decreasing_by exact skipInGroups?_length _skipped

theorem skipGroups?_length {limit : Nat} {opened : List Nat} {bytes tail : List UInt8}
    (skipped : skipGroups? limit opened bytes = some tail) : tail.length ≤ bytes.length := by
  fun_induction skipGroups? limit opened bytes with
  | case1 => simp_all
  | case2 => simp at skipped
  | case3 _ _ _ _ _ step inductionHypothesis =>
      have shorter := skipInGroups?_length step
      have notLonger := inductionHypothesis skipped
      omega

/-- This function skips a payload. At most `limit` levels of nesting are left, and a record of an
unknown tag takes one. -/
def skipPayload? (limit tag : Nat) (bytes : List UInt8) (wireType : WireType) :
    Option (List UInt8) :=
  if limit = 0 then none
  else
    match wireType with
    | .startGroup => skipGroups? limit [tag] bytes
    | _ => (readPayload? bytes wireType).map Prod.snd

theorem skipPayload?_length {limit tag : Nat} {bytes tail : List UInt8} {wireType : WireType}
    (skipped : skipPayload? limit tag bytes wireType = some tail) :
    tail.length ≤ bytes.length := by
  simp only [skipPayload?] at skipped
  split at skipped
  · simp at skipped
  · split at skipped
    · exact skipGroups?_length skipped
    · obtain ⟨⟨payload, rest⟩, inner, rfl⟩ := Option.map_eq_some_iff.mp skipped
      exact readPayload?_length inner

/-- How the payload of a tag is read. -/
inductive Reading where
  /-- The payload has the shape that the key says. -/
  | asWritten
  /-- The payload has a length, whatever the key says. -/
  | asDelimited
  /-- The tag is unknown. -/
  | skipped
  deriving DecidableEq, Repr

/-- This function reads one record. There is none in a skipped record. -/
def read? (limit : Nat) (reading : Nat → Reading) (bytes : List UInt8) :
    Option (Option Record × List UInt8) :=
  match readKey? bytes with
  | none => none
  | some ((tag, wireType), tail) =>
      match reading tag with
      | .asWritten =>
          (readPayload? tail wireType).map fun (payload, rest) => (some ⟨tag, payload⟩, rest)
      | .asDelimited =>
          (readDelimited? tail).map fun (value, rest) => (some ⟨tag, .delimited value⟩, rest)
      | .skipped => (skipPayload? limit tag tail wireType).map fun rest => (none, rest)

theorem read?_length {limit : Nat} {reading : Nat → Reading} {bytes tail : List UInt8}
    {record : Option Record} (read : read? limit reading bytes = some (record, tail)) :
    tail.length < bytes.length := by
  simp only [read?] at read
  split at read
  · simp at read
  next tag wireType rest key =>
    have shorter := readKey?_length key
    split at read
    · obtain ⟨⟨payload, final⟩, inner, equal⟩ := Option.map_eq_some_iff.mp read
      obtain ⟨_, rfl⟩ := Prod.mk.inj equal
      exact Nat.lt_of_le_of_lt (readPayload?_length inner) shorter
    · obtain ⟨⟨value, final⟩, inner, equal⟩ := Option.map_eq_some_iff.mp read
      obtain ⟨_, rfl⟩ := Prod.mk.inj equal
      exact Nat.lt_of_le_of_lt (readDelimited?_length inner) shorter
    · obtain ⟨final, inner, equal⟩ := Option.map_eq_some_iff.mp read
      obtain ⟨_, rfl⟩ := Prod.mk.inj equal
      exact Nat.lt_of_le_of_lt (skipPayload?_length inner) shorter

/-- The records of a byte sequence without the skipped ones. -/
def readAll? (limit : Nat) (reading : Nat → Reading) (bytes : List UInt8) :
    Option (List Record) :=
  if bytes.isEmpty then some []
  else
    match _read : read? limit reading bytes with
    | none => none
    | some (record, tail) =>
        (readAll? limit reading tail).map fun records => record.toList ++ records
  termination_by bytes.length
  decreasing_by exact read?_length _read

end Record

end MeshAccess.Wire
