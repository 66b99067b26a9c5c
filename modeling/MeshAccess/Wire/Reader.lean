import MeshAccess.Text.Utf8
import MeshAccess.Wire.Message
import MeshAccess.Wire.Record

/-!
This file reads messages.

The records of a message are merged one after the other into the message without any field. A message
inside a message takes one level of nesting, and so does an entry of a map.
-/

namespace MeshAccess.Wire

/-- A word as a signed number. -/
def signed32 (value : Nat) : Int :=
  let word : Nat := value % Nat.pow 2 32
  if word < Nat.pow 2 31 then (word : Int) else (word : Int) - Nat.pow 2 32

/-- The number of eight bytes, the last one being the leading one. -/
def readFixed64 (bytes : List UInt8) : Nat :=
  bytes.foldr (fun byte value => 256 * value + byte.toNat) 0

namespace Scalar

/-- The value of a payload, which must have the shape that belongs to the scalar. -/
def read? : Scalar → Payload → Option Value
  | .bool, .varint value => some (.bool (value ≠ 0))
  | .int32, .varint value => some (.int32 (signed32 value))
  | .uint32, .varint value => some (.uint32 (value % Nat.pow 2 32))
  | .double, .fixed64 content => some (.double (readFixed64 content))
  | .text, .delimited content => (Text.Utf8.string? content).map .text
  | .bytes, .delimited content => some (.bytes content)
  | _, _ => none

end Scalar

/-- A function that merges the records of a byte sequence into a message of a type. -/
abbrev Merge := MessageType → Value → List UInt8 → Option Value

namespace Kind

/-- The value that a payload makes of a former value. Only messages depend on it. -/
def merge? (nested : Merge) (kind : Kind) (former : Option Value) (payload : Payload) :
    Option Value :=
  match kind with
  | .scalar type => type.read? payload
  | .message type =>
      match payload with
      | .delimited bytes => nested type (former.getD type.absent) bytes
      | _ => none

end Kind

/-- How the tags of an entry of a map are read. -/
def pairReading (tag : Nat) : Record.Reading :=
  if tag = 1 || tag = 2 then .asWritten else .skipped

/-- This function merges a record into an entry of a map. -/
def mergePair? (nested : Merge) (type : MessageType) (entry : String × Value) (record : Record) :
    Option (String × Value) :=
  if record.tag = 1 then
    match Scalar.text.read? record.payload with
    | some (.text name) => some (name, entry.2)
    | _ => none
  else
    (Kind.merge? nested (.message type) (some entry.2) record.payload).map fun value =>
      (entry.1, value)

/-- The entry of a map, given the nested levels that are left inside it. -/
def readPair? (limit : Nat) (nested : Merge) (type : MessageType) (bytes : List UInt8) :
    Option (String × Value) := do
  let records ← Record.readAll? limit pairReading bytes
  records.foldlM (mergePair? nested type) ("", type.absent)

/-- What is left for a message inside a message. -/
structure Inner where
  message : Merge
  /-- The entry of a map with values of a type. -/
  entry : MessageType → List UInt8 → Option (String × Value)

namespace Slot

/-- The value of the chosen variant, if it has the given tag. -/
def chosen? (tag : Nat) : Option (Nat × Value) → Option Value
  | some (current, value) => if current = tag then some value else none
  | none => none

/-- This function merges a record of the field into a slot. -/
def merge? (inner : Inner) (shape : Shape) (slot : Slot) (record : Record) : Option Slot :=
  match shape, slot with
  | .plain _ scalar, .plain _ => (scalar.read? record.payload).map .plain
  | .optional _ kind, .optional former =>
      (kind.merge? inner.message former record.payload).map fun value => .optional (some value)
  | .repeated _ kind, .repeated values =>
      (kind.merge? inner.message none record.payload).map fun value => .repeated (values ++ [value])
  | .choice variants, .choice former =>
      match variants.find? fun variant => variant.tag = record.tag with
      | some variant =>
          (variant.kind.merge? inner.message (chosen? record.tag former) record.payload).map
            fun value => .choice (some (record.tag, value))
      | none => none
  | .map _ type, .map entries =>
      match record.payload with
      | .delimited bytes =>
          (inner.entry type bytes).map fun (name, value) => .map (insertEntry name value entries)
      | _ => none
  | _, _ => none

end Slot

/-- This function merges a record into the slot of the field that has its tag. -/
def mergeRecord? (inner : Inner) : List Field → List Slot → Record → Option (List Slot)
  | field :: fields, slot :: slots, record =>
      if field.shape.tags.contains record.tag then
        (slot.merge? inner field.shape record).map fun slot => slot :: slots
      else (mergeRecord? inner fields slots record).map fun slots => slot :: slots
  | _, _, _ => none

/-- How the tags of a message are read. The records of a map have a length in any case. -/
def fieldReading (fields : List Field) (tag : Nat) : Record.Reading :=
  match fields.find? fun field => field.shape.tags.contains tag with
  | none => .skipped
  | some field =>
      match field.shape with
      | .map _ _ => .asDelimited
      | _ => .asWritten

/-- This function merges the records of a byte sequence into a message, given what is inside it. -/
def mergeRecords? (limit : Nat) (inner : Inner) (type : MessageType) (message : Value)
    (bytes : List UInt8) : Option Value :=
  match message with
  | .message slots => do
      let records ← Record.readAll? limit (fieldReading type.fields) bytes
      return .message (← records.foldlM (mergeRecord? inner type.fields) slots)
  | _ => none

/-- Nothing is left inside the last level. -/
def Inner.none : Inner := ⟨fun _ _ _ => Option.none, fun _ _ => Option.none⟩

mutual

/-- This function merges a byte sequence into a message with the given levels left inside it. -/
def merge? : Nat → Merge
  | 0 => mergeRecords? 0 .none
  | limit + 1 => mergeRecords? (limit + 1) ⟨merge? limit, pair? limit⟩

/-- The entry of a map with the given levels left inside it. -/
def pair? : Nat → MessageType → List UInt8 → Option (String × Value)
  | 0 => readPair? 0 fun _ _ _ => none
  | limit + 1 => readPair? (limit + 1) (merge? limit)

end

/-- The levels of nesting in a message. -/
def nestingLimit : Nat := 100

/-- The message that a byte sequence spells. -/
def decode? (type : MessageType) (bytes : List UInt8) : Option Value :=
  merge? nestingLimit type type.absent bytes

end MeshAccess.Wire
