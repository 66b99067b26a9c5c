import MeshAccess.Text.Utf8
import MeshAccess.Wire.Message
import MeshAccess.Wire.Record

/-!
This file writes messages.
-/

namespace MeshAccess.Wire

/-- The key of a record. -/
def writeKey (tag : Nat) (wireType : WireType) : List UInt8 :=
  Varint.encode (8 * tag + wireType.toNat)

/-- A payload with its length in front. -/
def delimit (payload : List UInt8) : List UInt8 := Varint.encode payload.length ++ payload

/-- The eight bytes of a word, the last one first. -/
def writeFixed64 (bits : Nat) : List UInt8 :=
  (List.range 8).map fun index => (bits / Nat.pow 256 index).toUInt8

namespace Scalar

def wireType : Scalar → WireType
  | .bool => .varint
  | .int32 => .varint
  | .uint32 => .varint
  | .double => .fixed64
  | .text => .delimited
  | .bytes => .delimited

end Scalar

namespace Kind

def wireType : Kind → WireType
  | .scalar type => type.wireType
  | .message _ => .delimited

end Kind

/-- The number that stands for a signed one, in two's complement with 64 bits. -/
def twosComplement (value : Int) : Nat := (value % Nat.pow 2 64).toNat

mutual

/-- The payload of a value. -/
def Value.write (kind : Kind) : Value → List UInt8
  | .bool value => Varint.encode (if value then 1 else 0)
  | .int32 value => Varint.encode (twosComplement value)
  | .uint32 value => Varint.encode value
  | .double bits => writeFixed64 bits
  | .text value => delimit (Text.Utf8.bytes value)
  | .bytes value => delimit value
  | .message slots =>
      match kind with
      | .message type => delimit (writeSlots type.fields slots)
      | .scalar _ => delimit []

/-- The records of a field. -/
def Slot.write (shape : Shape) : Slot → List UInt8
  | .plain value =>
      match shape with
      | .plain tag scalar =>
          if value.isZero then []
          else writeKey tag scalar.wireType ++ value.write (.scalar scalar)
      | _ => []
  | .optional none => []
  | .optional (some value) =>
      match shape with
      | .optional tag kind => writeKey tag kind.wireType ++ value.write kind
      | _ => []
  | .repeated values =>
      match shape with
      | .repeated tag kind => writeValues tag kind values
      | _ => []
  | .choice none => []
  | .choice (some (tag, value)) =>
      match shape with
      | .choice variants =>
          match variants.find? fun variant => variant.tag = tag with
          | some variant => writeKey tag variant.kind.wireType ++ value.write variant.kind
          | none => []
      | _ => []
  | .map entries =>
      match shape with
      | .map tag type => writeEntries tag type entries
      | _ => []

/-- The records of a message. -/
def writeSlots : List Field → List Slot → List UInt8
  | _, [] => []
  | [], _ => []
  | field :: fields, slot :: slots => slot.write field.shape ++ writeSlots fields slots

def writeValues (tag : Nat) (kind : Kind) : List Value → List UInt8
  | [] => []
  | value :: rest =>
      writeKey tag kind.wireType ++ value.write kind ++ writeValues tag kind rest

/-- The records of a map. An entry is a message of a name and a value, and neither of them is written
when it has its default value. -/
def writeEntries (tag : Nat) (type : MessageType) : List (String × Value) → List UInt8
  | [] => []
  | (name, value) :: rest =>
      let first :=
        if name.isEmpty then [] else writeKey 1 .delimited ++ delimit (Text.Utf8.bytes name)
      let second :=
        if value.isAbsent then [] else writeKey 2 .delimited ++ value.write (.message type)
      writeKey tag .delimited ++ delimit (first ++ second) ++ writeEntries tag type rest

end

/-- The bytes of a message. -/
def encode (type : MessageType) : Value → List UInt8
  | .message slots => writeSlots type.fields slots
  | _ => []

end MeshAccess.Wire
