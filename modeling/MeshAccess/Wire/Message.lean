import MeshAccess.Wire.Schema

/-!
This file holds the values of messages.

A message has one slot for each field of its type, in the same order.
-/

namespace MeshAccess.Wire

mutual

/-- A value of a field. -/
inductive Value where
  | bool (value : Bool)
  | int32 (value : Int)
  | uint32 (value : Nat)
  /-- The 64 bits of a floating-point number. -/
  | double (bits : Nat)
  | text (value : String)
  | bytes (value : List UInt8)
  | message (slots : List Slot)

/-- What a message has for one field. A choice gives the tag of the variant. The entries of a map
stand in ascending order of their names. -/
inductive Slot where
  | plain (value : Value)
  | optional (value : Option Value)
  | repeated (values : List Value)
  | choice (variant : Option (Nat × Value))
  | map (entries : List (String × Value))

end

instance : Inhabited Value := ⟨.message []⟩

instance : Inhabited Slot := ⟨.optional none⟩

namespace Value

/-- The default value of a scalar. -/
def zero : Scalar → Value
  | .bool => .bool false
  | .int32 => .int32 0
  | .uint32 => .uint32 0
  | .double => .double 0
  | .text => .text ""
  | .bytes => .bytes []

/-- A scalar has its default value. -/
def isZero : Value → Bool
  | .bool value => !value
  | .int32 value => value = 0
  | .uint32 value => value = 0
  | .double bits => bits = 0
  | .text value => value.isEmpty
  | .bytes value => value.isEmpty
  | .message _ => false

end Value

namespace Slot

/-- The slot of a field that is not there. -/
def absent : Shape → Slot
  | .plain _ scalar => .plain (.zero scalar)
  | .optional _ _ => .optional none
  | .repeated _ _ => .repeated []
  | .choice _ => .choice none
  | .map _ _ => .map []

def isAbsent : Slot → Bool
  | .plain value => value.isZero
  | .optional value => value.isNone
  | .repeated values => values.isEmpty
  | .choice variant => variant.isNone
  | .map entries => entries.isEmpty

end Slot

/-- A message has no field. -/
def Value.isAbsent : Value → Bool
  | .message slots => slots.all Slot.isAbsent
  | _ => false

namespace Slot

/-- This function puts an entry into the sorted entries of a map. -/
def insertEntry (name : String) (value : Value) : List (String × Value) → List (String × Value)
  | [] => [(name, value)]
  | head :: rest =>
      if name < head.1 then (name, value) :: head :: rest
      else if name = head.1 then (name, value) :: rest
      else head :: insertEntry name value rest

end Slot

namespace MessageType

/-- The slots of a message without any field. -/
def absentSlots (type : MessageType) : List Slot := type.fields.map fun field => .absent field.shape

/-- The message of a type without any field. -/
def absent (type : MessageType) : Value := .message type.absentSlots

end MessageType

end MeshAccess.Wire
