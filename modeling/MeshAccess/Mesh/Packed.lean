import MeshAccess.Wire.Reader

/-!
This file holds messages that are packed with the name of their type.
-/

namespace MeshAccess.Mesh

open Wire

/-- The bytes of a message with the name of its type. -/
structure Packed where
  typeUrl : String
  content : List UInt8
  deriving DecidableEq, Repr, Inhabited

namespace Packed

def ofMessage : Value → Packed
  | .message [.plain (.text typeUrl), .plain (.bytes content)] => ⟨typeUrl, content⟩
  | _ => default

end Packed

/-- A filter with a packed configuration. -/
structure Filter where
  name : String
  config : Option Packed
  deriving DecidableEq, Repr, Inhabited

def Filter.ofMessage : Value → Filter
  | .message [.plain (.text name), .optional config] => ⟨name, config.map Packed.ofMessage⟩
  | _ => default

end MeshAccess.Mesh
