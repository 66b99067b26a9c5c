import MeshAccess.Json.Token

/-!
This file reads a JSON text as it is written.

A document keeps the spelling of every number and the order of the members of an object, where a
name may stand more than once. The reader is a machine with a stack of the containers that are open.
-/

namespace MeshAccess.Json

/-- A JSON text as it is written. -/
inductive Document where
  | null
  | bool (value : Bool)
  | number (value : Numeral)
  | string (value : String)
  | array (items : List Document)
  | object (members : List (String × Document))
  deriving Repr, Inhabited

namespace Document

/-- A container that is open. Finished parts are kept in reverse order. -/
inductive Frame where
  | array (reversed : List Document)
  | object (reversed : List (String × Document)) (name : String)
  deriving Repr

/-- What the reader expects next. -/
inductive Expectation where
  | value
  | firstItem
  | afterValue
  | firstName (reversed : List (String × Document))
  | name (reversed : List (String × Document))
  | colon (reversed : List (String × Document)) (name : String)
  | done (document : Document)
  deriving Repr

structure Reader where
  frames : List Frame
  expects : Expectation
  deriving Repr

/-- This function puts a finished value where it belongs. -/
def Reader.deliver (document : Document) : List Frame → Reader
  | [] => ⟨[], .done document⟩
  | .array reversed :: frames => ⟨.array (document :: reversed) :: frames, .afterValue⟩
  | .object reversed name :: frames =>
      ⟨.object ((name, document) :: reversed) name :: frames, .afterValue⟩

/-- This function reads the first token of a value. -/
def Reader.startValue (frames : List Frame) : Token → Option Reader
  | .null => some (deliver .null frames)
  | .bool value => some (deliver (.bool value) frames)
  | .numeral value => some (deliver (.number value) frames)
  | .string value => some (deliver (.string value) frames)
  | .openArray => some ⟨.array [] :: frames, .firstItem⟩
  | .openObject => some ⟨frames, .firstName []⟩
  | _ => none

/-- This function reads one token. -/
def Reader.step (reader : Reader) (token : Token) : Option Reader :=
  match reader.expects, token with
  | .value, token => startValue reader.frames token
  | .firstItem, .closeArray => some (deliver (.array []) reader.frames.tail)
  | .firstItem, token => startValue reader.frames token
  | .firstName _, .closeObject => some (deliver (.object []) reader.frames)
  | .firstName reversed, .string name => some ⟨reader.frames, .colon reversed name⟩
  | .name reversed, .string name => some ⟨reader.frames, .colon reversed name⟩
  | .colon reversed name, .colon => some ⟨.object reversed name :: reader.frames, .value⟩
  | .afterValue, .comma =>
      match reader.frames with
      | .array _ :: _ => some ⟨reader.frames, .value⟩
      | .object reversed _ :: frames => some ⟨frames, .name reversed⟩
      | [] => none
  | .afterValue, .closeArray =>
      match reader.frames with
      | .array reversed :: frames => some (deliver (.array reversed.reverse) frames)
      | _ => none
  | .afterValue, .closeObject =>
      match reader.frames with
      | .object reversed _ :: frames => some (deliver (.object reversed.reverse) frames)
      | _ => none
  | _, _ => none

def Reader.run (reader : Reader) : List Token → Option Reader
  | [] => some reader
  | token :: rest =>
      match reader.step token with
      | some next => next.run rest
      | none => none

/-- The document that a text spells. -/
def read? (text : List Char) : Option Document := do
  let tokens ← Token.ofText? text
  let reader ← Reader.run ⟨[], .value⟩ tokens
  match reader.expects with
  | .done document => some document
  | _ => none

mutual

/-- The number of containers that stand inside each other at the deepest place. -/
def depth : Document → Nat
  | .array items => depthItems items + 1
  | .object members => depthMembers members + 1
  | _ => 0

def depthItems : List Document → Nat
  | [] => 0
  | item :: rest => max item.depth (depthItems rest)

def depthMembers : List (String × Document) → Nat
  | [] => 0
  | (_, item) :: rest => max item.depth (depthMembers rest)

end

end Document

end MeshAccess.Json
