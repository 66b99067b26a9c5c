import MeshAccess.Json.Value

/-!
This file reads records from JSON documents.

A record has fields with fixed names. Each of them may stand at most once, and unknown members do
not count. A record may also be written as the array of all its fields in their order.
-/

namespace MeshAccess.Json.Record

/-- The members of a record with the given field names. -/
def members? (names : List String) : Document → Option (List (String × Document))
  | .object members => some members
  | .array items => if items.length = names.length then some (names.zip items) else none
  | _ => none

/-- The members of a record whose fields may all be missing. Its array may also leave out fields at
the end. -/
def leadingMembers? (names : List String) : Document → Option (List (String × Document))
  | .object members => some members
  | .array items => if items.length ≤ names.length then some (names.zip items) else none
  | _ => none

/-- The field of the given name, which may be absent. There is no answer if it stands twice. -/
def field? (members : List (String × Document)) (name : String) : Option (Option Document) :=
  match members.filter fun member => member.1 = name with
  | [] => some none
  | [member] => some (some member.2)
  | _ => none

/-- The field of the given name, which must be there. -/
def requiredField? (members : List (String × Document)) (name : String) : Option Document :=
  (field? members name).join

/-- The value of an optional field. A field that is null counts as absent. -/
def optional? {α : Type} (read? : Document → Option α) (members : List (String × Document))
    (name : String) : Option (Option α) := do
  match ← field? members name with
  | none => return none
  | some .null => return none
  | some document => return some (← read? document)

/-- The value of a field that must be there. -/
def required? {α : Type} (read? : Document → Option α) (members : List (String × Document))
    (name : String) : Option α :=
  (requiredField? members name).bind read?

/-- The value of a field with a value of its own when it is absent. -/
def withDefault? {α : Type} (value : α) (read? : Document → Option α)
    (members : List (String × Document)) (name : String) : Option α := do
  match ← field? members name with
  | none => return value
  | some document => read? document

def bool? : Document → Option Bool
  | .bool value => some value
  | _ => none

/-- A natural number up to a limit, written without a point and an exponent. -/
def natural? (limit : Nat) : Document → Option Nat
  | .number numeral =>
      match Json.Number.ofNumeral? numeral with
      | some (.integer value) =>
          if 0 ≤ value && value ≤ limit then some value.toNat else none
      | _ => none
  | _ => none

def text? : Document → Option String
  | .string value => some value
  | _ => none

def texts? : Document → Option (List String)
  | .array items => items.mapM text?
  | _ => none

/-- A choice is written as its name or as an object that gives null under its name. -/
def choice? : Document → Option String
  | .string name => some name
  | .object [(name, .null)] => some name
  | _ => none

end MeshAccess.Json.Record
