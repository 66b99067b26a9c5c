import MeshAccess.Json.Document

/-!
This file holds JSON values.

The value of an object is a map. Its members are in ascending order of their names, and among
members of one name the last one counts.
-/

namespace MeshAccess

/-- A JSON value. -/
inductive Json where
  | null
  | bool (value : Bool)
  | number (value : Json.Number)
  | string (value : String)
  | array (items : List Json)
  | object (members : List (String × Json))
  deriving Repr, Inhabited

namespace Json

def ofInt (value : Int) : Json := .number (.integer value)

def ofNat (value : Nat) : Json := .number (.integer value)

/-- This function puts a member into a sorted list, in place of a member of the same name. -/
def insertMember (name : String) (value : Json) : List (String × Json) → List (String × Json)
  | [] => [(name, value)]
  | head :: rest =>
      if name < head.1 then (name, value) :: head :: rest
      else if name = head.1 then (name, value) :: rest
      else head :: insertMember name value rest

/-- The object with the given members. -/
def ofMembers (members : List (String × Json)) : Json :=
  .object (members.foldl (fun sorted member => insertMember member.1 member.2 sorted) [])

/-- The member of the given name, when the value is an object that has it. -/
def member? (value : Json) (name : String) : Option Json :=
  match value with
  | .object members => members.lookup name
  | _ => none

def string? : Json → Option String
  | .string value => some value
  | _ => none

def array? : Json → Option (List Json)
  | .array items => some items
  | _ => none

def object? : Json → Option (List (String × Json))
  | .object members => some members
  | _ => none

def bool? : Json → Option Bool
  | .bool value => some value
  | _ => none

def integer? : Json → Option Int
  | .number (.integer value) => some value
  | _ => none

end Json

namespace Json.Document

mutual

/-- The value of a document. There is none when a number is out of range. -/
def value? : Document → Option Json
  | .null => some .null
  | .bool value => some (.bool value)
  | .number numeral => (Json.Number.ofNumeral? numeral).map .number
  | .string value => some (.string value)
  | .array items => (values? items).map .array
  | .object members => (memberValues? members).map Json.ofMembers

def values? : List Document → Option (List Json)
  | [] => some []
  | item :: rest => do
      let value ← item.value?
      return value :: (← values? rest)

def memberValues? : List (String × Document) → Option (List (String × Json))
  | [] => some []
  | (name, item) :: rest => do
      let value ← item.value?
      return (name, value) :: (← memberValues? rest)

end

end Json.Document

namespace Json

/-- The number of containers that may stand inside each other. -/
def depthLimit : Nat := 127

/-- The value of a text whose nesting is at most `limit` deep. -/
def readWithin? (limit : Nat) (text : List Char) : Option Json := do
  let document ← Document.read? text
  if document.depth ≤ limit then document.value? else none

/-- The value of a text. -/
def read? (text : String) : Option Json := readWithin? depthLimit text.toList

end Json

end MeshAccess
