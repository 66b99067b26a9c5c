import MeshAccess.Text.Utf8

/-!
This file holds the header fields of a request.

Names are compared without case. Values are byte sequences, and only values of visible ASCII
characters, blanks and tabs can be read as texts.
-/

namespace MeshAccess.Http

/-- The characters of a header name beside letters and digits. -/
def tokenMarks : List Char :=
  ['!', '#', '$', '%', '&', '\'', '*', '+', '-', '.', '^', '_', '\x60', '|', '~']

def isTokenCharacter (character : Char) : Bool :=
  character.isAlphanum || tokenMarks.contains character

/-- The longest header name. -/
def maxNameLength : Nat := 65535

/-- A header name in lower case. -/
structure HeaderName where
  text : String
  deriving DecidableEq, Repr

namespace HeaderName

/-- The name that a text spells. A name is a token, and it is not empty. -/
def ofText? (text : String) : Option HeaderName :=
  let characters := text.toList
  if characters.isEmpty || maxNameLength < characters.length then none
  else if characters.all isTokenCharacter then
    some ⟨String.ofList (characters.map Char.toLower)⟩
  else none

def authorization : HeaderName := ⟨"authorization"⟩

end HeaderName

/-- The bytes of a header value. -/
structure HeaderValue where
  bytes : List UInt8
  deriving DecidableEq, Repr

namespace HeaderValue

/-- Control characters other than the tab cannot stand in a value. -/
def isValidByte (byte : UInt8) : Bool := (0x20 ≤ byte.toNat && byte.toNat ≠ 0x7F) || byte = 9

def ofBytes? (bytes : List UInt8) : Option HeaderValue :=
  if bytes.all isValidByte then some ⟨bytes⟩ else none

/-- The bytes that can be read as text. -/
def isReadableByte (byte : UInt8) : Bool :=
  (0x20 ≤ byte.toNat && byte.toNat < 0x7F) || byte = 9

/-- The text of a value whose bytes all can be read. -/
def text? (value : HeaderValue) : Option String :=
  if value.bytes.all isReadableByte then
    some (String.ofList (value.bytes.map fun byte => Char.ofNat byte.toNat))
  else none

end HeaderValue

/-- The header fields in the order of their arrival. -/
structure Headers where
  fields : List (HeaderName × HeaderValue)
  deriving DecidableEq, Repr, Inhabited

/-- The reasons why a list of fields is no header. -/
inductive HeaderError where
  | invalidName
  | invalidValue
  deriving DecidableEq, Repr

namespace Headers

def empty : Headers := ⟨[]⟩

/-- The header with the given names and values. The first wrong field decides about the error, and
in a field the name comes first. -/
def ofFields : List (String × List UInt8) → Except HeaderError Headers
  | [] => .ok empty
  | (name, bytes) :: rest =>
      match HeaderName.ofText? name with
      | none => .error .invalidName
      | some name =>
          match HeaderValue.ofBytes? bytes with
          | none => .error .invalidValue
          | some value =>
              match ofFields rest with
              | .ok headers => .ok ⟨(name, value) :: headers.fields⟩
              | .error cause => .error cause

/-- The values of a name in their order. -/
def valuesOf (headers : Headers) (name : HeaderName) : List HeaderValue :=
  (headers.fields.filter fun field => field.1 = name).map Prod.snd

/-- The values of the name that a text spells. A text that is no name has none. -/
def values (headers : Headers) (name : String) : List HeaderValue :=
  match HeaderName.ofText? name with
  | some name => headers.valuesOf name
  | none => []

/-- The values that can be read as texts. -/
def readable (headers : Headers) (name : String) : List String :=
  (headers.values name).filterMap HeaderValue.text?

/-- The first value that can be read as text. -/
def firstReadable? (headers : Headers) (name : String) : Option String :=
  (headers.readable name).head?

def hasName (headers : Headers) (name : String) : Bool := !(headers.values name).isEmpty

end Headers

end MeshAccess.Http
