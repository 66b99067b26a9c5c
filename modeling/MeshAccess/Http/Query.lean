import MeshAccess.Http.Uri
import MeshAccess.Text.Hex

/-!
This file holds the parameters of a query.

Parameters stand between ampersands, and the first equal sign parts a name from its value. A plus
sign stands for a blank, and a percent sign with two hexadecimal digits for a byte.
-/

namespace MeshAccess.Http

/-- The parameters in their order. -/
structure Query where
  parameters : List (String × String)
  deriving DecidableEq, Repr, Inhabited

namespace Query

def empty : Query := ⟨[]⟩

def hexValue? (byte : UInt8) : Option Nat := Text.Hex.value? (Char.ofNat byte.toNat)

/-- A plus sign stands for a blank. -/
def plain (byte : UInt8) : UInt8 := if byte = Uri.code '+' then 0x20 else byte

/-- The byte of an escape, given by its three bytes. -/
def escaped? (mark high low : UInt8) : Option UInt8 := do
  if mark ≠ Uri.code '%' then none
  let first ← hexValue? high
  let second ← hexValue? low
  return (16 * first + second).toUInt8

/-- This function replaces the escapes of a name or value. A percent sign without two digits stands
for itself. -/
def unescape : List UInt8 → List UInt8
  | first :: second :: third :: rest =>
      match escaped? first second third with
      | some byte => byte :: unescape rest
      | none => plain first :: unescape (second :: third :: rest)
  | first :: rest => plain first :: unescape rest
  | [] => []

def decode (bytes : List UInt8) : String :=
  String.ofList (Text.Utf8.decodeLenient (unescape bytes))

/-- The parts of a byte sequence between separators. -/
def split (separator : UInt8) : List UInt8 → List (List UInt8)
  | [] => [[]]
  | byte :: rest =>
      match split separator rest with
      | [] => [[byte]]
      | part :: parts => if byte = separator then [] :: part :: parts else (byte :: part) :: parts

def parameter (part : List UInt8) : String × String :=
  (decode (part.takeWhile (· ≠ Uri.code '=')), decode ((part.dropWhile (· ≠ Uri.code '=')).drop 1))

/-- The parameters of a byte sequence. Empty parts do not count. -/
def ofBytes (bytes : List UInt8) : Query :=
  ⟨((split (Uri.code '&') bytes).filter fun part => !part.isEmpty).map parameter⟩

/-- The bytes without one leading question mark. -/
def dropMark : List UInt8 → List UInt8
  | [] => []
  | byte :: rest => if byte = Uri.code '?' then rest else byte :: rest

/-- The parameters of a query, with or without its question mark. -/
def ofText (text : String) : Query := ofBytes (dropMark (Text.Utf8.bytes text))

/-- The parameters of an address. -/
def ofUri (uri : Uri) : Query :=
  match uri.query with
  | some bytes => ofBytes (dropMark bytes)
  | none => empty

/-- The first value of a name. -/
def first? (query : Query) (name : String) : Option String := query.parameters.lookup name

end Query

end MeshAccess.Http
