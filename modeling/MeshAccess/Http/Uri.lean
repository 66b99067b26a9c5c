import MeshAccess.Text.Utf8

/-!
This file reads the address of a resource.

An address is a path with a query, a host alone, or a scheme with a host, a path and a query.
-/

namespace MeshAccess.Http

/-- The query of an address is what follows the first question mark, without the fragment. -/
structure Uri where
  scheme : List UInt8
  authority : List UInt8
  path : List UInt8
  query : Option (List UInt8)
  deriving DecidableEq, Repr

namespace Uri

def code (character : Char) : UInt8 := character.toNat.toUInt8

def isLetter (byte : UInt8) : Bool :=
  (0x41 ≤ byte.toNat && byte.toNat ≤ 0x5A) || (0x61 ≤ byte.toNat && byte.toNat ≤ 0x7A)

def isDigit (byte : UInt8) : Bool := 0x30 ≤ byte.toNat && byte.toNat ≤ 0x39

/-- The bytes that may stand in the path without an escape. Bytes above ASCII may stand too. -/
def isPathByte (byte : UInt8) : Bool :=
  let value := byte.toNat
  value = 0x21 || value = 0x22 || (0x24 ≤ value && value ≤ 0x3B) || value = 0x3D ||
    (0x40 ≤ value && value ≤ 0x5F) || (0x61 ≤ value && value ≤ 0xFF)

/-- The bytes that may stand in the query. -/
def isQueryByte (byte : UInt8) : Bool :=
  let value := byte.toNat
  value = 0x21 || (0x24 ≤ value && value ≤ 0x3B) || value = 0x3D ||
    (0x3F ≤ value && value ≤ 0xFF)

def isUtf8 (bytes : List UInt8) : Bool := (Text.Utf8.decode? bytes).isSome

/-- The path and the query of a text without a host. A fragment at the end does not count. -/
def readPath? (bytes : List UInt8) : Option (List UInt8 × Option (List UInt8)) :=
  let isEnd := fun byte => byte = code '?' || byte = code '#'
  let path := bytes.takeWhile fun byte => !isEnd byte
  if !path.all isPathByte then none
  else
    match bytes.dropWhile fun byte => !isEnd byte with
    | [] => if isUtf8 path then some (path, none) else none
    | mark :: rest =>
        if mark = code '#' then if isUtf8 path then some (path, none) else none
        else
          let query := rest.takeWhile (· ≠ code '#')
          if query.all isQueryByte && isUtf8 path && isUtf8 query then some (path, some query)
          else none

/-- The bytes of a scheme. -/
def isSchemeByte (byte : UInt8) : Bool :=
  isLetter byte || isDigit byte || byte = code '+' || byte = code '-' || byte = code '.' ||
    byte = code '~'

/-- The longest scheme. -/
def maxSchemeLength : Nat := 64

/-- The scheme in front of a text and the text after it. A scheme ends with a colon and two slashes,
and a text of three bytes has none. -/
def splitScheme? (bytes : List UInt8) : Option (List UInt8 × List UInt8) :=
  match bytes.dropWhile isSchemeByte with
  | first :: second :: third :: rest =>
      if first = code ':' && second = code '/' && third = code '/' && bytes.length ≠ 3 then
        some (bytes.takeWhile isSchemeByte, rest)
      else none
  | _ => none

/-- The bytes of an address that need no escape. -/
def isAddressByte (byte : UInt8) : Bool :=
  isLetter byte || isDigit byte ||
    (['!', '#', '$', '&', '\'', '(', ')', '*', '+', ',', '-', '.', '/', ':', ';', '=', '?', '@',
      '[', ']', '_', '~'].map code).contains byte

/-- What a host has shown so far. Colons and escapes before an at sign do not count, and neither do
those inside square brackets. -/
structure HostState where
  colons : Nat
  opened : Bool
  closed : Bool
  hasEscape : Bool
  endsWithAt : Bool
  deriving DecidableEq, Repr

/-- The most colons of a host in square brackets. -/
def maxColons : Nat := 8

/-- This function reads one byte of a host. -/
def hostStep? (state : HostState) (byte : UInt8) : Option HostState :=
  let state := { state with endsWithAt := false }
  if byte = code ':' then
    if maxColons ≤ state.colons then none else some { state with colons := state.colons + 1 }
  else if byte = code '[' then
    if state.hasEscape || state.opened then none else some { state with opened := true }
  else if byte = code ']' then
    if !state.opened || state.closed then none
    else some { state with closed := true, colons := 0, hasEscape := false }
  else if byte = code '@' then
    some { state with endsWithAt := true, colons := 0, hasEscape := false }
  else if byte = code '%' then some { state with hasEscape := true }
  else if isAddressByte byte then some state
  else none

/-- A host has its brackets in pairs, one port at most, no escape, and something after an at sign. -/
def isHost (bytes : List UInt8) : Bool :=
  match bytes.foldlM hostStep? ⟨0, false, false, false, false⟩ with
  | some state =>
      state.opened = state.closed && state.colons ≤ 1 && !state.endsWithAt && !state.hasEscape
  | none => false

def endsHost (byte : UInt8) : Bool :=
  byte = code '/' || byte = code '?' || byte = code '#'

/-- The longest address. -/
def maxLength : Nat := 65534

/-- The address that a byte sequence spells. A text without a scheme and without a leading slash is
a host. A star alone is a path. -/
def ofBytes? (bytes : List UInt8) : Option Uri :=
  if bytes.isEmpty || maxLength < bytes.length then none
  else if bytes = [code '*'] then some ⟨[], [], bytes, none⟩
  else if bytes.head? = some (code '/') then
    (readPath? bytes).map fun (path, query) => ⟨[], [], path, query⟩
  else
    match splitScheme? bytes with
    | none => if isHost bytes && !bytes.any endsHost then some ⟨[], bytes, [], none⟩ else none
    | some (scheme, rest) =>
        let host := rest.takeWhile fun byte => !endsHost byte
        if maxSchemeLength < scheme.length || host.isEmpty || !isHost host then none
        else (readPath? (rest.dropWhile fun byte => !endsHost byte)).map fun (path, query) =>
          ⟨scheme, host, path, query⟩

def ofText? (text : String) : Option Uri := ofBytes? (Text.Utf8.bytes text)

end Uri

end MeshAccess.Http
