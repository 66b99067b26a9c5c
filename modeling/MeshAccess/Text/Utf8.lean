/-!
This file holds the UTF-8 form of a text.

The reader walks over the bytes and keeps the character that it has begun. A byte that cannot go on
ends the begun character, and every ill-formed part counts as one item. The strict reader refuses
such a part, and the lenient reader puts the replacement character in its place.
-/

namespace MeshAccess.Text.Utf8

/-- The bytes of one character. -/
def encodeChar (character : Char) : List UInt8 :=
  let point := character.toNat
  if point < 0x80 then [point.toUInt8]
  else if point < 0x800 then [(0xC0 + point / 0x40).toUInt8, (0x80 + point % 0x40).toUInt8]
  else if point < 0x10000 then
    [(0xE0 + point / 0x1000).toUInt8, (0x80 + point / 0x40 % 0x40).toUInt8,
      (0x80 + point % 0x40).toUInt8]
  else
    [(0xF0 + point / 0x40000).toUInt8, (0x80 + point / 0x1000 % 0x40).toUInt8,
      (0x80 + point / 0x40 % 0x40).toUInt8, (0x80 + point % 0x40).toUInt8]

def encode (text : List Char) : List UInt8 := text.flatMap encodeChar

/-- A character that has begun. The next byte must lie between `low` and `high`. -/
structure Begun where
  value : Nat
  missing : Nat
  low : Nat
  high : Nat
  deriving DecidableEq, Repr

/-- This function reads a byte outside a character. It gives the finished items and what it began.
An item `none` stands for an ill-formed part. -/
def start (byte : UInt8) : List (Option Char) × Option Begun :=
  let lead := byte.toNat
  if lead < 0x80 then ([some (Char.ofNat lead)], none)
  else if lead < 0xC2 then ([none], none)
  else if lead < 0xE0 then ([], some ⟨lead - 0xC0, 1, 0x80, 0xBF⟩)
  else if lead < 0xF0 then
    ([], some ⟨lead - 0xE0, 2, if lead = 0xE0 then 0xA0 else 0x80,
      if lead = 0xED then 0x9F else 0xBF⟩)
  else if lead < 0xF5 then
    ([], some ⟨lead - 0xF0, 3, if lead = 0xF0 then 0x90 else 0x80,
      if lead = 0xF4 then 0x8F else 0xBF⟩)
  else ([none], none)

/-- This function reads one byte after the given beginning. -/
def step (begun : Option Begun) (byte : UInt8) : List (Option Char) × Option Begun :=
  match begun with
  | none => start byte
  | some state =>
      if state.low ≤ byte.toNat && byte.toNat ≤ state.high then
        let value := 0x40 * state.value + (byte.toNat - 0x80)
        if state.missing = 1 then ([some (Char.ofNat value)], none)
        else ([], some ⟨value, state.missing - 1, 0x80, 0xBF⟩)
      else
        let (items, next) := start byte
        (none :: items, next)

/-- The characters and ill-formed parts of a byte sequence in their order. -/
def items (begun : Option Begun) : List UInt8 → List (Option Char)
  | [] => if begun.isSome then [none] else []
  | byte :: rest =>
      let (done, next) := step begun byte
      done ++ items next rest

/-- The text of a well-formed byte sequence. -/
def decode? (bytes : List UInt8) : Option (List Char) := (items none bytes).mapM id

def replacement : Char := Char.ofNat 0xFFFD

/-- The text of any byte sequence, with a replacement character for each ill-formed part. -/
def decodeLenient (bytes : List UInt8) : List Char :=
  (items none bytes).map fun item => item.getD replacement

/-- The bytes of a string. -/
def bytes (text : String) : List UInt8 := encode text.toList

def string? (bytes : List UInt8) : Option String := (decode? bytes).map String.ofList

end MeshAccess.Text.Utf8
