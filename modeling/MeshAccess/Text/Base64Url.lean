/-!
This file holds the base64 form of a byte sequence over the alphabet for URLs, without padding.

Three bytes become four characters. One or two bytes at the end become two or three characters, and
the reader refuses a last character whose unused bits are not zero.
-/

namespace MeshAccess.Text.Base64Url

/-- The character for a value below 64. -/
def digit (value : Nat) : Char :=
  if value < 26 then Char.ofNat ('A'.toNat + value)
  else if value < 52 then Char.ofNat ('a'.toNat + (value - 26))
  else if value < 62 then Char.ofNat ('0'.toNat + (value - 52))
  else if value = 62 then '-'
  else '_'

def value? (character : Char) : Option Nat :=
  if 'A' ≤ character && character ≤ 'Z' then some (character.toNat - 'A'.toNat)
  else if 'a' ≤ character && character ≤ 'z' then some (character.toNat - 'a'.toNat + 26)
  else if character.isDigit then some (character.toNat - '0'.toNat + 52)
  else if character = '-' then some 62
  else if character = '_' then some 63
  else none

def encode : List UInt8 → List Char
  | [] => []
  | [first] =>
      let bits := first.toNat * 16
      [digit (bits / 64), digit (bits % 64)]
  | [first, second] =>
      let bits := (first.toNat * 256 + second.toNat) * 4
      [digit (bits / 4096), digit (bits / 64 % 64), digit (bits % 64)]
  | first :: second :: third :: rest =>
      let bits := (first.toNat * 256 + second.toNat) * 256 + third.toNat
      digit (bits / 262144) :: digit (bits / 4096 % 64) :: digit (bits / 64 % 64) ::
        digit (bits % 64) :: encode rest

/-- The bytes of a sequence of digit values. -/
def join : List Nat → Option (List UInt8)
  | [] => some []
  | [_] => none
  | [first, second] =>
      if second % 16 = 0 then some [(first * 4 + second / 16).toUInt8] else none
  | [first, second, third] =>
      if third % 4 = 0 then
        let bits := (first * 64 + second) * 16 + third / 4
        some [(bits / 256).toUInt8, (bits % 256).toUInt8]
      else none
  | first :: second :: third :: fourth :: rest => do
      let bits := ((first * 64 + second) * 64 + third) * 64 + fourth
      let tail ← join rest
      return (bits / 65536).toUInt8 :: (bits / 256 % 256).toUInt8 :: (bits % 256).toUInt8 :: tail

def decode? (text : List Char) : Option (List UInt8) := (text.mapM value?).bind join

end MeshAccess.Text.Base64Url
