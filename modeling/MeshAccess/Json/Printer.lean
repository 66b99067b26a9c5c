import MeshAccess.Json.Value

/-!
This file writes JSON values without blanks between the tokens.
-/

namespace MeshAccess.Json

/-- How a program writes floating-point numbers. -/
structure FloatFormat where
  /-- The least power of ten of the first digit that is written with leading zeros. -/
  leastPositional : Int
  /-- The first power of ten of the first digit that is written with an exponent. -/
  firstScientific : Int
  /-- Whole numbers keep a zero after the point. -/
  wholeFraction : List Char
  /-- The mark before the exponent, and the sign of an exponent that is not negative. -/
  exponentMark : Char
  positiveSign : List Char
  deriving DecidableEq, Repr

/-- Numbers from 0.00001 up to ten quadrillions stand without an exponent. -/
def floatFormat : FloatFormat := ⟨-5, 16, ['.', '0'], 'e', ['+']⟩

def decimalDigits (value : Nat) : List Char := (toString value).toList

/-- This function writes `digits * 10 ^ power`, which is not zero, in the given format. -/
def FloatFormat.writeDigits (format : FloatFormat) (number : Decimal.Digits) : List Char :=
  let digits := decimalDigits number.digits
  let first := (digits.length : Int) - 1 + number.power
  if format.leastPositional ≤ first && first < format.firstScientific then
    if 0 ≤ number.power then
      digits ++ List.replicate number.power.natAbs '0' ++ format.wholeFraction
    else if 0 ≤ first then
      let whole := first.natAbs + 1
      digits.take whole ++ '.' :: digits.drop whole
    else '0' :: '.' :: List.replicate (first.natAbs - 1) '0' ++ digits
  else
    let fraction := if digits.length = 1 then [] else '.' :: digits.drop 1
    let sign := if first < 0 then ['-'] else format.positiveSign
    digits.take 1 ++ fraction ++ format.exponentMark :: sign ++ decimalDigits first.natAbs

def FloatFormat.write (format : FloatFormat) (number : Decimal.Binary64) : List Char :=
  let sign := if number.negative then ['-'] else []
  if number.magnitude.word = 0 then sign ++ '0' :: format.wholeFraction
  else sign ++ format.writeDigits number.magnitude.shortest

def Number.write : Number → List Char
  | .integer value =>
      if value < 0 then '-' :: decimalDigits value.natAbs else decimalDigits value.natAbs
  | .float value => floatFormat.write value

/-- This function writes one character of a string. -/
def escape (character : Char) : List Char :=
  if character = '"' then ['\\', '"']
  else if character = '\\' then ['\\', '\\']
  else if character = '\n' then ['\\', 'n']
  else if character = '\r' then ['\\', 'r']
  else if character = '\t' then ['\\', 't']
  else if character = Char.ofNat 0x8 then ['\\', 'b']
  else if character = Char.ofNat 0xC then ['\\', 'f']
  else if character.toNat < 0x20 then
    ['\\', 'u', '0', '0', Text.Hex.digit (character.toNat / 16),
      Text.Hex.digit (character.toNat % 16)]
  else [character]

def quote (text : String) : List Char := '"' :: text.toList.flatMap escape ++ ['"']

mutual

def write : Json → List Char
  | .null => ['n', 'u', 'l', 'l']
  | .bool true => ['t', 'r', 'u', 'e']
  | .bool false => ['f', 'a', 'l', 's', 'e']
  | .number value => value.write
  | .string value => quote value
  | .array items => '[' :: writeItems items ++ [']']
  | .object members => '\x7b' :: writeMembers members ++ ['\x7d']

/-- This function writes values with commas between them. -/
def writeItems : List Json → List Char
  | [] => []
  | [item] => item.write
  | item :: rest => item.write ++ ',' :: writeItems rest

def writeMembers : List (String × Json) → List Char
  | [] => []
  | [(name, item)] => quote name ++ ':' :: item.write
  | (name, item) :: rest => quote name ++ ':' :: item.write ++ ',' :: writeMembers rest

end

/-- The text of a value. -/
def print (value : Json) : String := String.ofList value.write

end MeshAccess.Json
