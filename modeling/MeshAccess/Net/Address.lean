import MeshAccess.Text.Blank
import MeshAccess.Text.Hex

/-!
This file holds internet addresses and their text forms.
-/

namespace MeshAccess.Net

/-- An address of one of the two families. -/
inductive Address where
  | v4 (bits : BitVec 32)
  | v6 (bits : BitVec 128)
  deriving DecidableEq, Repr

namespace Address

/-- A reader takes a value from the front of a text and gives the rest. -/
abbrev Reader (α : Type) := List Char → Option (α × List Char)

def decimalDigit? (character : Char) : Option Nat :=
  if character.isDigit then some (character.toNat - '0'.toNat) else none

/-- The digits at the front of a text. -/
def digits (value? : Char → Option Nat) : List Char → List Nat × List Char
  | [] => ([], [])
  | character :: rest =>
      match value? character with
      | some digit =>
          let (others, rest) := digits value? rest
          (digit :: others, rest)
      | none => ([], character :: rest)

def number (radix : Nat) (digits : List Nat) : Nat :=
  digits.foldl (fun value digit => radix * value + digit) 0

/-- An octet has up to three decimal digits, no needless zero in front and a value below 256. -/
def readOctet : Reader Nat := fun text =>
  let (found, rest) := digits decimalDigit? text
  let value := number 10 found
  if found.isEmpty || 3 < found.length || (found.head? = some 0 && found.length ≠ 1) ||
    255 < value then none
  else some (value, rest)

/-- A group has up to four hexadecimal digits. -/
def readGroup : Reader Nat := fun text =>
  let (found, rest) := digits Text.Hex.value? text
  if found.isEmpty || 4 < found.length then none else some (number 16 found, rest)

def readCharacter (expected : Char) : Reader Unit
  | [] => none
  | character :: rest => if character = expected then some ((), rest) else none

/-- Four octets with points between them. -/
def readV4 : Reader Nat := fun text => do
  let (first, text) ← readOctet text
  let (_, text) ← readCharacter '.' text
  let (second, text) ← readOctet text
  let (_, text) ← readCharacter '.' text
  let (third, text) ← readOctet text
  let (_, text) ← readCharacter '.' text
  let (fourth, text) ← readOctet text
  return (((first * 256 + second) * 256 + third) * 256 + fourth, text)

/-- Every value but the first one follows a colon. -/
def afterColon {α : Type} (isFirst : Bool) (reader : Reader α) : Reader α := fun text =>
  if isFirst then reader text
  else (readCharacter ':' text).bind fun (_, rest) => reader rest

/-- At most `room` groups with colons between them. The last two groups may be written as four
octets, and the flag tells whether they are. -/
def readGroups (isFirst : Bool) : Nat → List Char → (List Nat × Bool) × List Char
  | 0, text => (([], false), text)
  | room + 1, text =>
      match if 0 < room then afterColon isFirst readV4 text else none with
      | some (value, rest) => (([value / 65536, value % 65536], true), rest)
      | none =>
          match afterColon isFirst readGroup text with
          | some (group, rest) =>
              let ((groups, isMixed), rest) := readGroups false room rest
              ((group :: groups, isMixed), rest)
          | none => (([], false), text)

/-- Eight groups, or fewer of them around two colons that stand for one zero group at least. -/
def readV6 : Reader Nat := fun text =>
  let ((head, isMixed), text) := readGroups true 8 text
  if head.length = 8 then some (number 65536 head, text)
  else if isMixed then none
  else do
    let (_, text) ← readCharacter ':' text
    let (_, text) ← readCharacter ':' text
    let ((tail, _), text) := readGroups true (7 - head.length) text
    let zeros := List.replicate (8 - head.length - tail.length) 0
    return (number 65536 (head ++ zeros ++ tail), text)

/-- The address that a whole text spells. -/
def ofText? (text : List Char) : Option Address :=
  match readV4 text with
  | some (value, rest) => if rest.isEmpty then some (.v4 (BitVec.ofNat 32 value)) else none
  | none =>
      match readV6 text with
      | some (value, []) => some (.v6 (BitVec.ofNat 128 value))
      | _ => none

/-- The address that a text spells between blanks. -/
def parse? (text : String) : Option Address := ofText? (Text.Blank.trimList text.toList)

end Address

end MeshAccess.Net
