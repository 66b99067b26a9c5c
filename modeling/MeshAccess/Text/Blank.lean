/-!
This file removes the blanks around a text.

The blanks are the characters with the Unicode property White_Space.
-/

namespace MeshAccess.Text.Blank

def isBlank (character : Char) : Bool :=
  let point := character.toNat
  (0x9 ≤ point && point ≤ 0xD) || point = 0x20 || point = 0x85 || point = 0xA0 ||
    point = 0x1680 || (0x2000 ≤ point && point ≤ 0x200A) || point = 0x2028 || point = 0x2029 ||
    point = 0x202F || point = 0x205F || point = 0x3000

/-- The text from its first character that is no blank to its last one. -/
def trimList (text : List Char) : List Char :=
  (((text.dropWhile isBlank).reverse).dropWhile isBlank).reverse

def trim (text : String) : String := String.ofList (trimList text.toList)

/-- A text is blank when no character other than a blank is in it. -/
def isAllBlank (text : String) : Bool := text.toList.all isBlank

end MeshAccess.Text.Blank
