import MeshAccess.Unicode.Age
import MeshAccess.Unicode.Binary
import MeshAccess.Unicode.GeneralCategory
import MeshAccess.Unicode.Script
import MeshAccess.Unicode.Segmentation

/-!
This file finds the set of code points that a property name or a property with a value means.

Names are compared in loose form: without case, blanks, dashes and underscores, and without a
leading "is".
-/

namespace MeshAccess.Unicode.Property

def isSeparator (character : Char) : Bool :=
  character = ' ' || character = '_' || character = '-'

/-- The name without a leading "is" in either case. -/
def dropIs (name : List Char) : List Char :=
  match name with
  | first :: second :: rest =>
      if first.toLower = 'i' && second.toLower = 's' then rest else name
  | _ => name

/-- The loose form of a name. The abbreviation "isc" is a name of its own and keeps its start. -/
def loose (name : String) : String :=
  let characters := name.toList
  let plain := (dropIs characters).filter fun character =>
    character.toNat < 0x80 && !isSeparator character
  let lowered := plain.map Char.toLower
  if lowered = ['c'] && dropIs characters ≠ characters then "isc" else String.ofList lowered

/-- The categories whose abbreviations are also names of other properties. -/
def categoryFirst : List String := ["cf", "sc", "lc"]

/-- The set of a general category, of every code point, of ASCII or of all assigned points. -/
def category? (name : String) : Option CodePoints :=
  if name = "any" then some CodePoints.all
  else if name = "ascii" then some CodePoints.ascii
  else if name = "assigned" then some (GeneralCategory.codePoints "Cn").complement
  else (GeneralCategory.ofName? name).map GeneralCategory.codePoints

/-- The set that a single name means: a property, a general category or a script. -/
def named? (name : String) : Option CodePoints :=
  let name := loose name
  let binary := if categoryFirst.contains name then none else Binary.codePoints? name
  binary <|> category? name <|> (Script.ofName? name).map Script.codePoints

/-- The set of the code points whose property has the given value. -/
def valued? (property value : String) : Option CodePoints :=
  let property := loose property
  let value := loose value
  if ["gc", "generalcategory"].contains property then category? value
  else if ["sc", "script"].contains property then (Script.ofName? value).map Script.codePoints
  else if ["scx", "scriptextensions"].contains property then
    (Script.ofName? value).map Script.extendedCodePoints
  else if property = "age" then (Age.ofName? value).map Age.codePoints
  else if ["gcb", "graphemeclusterbreak"].contains property then
    Segmentation.codePoints? Segmentation.graphemeRows Segmentation.graphemeNames value
  else if ["wb", "wordbreak"].contains property then
    Segmentation.codePoints? Segmentation.wordRows Segmentation.wordNames value
  else if ["sb", "sentencebreak"].contains property then
    Segmentation.codePoints? Segmentation.sentenceRows Segmentation.sentenceNames value
  else none

/-- The decimal digits of all scripts. -/
def digits : CodePoints := GeneralCategory.codePoints "Nd"

/-- The blanks of all scripts. -/
def blanks : CodePoints := Listing.codePoints Binary.whiteSpace

/-- The characters of words: letters, marks, digits, connectors and joiners. -/
def wordCharacters : CodePoints :=
  (Listing.codePoints Binary.alphabetic).union
    ((GeneralCategory.codePoints "M").union
      ((GeneralCategory.codePoints "Nd").union
        ((GeneralCategory.codePoints "Pc").union (Listing.codePoints Binary.joinControl))))

/-- The letters of all scripts. -/
def letters : CodePoints := Listing.codePoints Binary.alphabetic

/-- The numbers of all scripts. -/
def numbers : CodePoints := GeneralCategory.codePoints "N"

end MeshAccess.Unicode.Property
