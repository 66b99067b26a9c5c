import MeshAccess.Unicode.CodePoints

/-!
This file reads the listings of the Unicode property tables.

An entry is a code point or two of them joined by a dash, in hexadecimal digits. In a listing that
sorts code points into classes, a colon and the name of the class follow. Blanks part the entries.
-/

namespace MeshAccess.Unicode.Listing

/-- The value of one hexadecimal digit in upper case. -/
def digitValue (digit : Char) : Nat :=
  if digit.isDigit then digit.toNat - '0'.toNat else digit.toNat - 'A'.toNat + 10

def number (text : List Char) : Nat :=
  text.foldl (fun value digit => 16 * value + digitValue digit) 0

/-- A range is written as its ends, or as one number when they agree. -/
def range (text : String) : CodeRange :=
  let first := text.toList.takeWhile (· ≠ '-')
  match text.toList.dropWhile (· ≠ '-') with
  | [] => (number first, number first)
  | _ :: last => (number first, number last)

/-- The entries of a listing in their order. -/
def entries (rows : List String) : List String :=
  rows.flatMap fun row => row.splitOn " "

/-- The set that a listing of ranges describes. -/
def codePoints (rows : List String) : CodePoints :=
  CodePoints.ofRanges ((entries rows).map range)

/-- The ranges of a sorted listing with the names of their classes. -/
def classes (rows : List String) : List (CodeRange × String) :=
  (entries rows).map fun entry =>
    match entry.splitOn ":" with
    | [text, name] => (range text, name)
    | _ => (range entry, "")

/-- The set of the code points whose class has one of the given names. -/
def select (table : List (CodeRange × String)) (names : List String) : CodePoints :=
  CodePoints.ofRanges ((table.filter fun entry => names.contains entry.2).map Prod.fst)

end MeshAccess.Unicode.Listing
