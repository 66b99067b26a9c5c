import MeshAccess.Regex.Syntax
import MeshAccess.Text.Blank
import MeshAccess.Text.Hex

/-!
This file reads the smallest parts of a pattern: blanks, numbers, escapes and single characters.

In verbose mode blanks and comments stand for nothing, also inside a number or an escape. Every
reader gives the rest of the pattern.
-/

namespace MeshAccess.Regex

/-- The rest of a pattern without its first line. -/
def dropLine (pattern : List Char) : List Char := (pattern.dropWhile (· ≠ '\n')).drop 1

/-- This function skips blanks and comments in verbose mode. -/
def skipVerbose (verbose : Bool) : Nat → List Char → List Char
  | 0, pattern => pattern
  | fuel + 1, pattern =>
      if verbose then
        match pattern.dropWhile Text.Blank.isBlank with
        | '#' :: rest => skipVerbose verbose fuel (dropLine rest)
        | rest => rest
      else pattern

/-- The pattern from its first part that counts. -/
def skip (verbose : Bool) (pattern : List Char) : List Char :=
  skipVerbose verbose pattern.length pattern

/-- Every character with a meaning of its own may follow a backslash, and so may every other ASCII
character that is no letter, no digit and no angle bracket. -/
def isEscapable (character : Char) : Bool :=
  character.toNat < 0x80 && !character.isAlphanum && character ≠ '<' && character ≠ '>'

/-- What a backslash or a single character stands for. -/
inductive Primitive where
  | letter (letter : Letter)
  | dot
  | assertion (kind : Assertion)
  | letterClass (kind : LetterClass) (negated : Bool)
  | property (query : PropertyQuery) (negated : Bool)
  deriving DecidableEq, Repr

/-- The character of a number, when it is a scalar value. -/
def scalar? (value : Nat) : Option Char :=
  if h : value.isValidChar then some (Char.ofNatAux value h) else none

/-- The value of hexadecimal digits below 2 ^ 32. -/
def hexNumber? (digits : List Char) : Option Nat := do
  let values ← digits.mapM Text.Hex.value?
  let value := values.foldl (fun sum digit => 16 * sum + digit) 0
  if value < Nat.pow 2 32 then some value else none

/-- This function reads exactly `count` hexadecimal digits and gives their value. -/
def readHexDigits? (verbose : Bool) (value : Nat) : Nat → List Char → Option (Nat × List Char)
  | 0, pattern => some (value, pattern)
  | count + 1, pattern => do
      let digit ← pattern.head?
      let next := 16 * value + (← Text.Hex.value? digit)
      readHexDigits? verbose next count (skip verbose (pattern.drop 1))

/-- This function reads up to the closing brace and gives the characters before it. -/
def readBraced? (verbose : Bool) (reversed : List Char) :
    Nat → List Char → Option (List Char × List Char)
  | 0, _ => none
  | fuel + 1, pattern =>
      match pattern with
      | [] => none
      | '\x7d' :: rest => some (reversed.reverse, rest)
      | character :: rest => readBraced? verbose (character :: reversed) fuel (skip verbose rest)

/-- The number of digits of an escape without braces. -/
def hexLength (mark : Char) : Nat := if mark = 'x' then 2 else if mark = 'u' then 4 else 8

/-- This function reads the digits of an escape after its mark. -/
def readHex? (verbose : Bool) (mark : Char) (pattern : List Char) :
    Option (Primitive × List Char) :=
  match skip verbose pattern with
  | '\x7b' :: rest => do
      let (digits, rest) ← readBraced? verbose [] (rest.length + 1) (skip verbose rest)
      if digits.isEmpty then none
      else
        let character ← scalar? (← hexNumber? digits)
        return (.letter ⟨character, false⟩, skip verbose rest)
  | rest => do
      let (value, rest) ← readHexDigits? verbose 0 (hexLength mark) rest
      return (.letter ⟨← scalar? value, mark = 'x'⟩, rest)

/-- This function splits a text at the first place where the separator stands. -/
def splitAt? (separator : List Char) (before : List Char) : List Char → Option (String × String)
  | [] => none
  | character :: rest =>
      if separator.isPrefixOf (character :: rest) then
        some (String.ofList before.reverse,
          String.ofList ((character :: rest).drop separator.length))
      else splitAt? separator (character :: before) rest

/-- The query that a text in braces means, and whether an unequal sign negates it. -/
def propertyQuery (text : List Char) : PropertyQuery × Bool :=
  match splitAt? ['!', '='] [] text with
  | some (property, value) => (.value property value, true)
  | none =>
      match (splitAt? [':'] [] text).orElse fun _ => splitAt? ['='] [] text with
      | some (property, value) => (.value property value, false)
      | none => (.name (String.ofList text), false)

/-- This function reads the name of a property after its mark. -/
def readProperty? (verbose negated : Bool) (pattern : List Char) :
    Option (Primitive × List Char) :=
  match skip verbose pattern with
  | [] => none
  | '\x7b' :: rest => do
      let (text, rest) ← readBraced? verbose [] (rest.length + 1) (skip verbose rest)
      let (query, isUnequal) := propertyQuery text
      return (.property query (negated != isUnequal), rest)
  | letter :: rest =>
      if letter = '\\' then none
      else some (.property (.name (String.ofList [letter])) negated, skip verbose rest)

def isBoundaryLetter (character : Char) : Bool := character.isAlpha || character = '-'

/-- This function reads the letters of the name of a boundary. -/
def readBoundaryName (verbose : Bool) (reversed : List Char) :
    Nat → List Char → List Char × List Char
  | 0, pattern => (reversed.reverse, pattern)
  | fuel + 1, pattern =>
      match pattern with
      | [] => (reversed.reverse, [])
      | character :: rest =>
          if isBoundaryLetter character then
            readBoundaryName verbose (character :: reversed) fuel (skip verbose rest)
          else (reversed.reverse, pattern)

def boundary? (name : List Char) : Option Assertion :=
  if name = "start".toList then some .wordStart
  else if name = "end".toList then some .wordEnd
  else if name = "start-half".toList then some .halfWordStart
  else if name = "end-half".toList then some .halfWordEnd
  else none

/-- This function reads what may follow the escape of a word boundary: the name of a special
boundary in braces. Braces that do not start with a letter belong to a repetition. -/
def readBoundary? (verbose : Bool) (pattern : List Char) : Option (Primitive × List Char) :=
  match pattern with
  | '\x7b' :: rest =>
      match skip verbose rest with
      | [] => none
      | character :: more =>
          if isBoundaryLetter character then
            match readBoundaryName verbose [] (more.length + 1) (character :: more) with
            | (name, '\x7d' :: after) => (boundary? name).map fun kind => (.assertion kind, after)
            | _ => none
          else some (.assertion .wordBoundary, pattern)
  | _ => some (.assertion .wordBoundary, pattern)

/-- This function reads an escape after its backslash. -/
def readEscape? (verbose : Bool) (pattern : List Char) : Option (Primitive × List Char) :=
  match pattern with
  | [] => none
  | mark :: rest =>
      if isEscapable mark then some (.letter ⟨mark, false⟩, rest)
      else
        match mark with
        | 'x' | 'u' | 'U' => readHex? verbose mark rest
        | 'p' => readProperty? verbose false rest
        | 'P' => readProperty? verbose true rest
        | 'd' => some (.letterClass .digit false, rest)
        | 'D' => some (.letterClass .digit true, rest)
        | 's' => some (.letterClass .blank false, rest)
        | 'S' => some (.letterClass .blank true, rest)
        | 'w' => some (.letterClass .word false, rest)
        | 'W' => some (.letterClass .word true, rest)
        | 'a' => some (.letter ⟨Char.ofNat 0x7, false⟩, rest)
        | 'f' => some (.letter ⟨Char.ofNat 0xC, false⟩, rest)
        | 't' => some (.letter ⟨'\t', false⟩, rest)
        | 'n' => some (.letter ⟨'\n', false⟩, rest)
        | 'r' => some (.letter ⟨'\r', false⟩, rest)
        | 'v' => some (.letter ⟨Char.ofNat 0xB, false⟩, rest)
        | 'A' => some (.assertion .textStart, rest)
        | 'z' => some (.assertion .textEnd, rest)
        | 'b' => readBoundary? verbose rest
        | 'B' => some (.assertion .noWordBoundary, rest)
        | '<' => some (.assertion .wordStart, rest)
        | '>' => some (.assertion .wordEnd, rest)
        | _ => none

/-- This function reads one character or escape outside brackets. -/
def readPrimitive? (verbose : Bool) (character : Char) (rest : List Char) :
    Option (Primitive × List Char) :=
  match character with
  | '\\' => readEscape? verbose rest
  | '.' => some (.dot, rest)
  | '^' => some (.assertion .lineStart, rest)
  | '$' => some (.assertion .lineEnd, rest)
  | _ => some (.letter ⟨character, false⟩, rest)

/-- This function reads the digits of a number between braces. -/
def readDigits (verbose : Bool) (reversed : List Char) : Nat → List Char → List Char × List Char
  | 0, pattern => (reversed.reverse, pattern)
  | fuel + 1, pattern =>
      match pattern with
      | [] => (reversed.reverse, [])
      | character :: rest =>
          if character.isDigit then
            readDigits verbose (character :: reversed) fuel (skip verbose rest)
          else (reversed.reverse, pattern)

/-- This function skips blanks between braces, and in verbose mode the comments after them. -/
def skipBlanks (verbose : Bool) (pattern : List Char) : List Char :=
  match pattern with
  | [] => []
  | character :: _ =>
      if Text.Blank.isBlank character then
        skip verbose (pattern.dropWhile Text.Blank.isBlank)
      else pattern

/-- This function reads a number between braces. Blanks may stand around it. The number must be
below 2 ^ 32, and it is missing when there are no digits. -/
def readCount (verbose : Bool) (pattern : List Char) : Option Nat × List Char :=
  let start := pattern.dropWhile Text.Blank.isBlank
  let (digits, rest) := readDigits verbose [] (start.length + 1) start
  let value := digits.foldl (fun sum digit => 10 * sum + (digit.toNat - '0'.toNat)) 0
  (if digits.isEmpty || Nat.pow 2 32 ≤ value then none else some value, skipBlanks verbose rest)

/-- This function reads the counts of a repetition after the opening brace, up to the closing one. -/
def readCounts? (verbose : Bool) (pattern : List Char) :
    Option ((Nat × Option Nat) × List Char) :=
  match skip verbose pattern with
  | [] => none
  | start =>
      let (least?, rest) := readCount verbose start
      match rest with
      | '\x7d' :: after => least?.map fun least => ((least, some least), after)
      | ',' :: more =>
          match skip verbose more with
          | '\x7d' :: after => least?.map fun least => ((least, none), after)
          | more => do
              let least ← least?
              let (most?, rest) := readCount verbose more
              let most ← most?
              match rest with
              | '\x7d' :: after =>
                  if least ≤ most then some ((least, some most), after) else none
              | _ => none
      | _ => none

end MeshAccess.Regex
