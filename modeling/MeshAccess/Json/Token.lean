import MeshAccess.Json.Number
import MeshAccess.Text.Hex

/-!
This file splits a JSON text into tokens.

The scanner walks over the characters and keeps the token that it has begun.
-/

namespace MeshAccess.Json

/-- The smallest parts of a JSON text. -/
inductive Token where
  | openArray
  | closeArray
  | openObject
  | closeObject
  | comma
  | colon
  | null
  | bool (value : Bool)
  | numeral (value : Numeral)
  | string (value : String)
  deriving DecidableEq, Repr

namespace Token

/-- The token that the scanner has begun. Texts are kept in reverse order. -/
inductive Begun where
  | nothing
  | word (reversed : List Char)
  | number (reversed : List Char)
  | string (reversed : List Char)
  | escape (reversed : List Char)
  | unit (reversed : List Char) (first : Option Nat) (missing : Nat) (value : Nat)
  | pairBackslash (reversed : List Char) (first : Nat)
  | pairMark (reversed : List Char) (first : Nat)
  deriving DecidableEq, Repr

/-- The blanks between tokens. -/
def isBlank (character : Char) : Bool :=
  character = ' ' || character = '\n' || character = '\t' || character = '\r'

def isNumberPart (character : Char) : Bool :=
  character.isDigit || character = '-' || character = '+' || character = '.' ||
    character = 'e' || character = 'E'

/-- The character of an escape of two characters. -/
def escaped? : Char → Option Char
  | '"' => some '"'
  | '\\' => some '\\'
  | '/' => some '/'
  | 'b' => some (Char.ofNat 0x8)
  | 'f' => some (Char.ofNat 0xC)
  | 'n' => some '\n'
  | 'r' => some '\r'
  | 't' => some '\t'
  | _ => none

def ofWord? (word : List Char) : Option Token :=
  if word = ['n', 'u', 'l', 'l'] then some .null
  else if word = ['t', 'r', 'u', 'e'] then some (.bool true)
  else if word = ['f', 'a', 'l', 's', 'e'] then some (.bool false)
  else none

def isHighSurrogate (unit : Nat) : Bool := 0xD800 ≤ unit && unit ≤ 0xDBFF

def isLowSurrogate (unit : Nat) : Bool := 0xDC00 ≤ unit && unit ≤ 0xDFFF

/-- This function ends an escape of four hexadecimal digits. A high surrogate waits for a low one,
and a surrogate alone is refused. -/
def endUnit (reversed : List Char) (first : Option Nat) (unit : Nat) : Option Begun :=
  match first with
  | some high =>
      if isLowSurrogate unit then
        some (.string (Char.ofNat (0x10000 + (high - 0xD800) * 0x400 + (unit - 0xDC00)) :: reversed))
      else none
  | none =>
      if isHighSurrogate unit then some (.pairBackslash reversed unit)
      else if isLowSurrogate unit then none
      else some (.string (Char.ofNat unit :: reversed))

/-- This function reads a character inside a string. -/
def scanString (begun : Begun) (character : Char) : Option (List Token × Begun) :=
  match begun with
  | .string reversed =>
      if character = '"' then some ([.string (String.ofList reversed.reverse)], .nothing)
      else if character = '\\' then some ([], .escape reversed)
      else if character.toNat < 0x20 then none
      else some ([], .string (character :: reversed))
  | .escape reversed =>
      if character = 'u' then some ([], .unit reversed none 4 0)
      else (escaped? character).map fun plain => ([], .string (plain :: reversed))
  | .unit reversed first missing value => do
      let next := 16 * value + (← Text.Hex.value? character)
      if missing = 1 then
        return ([], ← endUnit reversed first next)
      else return ([], .unit reversed first (missing - 1) next)
  | .pairBackslash reversed first =>
      if character = '\\' then some ([], .pairMark reversed first) else none
  | .pairMark reversed first =>
      if character = 'u' then some ([], .unit reversed (some first) 4 0) else none
  | _ => none

/-- This function reads a character between tokens. -/
def scanStart (character : Char) : Option (List Token × Begun) :=
  match character with
  | '[' => some ([.openArray], .nothing)
  | ']' => some ([.closeArray], .nothing)
  | '\x7b' => some ([.openObject], .nothing)
  | '\x7d' => some ([.closeObject], .nothing)
  | ',' => some ([.comma], .nothing)
  | ':' => some ([.colon], .nothing)
  | '"' => some ([], .string [])
  | _ =>
      if isBlank character then some ([], .nothing)
      else if character.isDigit || character = '-' then some ([], .number [character])
      else if character.isAlpha then some ([], .word [character])
      else none

/-- This function reads one character. -/
def scan (begun : Begun) (character : Char) : Option (List Token × Begun) :=
  match begun with
  | .nothing => scanStart character
  | .word reversed =>
      if character.isAlpha then some ([], .word (character :: reversed))
      else do
        let (tokens, next) ← scanStart character
        return ((← ofWord? reversed.reverse) :: tokens, next)
  | .number reversed =>
      if isNumberPart character then some ([], .number (character :: reversed))
      else do
        let (tokens, next) ← scanStart character
        return (.numeral (← Numeral.ofText? reversed.reverse) :: tokens, next)
  | _ => scanString begun character

/-- This function ends the text. -/
def finish? : Begun → Option (List Token)
  | .nothing => some []
  | .word reversed => (ofWord? reversed.reverse).map fun token => [token]
  | .number reversed => (Numeral.ofText? reversed.reverse).map fun value => [.numeral value]
  | _ => none

/-- This function puts the tokens of a text before the given ones, in reverse order. -/
def scanAll? (done : List Token) (begun : Begun) : List Char → Option (List Token)
  | [] => (finish? begun).map fun tokens => (tokens.reverse ++ done).reverse
  | character :: rest =>
      match scan begun character with
      | some (tokens, next) => scanAll? (tokens.reverse ++ done) next rest
      | none => none

/-- The tokens of a text. -/
def ofText? (text : List Char) : Option (List Token) := scanAll? [] .nothing text

end Token

end MeshAccess.Json
