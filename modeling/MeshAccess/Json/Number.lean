import MeshAccess.Decimal.Shortest

/-!
This file holds the numbers of JSON texts.

A number without a point and an exponent is an integer if it fits in 64 bits. Every other number is
a floating-point number. Minus zero counts as a floating-point number too.
-/

namespace MeshAccess

/-- A number as a text spells it. -/
structure Json.Numeral where
  negative : Bool
  whole : List Char
  fraction : List Char
  exponent : Option (Bool × List Char)
  deriving DecidableEq, Repr

namespace Json.Numeral

def digitValue (digit : Char) : Nat := digit.toNat - '0'.toNat

def isExponentMark (character : Char) : Bool := character = 'e' || character = 'E'

/-- This function reads the exponent, which may have a sign. -/
def readExponent? : List Char → Option (Option (Bool × List Char))
  | [] => some none
  | mark :: text =>
      let (negative, digits) := match text with
        | '+' :: rest => (false, rest)
        | '-' :: rest => (true, rest)
        | rest => (false, rest)
      if isExponentMark mark && !digits.isEmpty && digits.all Char.isDigit then
        some (some (negative, digits))
      else none

/-- This function reads the digits after the point. -/
def readFraction? : List Char → Option (List Char × List Char)
  | '.' :: text =>
      let digits := text.takeWhile Char.isDigit
      if digits.isEmpty then none else some (digits, text.dropWhile Char.isDigit)
  | text => some ([], text)

/-- The numeral that a text spells. Only zero itself may start with the digit zero. -/
def ofText? (text : List Char) : Option Numeral := do
  let (negative, text) := match text with
    | '-' :: rest => (true, rest)
    | rest => (false, rest)
  let whole := text.takeWhile Char.isDigit
  if whole.isEmpty || (whole.head? = some '0' && whole.length ≠ 1) then none
  let (fraction, text) ← readFraction? (text.dropWhile Char.isDigit)
  let exponent ← readExponent? text
  return ⟨negative, whole, fraction, exponent⟩

/-- The largest natural number of 64 bits. -/
def largestWord : Nat := Nat.pow 2 64 - 1

/-- The digits that fit in 64 bits, as a number, and the digits that follow them. -/
def leading (value : Nat) : List Char → Nat × List Char
  | [] => (value, [])
  | digit :: rest =>
      let next := 10 * value + digitValue digit
      if largestWord < next then (value, digit :: rest) else leading next rest

/-- The largest exponent of 32 bits. Longer exponents mean zero or no number at all. -/
def largestExponent : Nat := Nat.pow 2 31 - 1

/-- The value of the numeral as a floating-point number. Whole digits beyond 64 bits count as zeros,
and fraction digits beyond 64 bits do not count. -/
def toBinary64? (numeral : Numeral) : Option Decimal.Binary64 :=
  let (significand, wholeRest) := leading 0 numeral.whole
  let (significand, fractionRest) := leading significand numeral.fraction
  let power : Int := (wholeRest.length : Int) - (numeral.fraction.length - fractionRest.length)
  match numeral.exponent with
  | none => Decimal.Binary64.ofScientific? numeral.negative significand power
  | some (isNegative, digits) =>
      let size := digits.foldl (fun value digit => 10 * value + digitValue digit) 0
      if largestExponent < size then
        if significand ≠ 0 && !isNegative then none else some ⟨numeral.negative, ⟨0⟩⟩
      else
        let scaled := if isNegative then power - size else power + size
        Decimal.Binary64.ofScientific? numeral.negative significand
          (max (-2147483648) (min 2147483647 scaled))

end Json.Numeral

/-- The value of a number. -/
inductive Json.Number where
  | integer (value : Int)
  | float (value : Decimal.Binary64)
  deriving DecidableEq, Repr

namespace Json.Number

/-- The value of a numeral. There is none for a number beyond the floating-point range. -/
def ofNumeral? (numeral : Json.Numeral) : Option Number :=
  let size := numeral.whole.foldl (fun value digit => 10 * value + Numeral.digitValue digit) 0
  let isInteger := numeral.fraction.isEmpty && numeral.exponent.isNone
  if isInteger && !numeral.negative && size ≤ Numeral.largestWord then some (.integer size)
  else if isInteger && numeral.negative && 0 < size && size ≤ Nat.pow 2 63 then
    some (.integer (-size))
  else numeral.toBinary64?.map .float

end Json.Number

end MeshAccess
