/-!
This file holds the binary floating-point numbers of 64 bits.

All arithmetic is exact on natural numbers and rounds once, to the nearest number and from a tie to
the even one.
-/

namespace MeshAccess.Decimal

/-- The absolute value of a finite number. The word holds the exponent above 52 fraction bits. -/
structure Magnitude where
  word : Nat
  deriving DecidableEq, Repr, Inhabited

namespace Magnitude

/-- The quotient of two numbers, rounded to the nearest and from a tie to the even number. -/
def roundQuotient (numerator denominator : Nat) : Nat :=
  let quotient := numerator / denominator
  let rest := 2 * (numerator % denominator)
  if rest < denominator then quotient
  else if denominator < rest then quotient + 1
  else quotient + quotient % 2

/-- The word of the number `significand * 2 ^ (exponent - 1074)`. -/
def pack (significand exponent : Nat) : Nat :=
  if significand < Nat.pow 2 52 then significand
  else (exponent + 1) * Nat.pow 2 52 + (significand - Nat.pow 2 52)

/-- The number nearest to a fraction. There is none when the fraction is too large. -/
def ofRatio? (numerator denominator : Nat) : Option Magnitude :=
  if numerator = 0 then some ⟨0⟩
  else
    let above := 1074 + Nat.log2 numerator
    let estimate := above - 52 - Nat.log2 denominator
    let scaled := Nat.pow 2 (estimate + 53) * denominator * Nat.pow 2 52
    let below := if Nat.pow 2 (1074 + 53) * numerator < scaled then estimate - 1 else estimate
    let significand := roundQuotient (Nat.pow 2 1074 * numerator) (Nat.pow 2 below * denominator)
    let (significand, exponent) :=
      if significand = Nat.pow 2 53 then (Nat.pow 2 52, below + 1) else (significand, below)
    if exponent + 1 < 2047 then some ⟨pack significand exponent⟩ else none

/-- The significand of a number. -/
def significand (number : Magnitude) : Nat :=
  if number.word < Nat.pow 2 52 then number.word
  else number.word % Nat.pow 2 52 + Nat.pow 2 52

/-- The exponent of a number, so that the number is `significand * 2 ^ (exponent - 1074)`. -/
def exponent (number : Magnitude) : Nat := number.word / Nat.pow 2 52 - 1

def ofNat? (value : Nat) : Option Magnitude := ofRatio? value 1

def mul? (first second : Magnitude) : Option Magnitude :=
  ofRatio? (first.significand * second.significand * Nat.pow 2 (first.exponent + second.exponent))
    (Nat.pow 2 (1074 + 1074))

/-- The quotient of two numbers, the second of which is not zero. -/
def div? (first second : Magnitude) : Option Magnitude :=
  ofRatio? (first.significand * Nat.pow 2 first.exponent)
    (second.significand * Nat.pow 2 second.exponent)

/-- The number nearest to a power of ten. -/
def powerOfTen? (power : Nat) : Option Magnitude := ofNat? (Nat.pow 10 power)

end Magnitude

/-- A finite number. Zero has two signs. -/
structure Binary64 where
  negative : Bool
  magnitude : Magnitude
  deriving DecidableEq, Repr, Inhabited

namespace Binary64

def zero : Binary64 := ⟨false, ⟨0⟩⟩

/-- The 64 bits of a number. -/
def toBits (number : Binary64) : Nat :=
  number.magnitude.word + if number.negative then Nat.pow 2 63 else 0

/-- The largest power of ten that one step of scaling takes. -/
def largestPower : Nat := 308

/-- This function scales a number by a power of ten. Each step rounds. A negative power beyond the
largest one takes several steps, and the third step meets zero. -/
def scaleDown? (number : Magnitude) (power : Nat) : Nat → Option Magnitude
  | 0 => some ⟨0⟩
  | steps + 1 =>
      if power ≤ largestPower then (Magnitude.powerOfTen? power).bind number.div?
      else if number.word = 0 then some number
      else do
        let largest ← Magnitude.powerOfTen? largestPower
        scaleDown? (← number.div? largest) (power - largestPower) steps

/-- The number that a significand and a power of ten give. The significand rounds first and the
scaled number rounds again, so the result may miss the nearest number by one place. -/
def ofScientific? (negative : Bool) (significand : Nat) (power : Int) : Option Binary64 := do
  let start ← Magnitude.ofNat? significand
  let magnitude ←
    if power < 0 then scaleDown? start power.natAbs 4
    else if power.natAbs ≤ largestPower then
      (Magnitude.powerOfTen? power.natAbs).bind start.mul?
    else if start.word = 0 then some start
    else none
  return ⟨negative, magnitude⟩

end Binary64

end MeshAccess.Decimal
