import MeshAccess.Decimal.Binary64

/-!
This file writes a floating-point number with the fewest digits that read back.

A number stands for the interval of the fractions that round to it. Among the decimal grids, from
the coarsest to the finest, the first one with a point in the interval gives the digits. Of two
points the nearer one wins, and from a tie the even one.
-/

namespace MeshAccess.Decimal

/-- The number `digits * 10 ^ power`. -/
structure Digits where
  digits : Nat
  power : Int
  deriving DecidableEq, Repr

namespace Magnitude

/-- The fractions that round to a number, as bounds over the common `scale`. -/
structure Interval where
  scale : Nat
  low : Nat
  value : Nat
  high : Nat
  closed : Bool
  deriving Repr

/-- The interval of a number. The gap below a power of two is half as wide as the gap above. -/
def interval (number : Magnitude) : Interval :=
  let unit := Nat.pow 2 number.exponent
  let significand := number.significand
  let below := if significand = Nat.pow 2 52 && 0 < number.exponent then 1 else 2
  ⟨Nat.pow 2 1076, (4 * significand - below) * unit, 4 * significand * unit,
    (4 * significand + 2) * unit, significand % 2 = 0⟩

/-- The numerators of the interval and of the grid step `10 ^ power`, over one denominator. -/
def onGrid (bounds : Interval) (power : Int) : Interval × Nat :=
  if power < 0 then
    let factor := Nat.pow 10 power.natAbs
    (⟨1, bounds.low * factor, bounds.value * factor, bounds.high * factor, bounds.closed⟩,
      bounds.scale)
  else (bounds, bounds.scale * Nat.pow 10 power.natAbs)

/-- The point of the grid `10 ^ power` that is nearest to the number inside its interval. -/
def nearest? (bounds : Interval) (power : Int) : Option Nat :=
  let (bounds, step) := onGrid bounds power
  let below := bounds.value / step
  let isInside := fun point =>
    if bounds.closed then bounds.low ≤ point * step && point * step ≤ bounds.high
    else bounds.low < point * step && point * step < bounds.high
  let distanceBelow := bounds.value - below * step
  let distanceAbove := (below + 1) * step - bounds.value
  if isInside below && isInside (below + 1) then
    if distanceBelow < distanceAbove then some below
    else if distanceAbove < distanceBelow then some (below + 1)
    else some (below + below % 2)
  else if isInside below then some below
  else if isInside (below + 1) then some (below + 1)
  else none

/-- This function tries `count` grids from `10 ^ power` downward. -/
def search (bounds : Interval) (power : Int) : Nat → Digits
  | 0 => ⟨0, 0⟩
  | count + 1 =>
      match nearest? bounds power with
      | some digits => ⟨digits, power⟩
      | none => search bounds (power - 1) count

/-- A power of ten that is above the number. -/
def startPower (number : Magnitude) : Int :=
  let binary : Int := Nat.log2 number.significand + number.exponent - 1074
  binary * 30103 / 100000 + 2

/-- The fewest digits that read back as the number. -/
def shortest (number : Magnitude) : Digits :=
  if number.word = 0 then ⟨0, 0⟩ else search number.interval number.startPower 24

end Magnitude

end MeshAccess.Decimal
