import MeshAccess.Crypto.Hash
import MeshAccess.Crypto.Modular

/-!
This file checks signatures over the twisted Edwards curve.

The curve consists of the solutions of `y ^ 2 - x ^ 2 = 1 + d * x ^ 2 * y ^ 2`. A point is written
as its second coordinate with the parity of the first one in the top bit, the last byte being the
leading one.
-/

namespace MeshAccess.Crypto.Edwards

def prime : Nat := Nat.pow 2 255 - 19

/-- The order of the group that the base point generates. -/
def order : Nat := Nat.pow 2 252 + 27742317777372353535851937790883648493

/-- The constant of the curve. -/
def d : Nat := Modular.sub prime 0 (121665 * Modular.inverse prime 121666)

/-- A square root of minus one. -/
def rootOfMinusOne : Nat := Modular.power prime 2 ((prime - 1) / 4)

/-- A point of the curve. -/
structure Point where
  x : Nat
  y : Nat
  deriving DecidableEq, Repr

namespace Point

/-- The neutral point. -/
def zero : Point := ⟨0, 1⟩

/-- The sum of two points. -/
def add (first second : Point) : Point :=
  let product := d * (first.x * second.x % prime) * (first.y * second.y % prime) % prime
  let x := (first.x * second.y + second.x * first.y) *
    Modular.inverse prime ((1 + product) % prime) % prime
  let y := (first.y * second.y + first.x * second.x) *
    Modular.inverse prime (Modular.sub prime 1 product) % prime
  ⟨x, y⟩

/-- The sum of `scalar` copies of a point. -/
def times (scalar : Nat) (point : Point) : Point :=
  if scalar = 0 then zero
  else
    let half := times (scalar / 2) (point.add point)
    if scalar % 2 = 0 then half else point.add half
  termination_by scalar
  decreasing_by omega

def negate (point : Point) : Point := ⟨Modular.sub prime 0 point.x, point.y⟩

/-- The first coordinate for a second one, up to its sign. -/
def recover? (y : Nat) : Option Nat :=
  let numerator := Modular.sub prime (y * y) 1
  let denominator := (d * (y * y) + 1) % prime
  let square := numerator * Modular.inverse prime denominator % prime
  let root := Modular.power prime square ((prime + 3) / 8)
  if root * root % prime = square then some root
  else
    let other := root * rootOfMinusOne % prime
    if other * other % prime = square then some other else none

/-- The point that 32 bytes spell. The second coordinate may be beyond the prime. -/
def decode? (bytes : List UInt8) : Option Point :=
  if bytes.length ≠ 32 then none
  else
    let number := Octets.ofList bytes.reverse
    let y := number % Nat.pow 2 255 % prime
    (recover? y).map fun x =>
      if x % 2 = number / Nat.pow 2 255 then ⟨x, y⟩ else ⟨Modular.sub prime 0 x, y⟩

def encode (point : Point) : List UInt8 :=
  (Octets.toList 32 (point.y + Nat.pow 2 255 * (point.x % 2))).reverse

/-- The base point. -/
def base : Point :=
  ⟨0x216936D3CD6E53FEC0A4E231FDD6DC5C692CC7609525A7B2C9562D608F25D51A,
    0x6666666666666666666666666666666666666666666666666666666666666658⟩

end Point

/-- The signature, a point and a number one after the other, belongs to the message. -/
def verifies (key message signature : List UInt8) : Bool :=
  let scalar := Octets.ofList (signature.drop 32).reverse
  match Point.decode? key with
  | none => false
  | some point =>
      if signature.length ≠ 64 || order ≤ scalar then false
      else
        let digest := Hash.sha512.digest (signature.take 32 ++ key ++ message)
        let challenge := Octets.ofList digest.reverse % order
        let sum := (Point.base.times scalar).add (point.negate.times challenge)
        sum.encode = signature.take 32

end MeshAccess.Crypto.Edwards
