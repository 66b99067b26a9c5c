import MeshAccess.Crypto.Hash
import MeshAccess.Crypto.Modular

/-!
This file checks signatures over the prime curves.

A curve consists of the solutions of `y ^ 2 = x ^ 3 - 3 * x + b` and of one more point at infinity.
-/

namespace MeshAccess.Crypto.Weierstrass

/-- A curve with a point that generates a group of prime order. -/
structure Curve where
  prime : Nat
  constant : Nat
  order : Nat
  baseX : Nat
  baseY : Nat
  length : Nat
  hash : Hash

def p256 : Curve where
  prime := 0xFFFFFFFF00000001000000000000000000000000FFFFFFFFFFFFFFFFFFFFFFFF
  constant := 0x5AC635D8AA3A93E7B3EBBD55769886BC651D06B0CC53B0F63BCE3C3E27D2604B
  order := 0xFFFFFFFF00000000FFFFFFFFFFFFFFFFBCE6FAADA7179E84F3B9CAC2FC632551
  baseX := 0x6B17D1F2E12C4247F8BCE6E563A440F277037D812DEB33A0F4A13945D898C296
  baseY := 0x4FE342E2FE1A7F9B8EE7EB4A7C0F9E162BCE33576B315ECECBB6406837BF51F5
  length := 32
  hash := .sha256

def p384 : Curve where
  prime := Nat.pow 2 384 - Nat.pow 2 128 - Nat.pow 2 96 + Nat.pow 2 32 - 1
  constant := 0xB3312FA7E23EE7E4988E056BE3F82D19181D9C6EFE8141120314088F5013875AC656398D8A2ED19D2A85C8EDD3EC2AEF
  order := 0xFFFFFFFFFFFFFFFFFFFFFFFFFFFFFFFFFFFFFFFFFFFFFFFFC7634D81F4372DDF581A0DB248B0A77AECEC196ACCC52973
  baseX := 0xAA87CA22BE8B05378EB1C71EF320AD746E1D3B628BA79B9859F741E082542A385502F25DBF55296C3A545E3872760AB7
  baseY := 0x3617DE4A96262C6F5D9E98BF9292DC29F8F41DBD289A147CE9DA3113B5F0B8C00A60B1CE1D7E819D7A431D7C90EA0E5F
  length := 48
  hash := .sha384

/-- A point other than the one at infinity. -/
structure Point where
  x : Nat
  y : Nat
  deriving DecidableEq, Repr

namespace Curve

def base (curve : Curve) : Point := ⟨curve.baseX, curve.baseY⟩

def contains (curve : Curve) (point : Point) : Bool :=
  point.x < curve.prime && point.y < curve.prime &&
    (point.y * point.y + 3 * point.x) % curve.prime =
      (point.x * point.x * point.x + curve.constant) % curve.prime

/-- The third point of the line with the given slope through two points, reflected in the first
axis. -/
def reflect (curve : Curve) (slope : Nat) (first second : Point) : Point :=
  let x := Modular.sub curve.prime (slope * slope) (first.x + second.x)
  ⟨x, Modular.sub curve.prime (slope * Modular.sub curve.prime first.x x) first.y⟩

/-- The sum of two points. The point at infinity is `none`. -/
def add (curve : Curve) : Option Point → Option Point → Option Point
  | none, second => second
  | first, none => first
  | some first, some second =>
      if first.x = second.x then
        if (first.y + second.y) % curve.prime = 0 then none
        else
          let slope := 3 * Modular.sub curve.prime (first.x * first.x) 1 *
            Modular.inverse curve.prime (2 * first.y % curve.prime) % curve.prime
          some (curve.reflect slope first second)
      else
        let slope := Modular.sub curve.prime second.y first.y *
          Modular.inverse curve.prime (Modular.sub curve.prime second.x first.x) % curve.prime
        some (curve.reflect slope first second)

/-- The sum of `scalar` copies of a point. -/
def times (curve : Curve) (scalar : Nat) (point : Option Point) : Option Point :=
  if scalar = 0 then none
  else
    let half := curve.times (scalar / 2) (curve.add point point)
    if scalar % 2 = 0 then half else curve.add point half
  termination_by scalar
  decreasing_by omega

/-- The point of a public key, from the bytes of its coordinates one after the other. -/
def publicKey? (curve : Curve) (bytes : List UInt8) : Option Point :=
  let point : Point :=
    ⟨Octets.ofList (bytes.take curve.length), Octets.ofList (bytes.drop curve.length)⟩
  if bytes.length = 2 * curve.length && curve.contains point then some point else none

def isScalar (curve : Curve) (value : Nat) : Bool := 1 ≤ value && value < curve.order

/-- The signature, two numbers one after the other, belongs to the message. -/
def verifies (curve : Curve) (key : Point) (message signature : List UInt8) : Bool :=
  let r := Octets.ofList (signature.take curve.length)
  let s := Octets.ofList (signature.drop curve.length)
  if signature.length ≠ 2 * curve.length || !curve.isScalar r || !curve.isScalar s then false
  else
    let inverse := Modular.inverse curve.order s
    let digest := Octets.ofList (curve.hash.digest message)
    let first := curve.times (digest * inverse % curve.order) (some curve.base)
    let second := curve.times (r * inverse % curve.order) (some key)
    match curve.add first second with
    | none => false
    | some point => point.x % curve.order = r

end Curve

end MeshAccess.Crypto.Weierstrass
