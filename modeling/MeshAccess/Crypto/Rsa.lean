import MeshAccess.Crypto.Hash
import MeshAccess.Crypto.Modular

/-!
This file checks RSA signatures.

A signature is a number below the modulus whose power is the encoding of the message. One encoding
is fixed by the message alone, the other one contains a salt.
-/

namespace MeshAccess.Crypto.Rsa

/-- How a message becomes a number. -/
inductive Scheme where
  | fixed
  | salted
  deriving DecidableEq, Repr

/-- A public key. -/
structure PublicKey where
  modulus : Nat
  exponent : Nat
  deriving DecidableEq, Repr

namespace PublicKey

def minModulusBits : Nat := 2048

def maxModulusBits : Nat := 8192

def maxExponentLength : Nat := 5

def maxExponent : Nat := Nat.pow 2 33 - 1

def bits (key : PublicKey) : Nat := key.modulus.log2 + 1

/-- The number of the bytes of the modulus. -/
def length (key : PublicKey) : Nat := (key.bits + 7) / 8

/-- The key with the given modulus and exponent. Neither may start with a zero byte. -/
def ofBytes? (modulus exponent : List UInt8) : Option PublicKey :=
  let key : PublicKey := ⟨Octets.ofList modulus, Octets.ofList exponent⟩
  let isWritten := modulus.head?.any (· ≠ 0) && exponent.head?.any (· ≠ 0)
  let hasModulus := minModulusBits ≤ 8 * key.length && key.bits ≤ maxModulusBits &&
    key.modulus % 2 = 1
  let hasExponent := exponent.length ≤ maxExponentLength && 3 ≤ key.exponent &&
    key.exponent ≤ maxExponent && key.exponent % 2 = 1
  if isWritten && hasModulus && hasExponent then some key else none

end PublicKey

/-- The bytes in front of a digest. They name the hash function. -/
def digestLabel : Hash → List UInt8
  | .sha256 =>
      [0x30, 0x31, 0x30, 0x0D, 0x06, 0x09, 0x60, 0x86, 0x48, 0x01, 0x65, 0x03, 0x04, 0x02, 0x01,
        0x05, 0x00, 0x04, 0x20]
  | .sha384 =>
      [0x30, 0x41, 0x30, 0x0D, 0x06, 0x09, 0x60, 0x86, 0x48, 0x01, 0x65, 0x03, 0x04, 0x02, 0x02,
        0x05, 0x00, 0x04, 0x30]
  | .sha512 =>
      [0x30, 0x51, 0x30, 0x0D, 0x06, 0x09, 0x60, 0x86, 0x48, 0x01, 0x65, 0x03, 0x04, 0x02, 0x03,
        0x05, 0x00, 0x04, 0x40]

/-- The encoding of a message without a salt, for the given length. -/
def encodeFixed (hash : Hash) (length : Nat) (message : List UInt8) : List UInt8 :=
  let content := digestLabel hash ++ hash.digest message
  0x00 :: 0x01 :: List.replicate (length - content.length - 3) 0xFF ++ 0x00 :: content

/-- The digests of a seed with a counter, one after the other. -/
def mask (hash : Hash) (seed : List UInt8) (length : Nat) : List UInt8 :=
  let blocks := (List.range ((length + hash.length - 1) / hash.length)).flatMap fun counter =>
    hash.digest (seed ++ Octets.toList 4 counter)
  blocks.take length

/-- The bytes are the encoding of the message with some salt of the length of a digest. The number
of the bits of the encoding is one less than that of the modulus. -/
def isSaltedEncoding (hash : Hash) (bits : Nat) (encoding message : List UInt8) : Bool :=
  let length := (bits + 7) / 8
  let topValues := Nat.pow 2 (8 - (8 * length - bits))
  let unused := encoding.length - length
  let encoded := encoding.drop unused
  let blockLength := length - hash.length - 1
  let masked := encoded.take blockLength
  let tag := (encoded.drop blockLength).take hash.length
  let block := List.zipWith (· ^^^ ·) masked (mask hash tag blockLength)
  let block := match block with
    | first :: rest => (first.toNat % topValues).toUInt8 :: rest
    | [] => []
  let padding := block.take (blockLength - hash.length - 1)
  let rest := block.drop (blockLength - hash.length - 1)
  let salted := List.replicate 8 0 ++ hash.digest message ++ rest.drop 1
  (encoding.take unused).all (· = 0) && encoded.getLast? = some 0xBC &&
    masked.head?.any (fun byte => byte.toNat < topValues) && padding.all (· = 0) &&
    rest.head? = some 1 && tag = hash.digest salted

/-- The signature belongs to the message. -/
def verifies (scheme : Scheme) (hash : Hash) (key : PublicKey) (message signature : List UInt8) :
    Bool :=
  let number := Octets.ofList signature
  if signature.length ≠ key.length || number = 0 || key.modulus ≤ number then false
  else
    let encoding := Octets.toList key.length (Modular.power key.modulus number key.exponent)
    match scheme with
    | .fixed => encoding = encodeFixed hash key.length message
    | .salted => isSaltedEncoding hash (key.bits - 1) encoding message

end MeshAccess.Crypto.Rsa
