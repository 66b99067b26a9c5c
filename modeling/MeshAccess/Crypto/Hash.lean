import MeshAccess.Crypto.Sha2

/-!
This file names the hash functions that signatures use, and holds the keyed hash.
-/

namespace MeshAccess.Crypto

/-- A hash function. -/
inductive Hash where
  | sha256
  | sha384
  | sha512
  deriving DecidableEq, Repr

namespace Hash

def digest : Hash → List UInt8 → List UInt8
  | .sha256 => Sha2.digest Sha2.sha256
  | .sha384 => Sha2.digest Sha2.sha384
  | .sha512 => Sha2.digest Sha2.sha512

/-- The number of the bytes of a digest. -/
def length : Hash → Nat
  | .sha256 => 32
  | .sha384 => 48
  | .sha512 => 64

/-- The number of the bytes of a block. -/
def blockLength : Hash → Nat
  | .sha256 => 64
  | .sha384 => 128
  | .sha512 => 128

end Hash

namespace Hmac

/-- A key of the length of a block. A longer key is hashed first. -/
def fit (hash : Hash) (key : List UInt8) : List UInt8 :=
  let short := if hash.blockLength < key.length then hash.digest key else key
  short ++ List.replicate (hash.blockLength - short.length) 0

/-- The keyed hash of a message. -/
def tag (hash : Hash) (key message : List UInt8) : List UInt8 :=
  let block := fit hash key
  let inner := hash.digest (block.map (· ^^^ 0x36) ++ message)
  hash.digest (block.map (· ^^^ 0x5C) ++ inner)

end Hmac

end MeshAccess.Crypto
