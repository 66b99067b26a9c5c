import MeshAccess.Crypto.Hash

/-!
This file holds the signature algorithms of tokens.
-/

namespace MeshAccess.Token

/-- The kinds of keys. -/
inductive KeyFamily where
  | secret
  | rsa
  | ellipticCurve
  | edwards
  deriving DecidableEq, Repr

/-- A signature algorithm. -/
inductive Algorithm where
  | hmac (hash : Crypto.Hash)
  | rsaFixed (hash : Crypto.Hash)
  | rsaSalted (hash : Crypto.Hash)
  | ecdsaP256
  | ecdsaP384
  | edwards
  deriving DecidableEq, Repr

namespace Algorithm

/-- The algorithms under their names. -/
def table : List (String × Algorithm) :=
  [("HS256", .hmac .sha256), ("HS384", .hmac .sha384), ("HS512", .hmac .sha512),
    ("ES256", .ecdsaP256), ("ES384", .ecdsaP384),
    ("RS256", .rsaFixed .sha256), ("RS384", .rsaFixed .sha384), ("RS512", .rsaFixed .sha512),
    ("PS256", .rsaSalted .sha256), ("PS384", .rsaSalted .sha384), ("PS512", .rsaSalted .sha512),
    ("EdDSA", .edwards)]

def ofName? (name : String) : Option Algorithm := table.lookup name

/-- The keys that the algorithm takes. -/
def family : Algorithm → KeyFamily
  | .hmac _ => .secret
  | .rsaFixed _ => .rsa
  | .rsaSalted _ => .rsa
  | .ecdsaP256 => .ellipticCurve
  | .ecdsaP384 => .ellipticCurve
  | .edwards => .edwards

end Algorithm

end MeshAccess.Token
