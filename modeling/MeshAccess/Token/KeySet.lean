import MeshAccess.Crypto.Edwards
import MeshAccess.Crypto.Rsa
import MeshAccess.Crypto.Weierstrass
import MeshAccess.Json.Record
import MeshAccess.Text.Base64Url
import MeshAccess.Text.Blank
import MeshAccess.Text.Utf8
import MeshAccess.Token.Algorithm

/-!
This file holds the keys that tokens are checked with.

A key set is read from a JSON text. One key that is not well-formed spoils the whole set.
-/

namespace MeshAccess.Token

/-- The parts of a key, still in their base64 form. -/
inductive KeyMaterial where
  | ellipticCurve (x y : String)
  | rsa (modulus exponent : String)
  | secret (value : String)
  | edwards (point : String)
  deriving DecidableEq, Repr

/-- A key, which may have an identifier. -/
structure Key where
  id : Option String
  material : KeyMaterial
  deriving DecidableEq, Repr

namespace KeyMaterial

def family : KeyMaterial → KeyFamily
  | .ellipticCurve _ _ => .ellipticCurve
  | .rsa _ _ => .rsa
  | .secret _ => .secret
  | .edwards _ => .edwards

def bytes? (text : String) : Option (List UInt8) := Text.Base64Url.decode? text.toList

/-- The signature of a message, in base64 form, is right under an elliptic curve. -/
def verifiesOn (curve : Crypto.Weierstrass.Curve) (x y : String) (message signature : String) :
    Bool :=
  (do
    let key ← curve.publicKey? ((← bytes? x) ++ (← bytes? y))
    return curve.verifies key (Text.Utf8.bytes message) (← bytes? signature)).getD false

def verifiesRsa (scheme : Crypto.Rsa.Scheme) (hash : Crypto.Hash) (modulus exponent : String)
    (message signature : String) : Bool :=
  (do
    let key ← Crypto.Rsa.PublicKey.ofBytes? (← bytes? modulus) (← bytes? exponent)
    return Crypto.Rsa.verifies scheme hash key (Text.Utf8.bytes message)
      (← bytes? signature)).getD false

/-- The signature of a message, in base64 form, is right under this key and an algorithm. A key
verifies nothing under an algorithm for other keys. -/
def verifies (material : KeyMaterial) (algorithm : Algorithm) (message signature : String) : Bool :=
  match algorithm, material with
  | .hmac hash, .secret value =>
      (bytes? value).any fun key =>
        signature.toList =
          Text.Base64Url.encode (Crypto.Hmac.tag hash key (Text.Utf8.bytes message))
  | .rsaFixed hash, .rsa modulus exponent =>
      verifiesRsa .fixed hash modulus exponent message signature
  | .rsaSalted hash, .rsa modulus exponent =>
      verifiesRsa .salted hash modulus exponent message signature
  | .ecdsaP256, .ellipticCurve x y => verifiesOn Crypto.Weierstrass.p256 x y message signature
  | .ecdsaP384, .ellipticCurve x y => verifiesOn Crypto.Weierstrass.p384 x y message signature
  | .edwards, .edwards point =>
      (do
        return Crypto.Edwards.verifies (← bytes? point) (Text.Utf8.bytes message)
          (← bytes? signature)).getD false
  | _, _ => false

end KeyMaterial

namespace Key

open Json (Document)
open Json.Record

/-- The names of curves. -/
def curveNames : List String := ["P-256", "P-384", "P-521", "Ed25519"]

/-- The names of the algorithms that a key may be for, beside the signature algorithms. -/
def otherAlgorithmNames : List String := ["RSA1_5", "RSA-OAEP", "RSA-OAEP-256"]

def isAlgorithmName (name : String) : Bool :=
  (Algorithm.ofName? name).isSome || otherAlgorithmNames.contains name

/-- The curve of a key. Any curve of the list may be given with any key. -/
def hasCurve (members : List (String × Document)) : Bool :=
  (required? choice? members "crv").any curveNames.contains

/-- The kind of a key is the given one. -/
def hasKind (kind : String) (members : List (String × Document)) : Bool :=
  required? choice? members "kty" = some kind

def ellipticCurve? (members : List (String × Document)) : Option KeyMaterial := do
  if hasKind "EC" members && hasCurve members then
    return .ellipticCurve (← required? text? members "x") (← required? text? members "y")
  else none

def rsa? (members : List (String × Document)) : Option KeyMaterial := do
  if hasKind "RSA" members then
    return .rsa (← required? text? members "n") (← required? text? members "e")
  else none

def secret? (members : List (String × Document)) : Option KeyMaterial := do
  if hasKind "oct" members then return .secret (← required? text? members "k") else none

def edwards? (members : List (String × Document)) : Option KeyMaterial := do
  if hasKind "OKP" members && hasCurve members then
    return .edwards (← required? text? members "x")
  else none

/-- The key that a document spells. All its numbers must be in range. -/
def ofDocument? (document : Document) : Option Key := do
  let _ ← document.value?
  match document with
  | .object members =>
      let _ ← optional? text? members "use"
      let _ ← optional? texts? members "key_ops"
      let algorithm ← optional? choice? members "alg"
      if !algorithm.all isAlgorithmName then none
      let id ← optional? text? members "kid"
      let _ ← optional? text? members "x5u"
      let _ ← optional? texts? members "x5c"
      let _ ← optional? text? members "x5t"
      let _ ← optional? text? members "x5t#S256"
      let material ←
        ellipticCurve? members <|> rsa? members <|> secret? members <|> edwards? members
      return ⟨id, material⟩
  | _ => none

/-- The number of containers that may stand inside each other in a key. -/
def depthLimit (outer : Nat) : Nat := Json.depthLimit - outer

/-- The key inside `outer` containers. -/
def read? (outer : Nat) (document : Document) : Option Key :=
  if document.depth ≤ depthLimit outer then ofDocument? document else none

def verifies (key : Key) (algorithm : Algorithm) (message signature : String) : Bool :=
  key.material.verifies algorithm message signature

end Key

/-- Several keys. -/
structure KeySet where
  keys : List Key
  deriving DecidableEq, Repr

namespace KeySet

open Json.Record

def ofDocument? (document : Json.Document) : Option KeySet := do
  let members ← members? ["keys"] document
  match ← requiredField? members "keys" with
  | .array items => return ⟨← items.mapM (Key.read? 2)⟩
  | _ => none

/-- The key set that a text spells. A blank text spells none. -/
def read? (text : String) : Option KeySet :=
  if Text.Blank.isAllBlank text then none
  else (Json.Document.read? text.toList).bind ofDocument?

/-- The first key with the given identifier. -/
def find? (set : KeySet) (id : String) : Option Key := set.keys.find? fun key => key.id = some id

/-- The keys that may have signed a token: the one with its identifier, or all of them. -/
def candidates (set : KeySet) (id : Option String) : List Key :=
  match id.bind set.find? with
  | some key => [key]
  | none => set.keys

end KeySet

end MeshAccess.Token
