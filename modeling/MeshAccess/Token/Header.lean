import MeshAccess.Token.Claims
import MeshAccess.Token.KeySet

/-!
This file reads the first part of a token.
-/

namespace MeshAccess.Token

/-- What the first part of a token says about its signature. -/
structure Header where
  algorithm : Algorithm
  keyId : Option String
  deriving DecidableEq, Repr

namespace Header

open Json.Record

/-- The fields of a header in their order. -/
def fieldNames : List String :=
  ["typ", "alg", "cty", "jku", "jwk", "kid", "x5u", "x5c", "x5t", "x5t#S256"]

/-- The header that a document spells. -/
def ofDocument? (document : Json.Document) : Option Header := do
  let members ← members? fieldNames document
  let _ ← optional? text? members "typ"
  let algorithm ← (← required? choice? members "alg") |> Algorithm.ofName?
  let _ ← optional? text? members "cty"
  let _ ← optional? text? members "jku"
  let _ ← optional? (Key.read? 1) members "jwk"
  let keyId ← optional? text? members "kid"
  let _ ← optional? text? members "x5u"
  let _ ← optional? texts? members "x5c"
  let _ ← optional? text? members "x5t"
  let _ ← optional? text? members "x5t#S256"
  return ⟨algorithm, keyId⟩

/-- The header that a part of a token spells. -/
def read? (part : String) : Option Header := do
  let bytes ← Text.Base64Url.decode? part.toList
  let text ← Text.Utf8.decode? bytes
  ofDocument? (← Json.Document.read? text)

end Header

/-- The three parts of a token. The last two dots separate them. -/
structure Parts where
  header : String
  payload : String
  signature : String
  deriving DecidableEq, Repr

namespace Parts

/-- The text before the last dot and the text after it. -/
def splitLast? (text : List Char) : Option (List Char × List Char) :=
  let reversed := text.reverse
  match reversed.dropWhile (· ≠ '.') with
  | _ :: front => some (front.reverse, (reversed.takeWhile (· ≠ '.')).reverse)
  | [] => none

def ofToken? (token : String) : Option Parts := do
  let (message, signature) ← splitLast? token.toList
  let (header, payload) ← splitLast? message
  return ⟨String.ofList header, String.ofList payload, String.ofList signature⟩

/-- The text that the signature is for. -/
def message (parts : Parts) : String := parts.header ++ "." ++ parts.payload

end Parts

/-- The members of a payload that must not be of the given kinds, or stand twice. -/
def reservedNames : List String := ["exp", "nbf", "sub", "iss", "aud"]

namespace Claims

/-- A time may not be a container with something in it. -/
def isTime : Json.Document → Bool
  | .array items => items.isEmpty
  | .object members => members.isEmpty
  | _ => true

/-- A subject may not be a container. -/
def isSubject : Json.Document → Bool
  | .array _ => false
  | .object _ => false
  | _ => true

/-- The reserved members of a payload have the right kinds and stand once. -/
def hasReservedFields (members : List (String × Json.Document)) : Bool :=
  (reservedNames.all fun name => (Json.Record.field? members name).isSome) &&
    (members.all fun member =>
      if member.1 = "exp" || member.1 = "nbf" then isTime member.2
      else if member.1 = "sub" then isSubject member.2
      else true)

/-- The claims that a payload spells. -/
def ofPayload? (part : String) : Option Claims := do
  let bytes ← Text.Base64Url.decode? part.toList
  let document ← Json.Document.read? (← Text.Utf8.decode? bytes)
  match document with
  | .object members =>
      if Json.depthLimit < document.depth || !hasReservedFields members then none
      else document.value?.bind ofJson?
  | _ => none

end Claims

/-- The claims of a token that one of the candidate keys of a set has signed. -/
def verify? (keys : KeySet) (token : String) : Option Claims := do
  let parts ← Parts.ofToken? token
  let header ← Header.read? parts.header
  let signs := fun key : Key => key.verifies header.algorithm parts.message parts.signature
  if (keys.candidates header.keyId).any signs then Claims.ofPayload? parts.payload else none

end MeshAccess.Token
