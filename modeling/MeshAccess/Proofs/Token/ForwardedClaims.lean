import MeshAccess.Proofs.Json.RoundTrip
import MeshAccess.Proofs.Text.Base64Url
import MeshAccess.Proofs.Text.Utf8
import MeshAccess.Proofs.Token.Verification

/-! This file says that the payload that is sent on carries the claims. -/

namespace MeshAccess.Token.Claims

/-- The payload has base64 digits only, and the claims are read back from it. -/
theorem forwardPayload_carriesClaims {text : String} {claims : Claims}
    (read : read? text = some claims) (exact : ¬claims.toJson.HoldsFloat) :
    (∀ character ∈ claims.forwardPayload.toList,
        character.isAlphanum ∨ character = '-' ∨ character = '_') ∧
      ∃ content carried,
        Text.Base64Url.decode? claims.forwardPayload.toList = some content ∧
          Text.Utf8.string? content = some carried ∧ read? carried = some claims := by
  have payload : claims.forwardPayload.toList =
      Text.Base64Url.encode (Text.Utf8.bytes claims.toJson.print) := by
    rw [forwardPayload, String.toList_ofList, Text.Utf8.bytes, Json.print, String.toList_ofList]
  rw [payload]
  refine ⟨fun character member => Text.Base64Url.mem_encode member, _, claims.toJson.print,
    Text.Base64Url.decode?_encode _, Text.Utf8.string?_bytes _, ?_⟩
  obtain ⟨value, readValue, isClaims⟩ := Option.bind_eq_some_iff.mp read
  obtain rfl : value = claims.toJson := Parts.ofJson?_eq_some_iff.mp isClaims
  have readBack := Json.readWithin?_write readValue exact
  rw [read?, Json.read?, Json.print, String.toList_ofList, readBack]
  exact isClaims

/-- The names are not in order, and a text holds a quote, a backslash and control characters. -/
def escapedText : String :=
  "\x7b\"sub\":\"a\\\"\\\\\\u0001\\n\\ud83d\\ude00\", " ++
    "\"aud\":[-10, [], \x7b\x7d, null, true]\x7d"

def escapedDocument : Json.Document :=
  .object [("sub", .string "a\"\\\x01\n😀"), ("aud", .array
    [.number ⟨true, ['1', '0'], [], none⟩, .array [], .object [], .null, .bool true])]

def escapedClaims : Claims :=
  ⟨[("aud", .array [.ofInt (-10), .array [], .object [], .null, .bool true]),
    ("sub", .string "a\"\\\x01\n😀")]⟩

theorem forwardPayload_carriesClaims_escaped :
    read? escapedText = some escapedClaims ∧ ¬escapedClaims.toJson.HoldsFloat ∧
      (∀ character ∈ escapedClaims.forwardPayload.toList,
        character.isAlphanum ∨ character = '-' ∨ character = '_') ∧
      ∃ content carried,
        Text.Base64Url.decode? escapedClaims.forwardPayload.toList = some content ∧
          Text.Utf8.string? content = some carried ∧ read? carried = some escapedClaims := by
  have spells : Json.Token.ofText? escapedText.toList = some escapedDocument.tokens := by
    decide +kernel
  have value : Json.read? escapedText = some escapedClaims.toJson := by
    rw [Json.read?, Json.readWithin?, Json.Document.read?_of_spells spells]
    rfl
  have read : read? escapedText = some escapedClaims := by
    rw [read?, value]
    rfl
  have exact : ¬escapedClaims.toJson.HoldsFloat := by
    simp [toJson, escapedClaims]
  exact ⟨read, exact, forwardPayload_carriesClaims read exact⟩

end MeshAccess.Token.Claims
