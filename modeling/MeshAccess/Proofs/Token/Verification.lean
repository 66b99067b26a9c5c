import MeshAccess.Proofs.NameSet
import MeshAccess.Proofs.Token.KeySet
import MeshAccess.Token.Provider

/-! This file says when a provider verifies a token. -/

namespace MeshAccess

theorem Json.object?_eq_some_iff {value : Json} {members : List (String × Json)} :
    value.object? = some members ↔ value = .object members := by
  cases value <;> simp [object?]

theorem NameSet.isEmpty_iff {set : NameSet} : set.isEmpty ↔ set = .empty := by
  rw [isEmpty, List.isEmpty_iff]
  refine ⟨fun none => ext_mem fun name => ?_, fun same => same ▸ rfl⟩
  rw [none]
  rfl

namespace Token

namespace Claims

variable {claims : Claims} {name text : String}

end Claims

namespace Parts

/-- The text of the payload. -/
def payloadText? (parts : Parts) : Option (List Char) :=
  (Text.Base64Url.decode? parts.payload.toList).bind Text.Utf8.decode?

/-- The payload spells the object that has the claims as its members. -/
def Spells (parts : Parts) (claims : Claims) : Prop :=
  ∃ text, parts.payloadText? = some text ∧
    Json.readWithin? Json.depthLimit text = some claims.toJson

variable {parts : Parts} {claims : Claims}

theorem ofJson?_eq_some_iff {value : Json} :
    Claims.ofJson? value = some claims ↔ value = claims.toJson := by
  rw [Claims.ofJson?, Option.map_eq_some_iff]
  simp only [Json.object?_eq_some_iff]
  constructor
  · rintro ⟨members, rfl, rfl⟩
    rfl
  · rintro rfl
    exact ⟨claims.members, rfl, rfl⟩

end Parts

namespace Provider

variable {provider : Provider} {token : String} {claims : Claims}

/-- A secret key without an identifier verifies what has been signed with it. -/
example : (verify? { (default : Provider) with
    keySetText := "\x7b\"keys\":[\x7b\"kty\":\"oct\",\"k\":\"YQ\"\x7d]\x7d", issuer := "i" }
    ("eyJhbGciOiJIUzI1NiJ9.eyJpc3MiOiJpIiwiYXVkIjpbIngiXX0." ++
      "25-DDTWDpKrj7RPbB_YH2vc5HXHYrlc2xzJthWgXTQg")).isSome := by
  decide +kernel

end Provider

end Token

end MeshAccess
