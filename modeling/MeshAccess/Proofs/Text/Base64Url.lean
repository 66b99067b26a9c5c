import MeshAccess.Text.Base64Url

/-! This file says that bytes can be read back from their base64 form. -/

namespace MeshAccess.Text.Base64Url

/-- The values of the digits. -/
def sextets : List UInt8 → List Nat
  | [] => []
  | [first] => [first.toNat * 16 / 64, first.toNat * 16 % 64]
  | [first, second] =>
      let bits := (first.toNat * 256 + second.toNat) * 4
      [bits / 4096, bits / 64 % 64, bits % 64]
  | first :: second :: third :: rest =>
      let bits := (first.toNat * 256 + second.toNat) * 256 + third.toNat
      bits / 262144 :: bits / 4096 % 64 :: bits / 64 % 64 :: bits % 64 :: sextets rest

theorem encode_eq (bytes : List UInt8) : encode bytes = (sextets bytes).map digit := by
  fun_induction sextets bytes with
  | case1 => rfl
  | case2 first => rfl
  | case3 first second bits => rfl
  | case4 first second third rest bits inductionHypothesis =>
      rw [encode, inductionHypothesis]
      rfl

theorem sextets_lt (bytes : List UInt8) : ∀ value ∈ sextets bytes, value < 64 := by
  fun_induction sextets bytes with
  | case1 => nofun
  | case2 first =>
      have bound := first.toNat_lt
      simp only [List.forall_mem_cons]
      exact ⟨by omega, by omega, nofun⟩
  | case3 first second bits =>
      have bound := first.toNat_lt
      have otherBound := second.toNat_lt
      simp only [List.forall_mem_cons]
      exact ⟨by omega, by omega, by omega, nofun⟩
  | case4 first second third rest bits inductionHypothesis =>
      have bound := first.toNat_lt
      have otherBound := second.toNat_lt
      have lastBound := third.toNat_lt
      simp only [List.forall_mem_cons]
      exact ⟨by omega, by omega, by omega, by omega, inductionHypothesis⟩

theorem toUInt8_eq {value : Nat} {byte : UInt8} (same : value = byte.toNat) :
    value.toUInt8 = byte := by
  rw [same]
  exact UInt8.ofNat_toNat

/-- The bytes are joined again from the values, and no bit is left over. -/
theorem join_sextets (bytes : List UInt8) : join (sextets bytes) = some bytes := by
  fun_induction sextets bytes with
  | case1 => rfl
  | case2 first =>
      have whole : first.toNat * 16 / 64 * 4 + first.toNat * 16 % 64 / 16 = first.toNat := by omega
      rw [join, if_pos (by omega), toUInt8_eq whole]
  | case3 first second bits =>
      have bound := second.toNat_lt
      have high : ((bits / 4096 * 64 + bits / 64 % 64) * 16 + bits % 64 / 4) / 256 =
          first.toNat := by omega
      have low : ((bits / 4096 * 64 + bits / 64 % 64) * 16 + bits % 64 / 4) % 256 =
          second.toNat := by omega
      rw [join, if_pos (by omega)]
      dsimp only
      rw [toUInt8_eq high, toUInt8_eq low]
  | case4 first second third rest bits inductionHypothesis =>
      have bound := second.toNat_lt
      have lastBound := third.toNat_lt
      have whole : ((bits / 262144 * 64 + bits / 4096 % 64) * 64 + bits / 64 % 64) * 64 +
          bits % 64 = bits := by omega
      have high : bits / 65536 = first.toNat := by omega
      have middle : bits / 256 % 256 = second.toNat := by omega
      have low : bits % 256 = third.toNat := by omega
      rw [join, inductionHypothesis, whole, toUInt8_eq high, toUInt8_eq middle, toUInt8_eq low]
      rfl

theorem value?_digit {value : Nat} (small : value < 64) : value? (digit value) = some value := by
  have each : ∀ value < 64, value? (digit value) = some value := by decide
  exact each value small

/-- The bytes are read back from their base64 form. -/
theorem decode?_encode (bytes : List UInt8) : decode? (encode bytes) = some bytes := by
  have read (values : List Nat) (small : ∀ value ∈ values, value < 64) :
      (values.map digit).mapM value? = some values := by
    induction values with
    | nil => rfl
    | cons value rest inductionHypothesis =>
        obtain ⟨here, others⟩ := List.forall_mem_cons.mp small
        rw [List.map_cons, List.mapM_cons, value?_digit here, inductionHypothesis others]
        rfl
  rw [decode?, encode_eq, read _ (sextets_lt bytes), Option.bind_some, join_sextets]

/-- The form has letters and digits, hyphens and underscores, and nothing else. -/
theorem mem_encode {bytes : List UInt8} {character : Char} (member : character ∈ encode bytes) :
    character.isAlphanum ∨ character = '-' ∨ character = '_' := by
  have each : ∀ value < 64,
      (digit value).isAlphanum ∨ digit value = '-' ∨ digit value = '_' := by decide
  rw [encode_eq] at member
  obtain ⟨value, among, rfl⟩ := List.mem_map.mp member
  exact each value (sextets_lt bytes value among)

end MeshAccess.Text.Base64Url
