import MeshAccess.Text.Utf8
import Mathlib.Tactic.Ring

/-! This file says that a text can be read back from its UTF-8 form, and from no shorter one. -/

namespace MeshAccess.Text.Utf8

theorem toNat_toUInt8 {value : Nat} (small : value < 256) : value.toUInt8.toNat = value :=
  UInt8.toNat_ofNat_of_lt' small

variable {value top bits missing low high : Nat} {rest : List UInt8}

theorem items_one (small : value < 0x80) :
    items none (value.toUInt8 :: rest) = some (Char.ofNat value) :: items none rest := by
  rw [items, step, start, toNat_toUInt8 (by omega), if_pos small]
  rfl

theorem items_two (low : 2 ≤ top) (high : top < 0x20) :
    items none ((0xC0 + top).toUInt8 :: rest) = items (some ⟨top, 1, 0x80, 0xBF⟩) rest := by
  rw [items, step, start, toNat_toUInt8 (by omega), if_neg (by omega), if_neg (by omega),
    if_pos (by omega), Nat.add_sub_cancel_left]
  rfl

theorem items_three (high : top < 0x10) :
    items none ((0xE0 + top).toUInt8 :: rest) =
      items (some ⟨top, 2, if 0xE0 + top = 0xE0 then 0xA0 else 0x80,
        if 0xE0 + top = 0xED then 0x9F else 0xBF⟩) rest := by
  rw [items, step, start, toNat_toUInt8 (by omega), if_neg (by omega), if_neg (by omega),
    if_neg (by omega), if_pos (by omega), Nat.add_sub_cancel_left]
  rfl

theorem items_four (high : top < 5) :
    items none ((0xF0 + top).toUInt8 :: rest) =
      items (some ⟨top, 3, if 0xF0 + top = 0xF0 then 0x90 else 0x80,
        if 0xF0 + top = 0xF4 then 0x8F else 0xBF⟩) rest := by
  rw [items, step, start, toNat_toUInt8 (by omega), if_neg (by omega), if_neg (by omega),
    if_neg (by omega), if_neg (by omega), if_pos (by omega), Nat.add_sub_cancel_left]
  rfl

/-- A begun character goes on with a byte in its range, if more than one is missing. -/
theorem items_more (small : bits < 0x40) (above : low ≤ 0x80 + bits) (below : 0x80 + bits ≤ high) :
    items (some ⟨value, missing + 2, low, high⟩) ((0x80 + bits).toUInt8 :: rest) =
      items (some ⟨0x40 * value + bits, missing + 1, 0x80, 0xBF⟩) rest := by
  have inRange : (decide (low ≤ 0x80 + bits) && decide (0x80 + bits ≤ high)) = true := by
    simp [above, below]
  rw [items, step, toNat_toUInt8 (by omega), if_pos inRange, if_neg (show missing + 2 ≠ 1 by omega),
    Nat.add_sub_cancel_left]
  rfl

/-- A begun character is complete with its last byte. -/
theorem items_last (small : bits < 0x40) :
    items (some ⟨value, 1, 0x80, 0xBF⟩) ((0x80 + bits).toUInt8 :: rest) =
      some (Char.ofNat (0x40 * value + bits)) :: items none rest := by
  have inRange : (decide (0x80 ≤ 0x80 + bits) && decide (0x80 + bits ≤ 0xBF)) = true := by
    simp
    omega
  rw [items, step, toNat_toUInt8 (by omega), if_pos inRange, if_pos rfl, Nat.add_sub_cancel_left]
  rfl

/-- A character is read back from its bytes, whatever comes after them. -/
theorem items_encodeChar_append (character : Char) (rest : List UInt8) :
    items none (encodeChar character ++ rest) = some character :: items none rest := by
  have valid : character.toNat < 0xD800 ∨ 0xDFFF < character.toNat ∧ character.toNat < 0x110000 :=
    character.valid
  have same : Char.ofNat character.toNat = character := Char.ofNat_toNat character
  rw [encodeChar]
  generalize character.toNat = point at valid same
  subst same
  have small (bits : Nat) : bits % 0x40 < 0x40 := Nat.mod_lt _ (by decide)
  split
  next one => exact items_one one
  split
  next two =>
    have joined : 0x40 * (point / 0x40) + point % 0x40 = point := by omega
    rw [List.cons_append, items_two (by omega) (by omega), List.cons_append,
      items_last (small point), joined]
    rfl
  split
  next three =>
    have joined : 0x40 * (0x40 * (point / 0x1000) + point / 0x40 % 0x40) + point % 0x40 =
        point := by omega
    -- The range of the second byte leaves out the longer forms and the surrogates.
    rw [List.cons_append, items_three (by omega), List.cons_append,
      items_more (small _) (by grind) (by grind), List.cons_append,
      items_last (small point), joined]
    rfl
  next four =>
    have joined : 0x40 * (0x40 * (0x40 * (point / 0x40000) + point / 0x1000 % 0x40) +
        point / 0x40 % 0x40) + point % 0x40 = point := by omega
    rw [List.cons_append, items_four (by omega), List.cons_append,
      items_more (small _) (by grind) (by grind), List.cons_append,
      items_more (small _) (by omega) (by omega), List.cons_append,
      items_last (small point), joined]
    rfl

theorem items_encode (text : List Char) : items none (encode text) = text.map some := by
  induction text with
  | nil => rfl
  | cons character rest inductionHypothesis =>
      rw [encode, List.flatMap_cons, items_encodeChar_append, List.map_cons]
      exact congrArg (some character :: ·) inductionHypothesis

/-- A text is read back from its bytes. -/
theorem string?_bytes (text : String) : string? (bytes text) = some text := by
  have collected (characters : List Char) : (characters.map some).mapM id = some characters := by
    induction characters with
    | nil => rfl
    | cons character rest inductionHypothesis =>
        rw [List.map_cons, List.mapM_cons, inductionHypothesis]
        rfl
  rw [string?, decode?, bytes, items_encode, collected, Option.map_some, String.ofList_toList]

section Length

theorem length_encodeChar_ofNat_le {value count : Nat}
    (small : value < 0x80 ∧ count = 1 ∨ value < 0x800 ∧ count = 2 ∨
      value < 0x10000 ∧ count = 3 ∨ count = 4) :
    (encodeChar (Char.ofNat value)).length ≤ count := by
  have notGreater : (Char.ofNat value).toNat ≤ value := by
    by_cases valid : value.isValidChar
    · have same : (Char.ofNat value).toNat = value := congrArg Char.toNat (dif_pos valid)
      exact Nat.le_of_eq same
    · have zero : (Char.ofNat value).toNat = 0 := congrArg Char.toNat (dif_neg valid)
      rw [zero]
      exact Nat.zero_le value
  rw [encodeChar]
  generalize (Char.ofNat value).toNat = point at notGreater
  grind

/-- The bytes of a begun character are enough for it, whatever the missing ones are. -/
structure Begun.Fits (taken : Nat) (begun : Begun) : Prop where
  missing : 1 ≤ begun.missing
  low : 0x80 ≤ begun.low
  high : begun.high ≤ 0xBF
  enough : ∀ value < (begun.value + 1) * 0x40 ^ begun.missing,
    (encodeChar (Char.ofNat value)).length ≤ taken + begun.missing

/-- A byte leaves an ill-formed part, ends a character or is one of its bytes. -/
inductive Outcome (taken : Nat) : List (Option Char) × Option Begun → Prop where
  | illFormed {done : List (Option Char)} (next : Option Begun) (among : none ∈ done) :
      Outcome taken (done, next)
  | complete {character : Char} (enough : (encodeChar character).length ≤ taken) :
      Outcome taken ([some character], none)
  | begun {next : Begun} (fits : next.Fits taken) : Outcome taken ([], some next)

theorem outcome_start (byte : UInt8) : Outcome 1 (start byte) := by
  rw [start]
  split
  next one => exact .complete (length_encodeChar_ofNat_le (.inl ⟨one, rfl⟩))
  split
  next => exact .illFormed none (List.mem_singleton_self none)
  split
  next two =>
    refine .begun ⟨Nat.le_refl 1, Nat.le_refl _, Nat.le_refl _, fun value small => ?_⟩
    dsimp only at small
    exact length_encodeChar_ofNat_le (.inr (.inl ⟨by omega, rfl⟩))
  split
  next three =>
    refine .begun ⟨by simp, by grind, by grind, fun value small => ?_⟩
    dsimp only at small
    exact length_encodeChar_ofNat_le (.inr (.inr (.inl ⟨by omega, rfl⟩)))
  split
  next four =>
    exact .begun ⟨by simp, by grind, by grind, fun value _ =>
      length_encodeChar_ofNat_le (.inr (.inr (.inr rfl)))⟩
  next => exact .illFormed none (List.mem_singleton_self none)

theorem outcome_step {begun : Begun} {taken : Nat} (fits : begun.Fits taken) (byte : UInt8) :
    Outcome (taken + 1) (step (some begun) byte) := by
  obtain ⟨missing, low, high, enough⟩ := fits
  rw [step]
  dsimp only
  split
  next inRange =>
    rw [Bool.and_eq_true, decide_eq_true_eq, decide_eq_true_eq] at inRange
    split
    next last =>
      rw [last] at enough
      exact .complete (enough _ (by omega))
    next more =>
      obtain ⟨others, counted⟩ : ∃ others, begun.missing = others + 2 :=
        Nat.exists_eq_add_of_le' (by omega)
      have below : (0x40 * begun.value + (byte.toNat - 0x80) + 1) * 0x40 ^ (others + 1) ≤
          (begun.value + 1) * 0x40 ^ (others + 2) := by
        have power : 0x40 ^ (others + 2) = 0x40 * 0x40 ^ (others + 1) := Nat.pow_succ'
        rw [power, ← Nat.mul_assoc]
        exact Nat.mul_le_mul_right _ (by omega)
      have left : begun.missing - 1 = others + 1 := by omega
      rw [counted] at enough
      rw [left]
      refine .begun ⟨Nat.le_add_left 1 others, Nat.le_refl _, Nat.le_refl _, fun value small => ?_⟩
      have bound := enough value (Nat.lt_of_lt_of_le small below)
      dsimp only
      omega
  next => exact .illFormed _ List.mem_cons_self

/-- The number of bytes that a beginning has taken. -/
def HasTaken (taken : Nat) : Option Begun → Prop
  | none => taken = 0
  | some begun => begun.Fits taken

theorem length_encode_le {begun : Option Begun} {taken : Nat} (hasTaken : HasTaken taken begun)
    {bytes : List UInt8} {text : List Char} (read : items begun bytes = text.map some) :
    (encode text).length ≤ taken + bytes.length := by
  induction bytes generalizing begun taken text with
  | nil =>
      cases begun with
      | none =>
          rw [List.map_eq_nil_iff.mp read.symm]
          exact Nat.zero_le _
      | some begun => cases text <;> cases read
  | cons byte rest inductionHypothesis =>
      have outcome : Outcome (taken + 1) (step begun byte) := by
        cases begun with
        | none =>
            cases hasTaken
            exact outcome_start byte
        | some begun => exact outcome_step hasTaken byte
      rw [items] at read
      generalize step begun byte = result at outcome read
      rw [List.length_cons]
      cases outcome with
      | @illFormed done next among =>
          have member : none ∈ text.map some :=
            (show done ++ items next rest = _ from read) ▸ List.mem_append_left _ among
          simp at member
      | complete enough =>
          cases text with
          | nil => cases read
          | cons first others =>
              obtain ⟨head, tail⟩ := List.cons.inj read
              cases head
              have otherBytes := inductionHypothesis (show HasTaken 0 none from rfl) tail
              rw [encode] at otherBytes
              rw [encode, List.flatMap_cons, List.length_append]
              omega
      | @begun next fits =>
          have begun : HasTaken (taken + 1) (some next) := fits
          have allBytes := inductionHypothesis begun read
          omega

theorem eq_map_some_of_mapM_id {items : List (Option Char)} {characters : List Char}
    (collected : items.mapM id = some characters) : items = characters.map some := by
  induction items generalizing characters with
  | nil =>
      cases collected
      rfl
  | cons item rest inductionHypothesis =>
      rw [List.mapM_cons] at collected
      obtain ⟨first, rfl, others⟩ := Option.bind_eq_some_iff.mp collected
      obtain ⟨tail, restCollected, same⟩ := Option.bind_eq_some_iff.mp others
      cases same
      rw [inductionHypothesis restCollected]
      rfl

/-- A text takes at most the bytes that it is read from. -/
theorem length_bytes_le {content : List UInt8} {text : String}
    (read : string? content = some text) : (bytes text).length ≤ content.length := by
  obtain ⟨characters, decoded, rfl⟩ := Option.map_eq_some_iff.mp read
  have bound := length_encode_le (show HasTaken 0 none from rfl) (eq_map_some_of_mapM_id decoded)
  rwa [bytes, String.toList_ofList, ← Nat.zero_add content.length]

end Length

end MeshAccess.Text.Utf8
