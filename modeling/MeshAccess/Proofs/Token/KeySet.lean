import MeshAccess.Token.KeySet
import Mathlib.Data.List.Nodup

/-! This file says which keys of a set can have signed a token. -/

namespace MeshAccess

/-- A blank is no letter and no digit. -/
theorem Text.Blank.isAlphanum_of_isBlank {character : Char} (blank : isBlank character) :
    character.isAlphanum = false := by
  rw [← Bool.not_eq_true]
  intro mark
  delta Char.isAlphanum Char.isAlpha Char.isUpper Char.isLower Char.isDigit at mark
  simp only [ge_iff_le, UInt32.le_iff_toNat_le, Bool.or_eq_true, Bool.and_eq_true,
    decide_eq_true_eq] at mark
  change (((65 ≤ character.toNat ∧ character.toNat ≤ 90) ∨
    97 ≤ character.toNat ∧ character.toNat ≤ 122) ∨
      48 ≤ character.toNat ∧ character.toNat ≤ 57) at mark
  simp only [isBlank, Bool.or_eq_true, Bool.and_eq_true, decide_eq_true_eq] at blank
  omega

namespace Json

/-- Between tokens a blank is passed over or refused. -/
theorem Token.scanStart_of_isBlank {character : Char} (blank : Text.Blank.isBlank character) :
    scanStart character = some ([], .nothing) ∨ scanStart character = none := by
  unfold scanStart
  split
  case h_8 =>
    have noMark : character ≠ '-' := by
      rintro rfl
      exact absurd blank (by decide)
    obtain ⟨noLetter, noDigit⟩ :=
      Bool.or_eq_false_iff.mp (Text.Blank.isAlphanum_of_isBlank blank)
    rw [noLetter, noDigit, decide_eq_false noMark]
    split
    · exact .inl rfl
    · exact .inr rfl
  all_goals exact absurd blank (by decide)

/-- A blank text has no tokens. -/
theorem Token.scanAll?_of_isAllBlank {text : List Char} (blank : text.all Text.Blank.isBlank) :
    scanAll? [] .nothing text = some [] ∨ scanAll? [] .nothing text = none := by
  induction text with
  | nil => exact .inl rfl
  | cons character rest inductionHypothesis =>
      obtain ⟨first, others⟩ := Bool.and_eq_true_iff.mp (List.all_cons ▸ blank)
      rw [scanAll?, scan]
      rcases scanStart_of_isBlank first with passed | refused
      · rw [passed]
        exact inductionHypothesis others
      · rw [refused]
        exact .inr rfl

/-- A blank text spells no document. -/
theorem Document.read?_of_isAllBlank {text : String} (blank : Text.Blank.isAllBlank text) :
    read? text.toList = none := by
  rw [read?, Token.ofText?]
  rcases Token.scanAll?_of_isAllBlank blank with empty | refused
  · rw [empty]
    rfl
  · rw [refused]
    rfl

namespace Record

end Record

end Json

namespace Token.KeySet

variable {set : KeySet} {id : Option String} {key : Key}

theorem find?_eq_some_iff {name : String} :
    set.find? name = some key ↔ ∃ before after, set.keys = before ++ key :: after ∧
      key.id = some name ∧ ∀ earlier ∈ before, earlier.id ≠ some name := by
  simp only [find?, List.find?_eq_some_iff_append, decide_eq_true_eq, Bool.not_eq_true',
    decide_eq_false_iff_not]
  constructor
  · rintro ⟨has, before, after, divided, first⟩
    exact ⟨before, after, divided, has, first⟩
  · rintro ⟨before, after, divided, has, first⟩
    exact ⟨has, before, after, divided, first⟩

variable {other : KeySet}

/-- The second document is the first one with its keys in another order. -/
inductive Reorders : Json.Document → Json.Document → Prop where
  | object {before after : List (String × Json.Document)} {items reordered : List Json.Document}
      (same : items.Perm reordered) :
      Reorders (.object (before ++ ("keys", .array items) :: after))
        (.object (before ++ ("keys", .array reordered) :: after))
  | array {items reordered : List Json.Document} (same : items.Perm reordered) :
      Reorders (.array [.array items]) (.array [.array reordered])

theorem Reorders.symm {first second : Json.Document} (reorders : Reorders first second) :
    Reorders second first := by
  cases reorders with
  | object same => exact .object same.symm
  | array same => exact .array same.symm

/-- The blank texts are among those that spell no document. -/
theorem read?_eq (text : String) :
    read? text = (Json.Document.read? text.toList).bind ofDocument? := by
  rw [read?]
  split
  next blank => rw [Json.Document.read?_of_isAllBlank blank, Option.bind_none]
  next => rfl

end Token.KeySet

end MeshAccess
