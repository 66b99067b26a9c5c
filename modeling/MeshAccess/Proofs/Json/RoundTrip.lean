import MeshAccess.Proofs.Json.Exact
import Mathlib.Data.List.Forall2

/-! This file says that a value without floating-point numbers can be read back from its text. -/

namespace MeshAccess.Json

/-- A document that the text of a value spells, with at most `limit` containers inside each other. -/
structure IsSpelling (limit : Nat) (value : Json) (document : Document) : Prop where
  spells : Token.Spells value.write document.tokens
  read : document.value? = some value
  shallow : document.depth ≤ limit

variable {limit : Nat}

theorem exists_forall₂ {α β : Type} {related : α → β → Prop} {items : List α}
    (each : ∀ item ∈ items, ∃ other, related item other) :
    ∃ others, List.Forall₂ related items others := by
  induction items with
  | nil => exact ⟨[], .nil⟩
  | cons item rest inductionHypothesis =>
      obtain ⟨⟨other, here⟩, tail⟩ := List.forall_mem_cons.mp each
      obtain ⟨others, there⟩ := inductionHypothesis tail
      exact ⟨other :: others, .cons here there⟩

section Items

variable {items : List Json} {documents : List Document}

theorem spells_writeItems (spellings : List.Forall₂ (IsSpelling limit) items documents) :
    Token.Spells (writeItems items) (Document.itemTokens documents) := by
  induction spellings with
  | nil => exact .nil
  | cons spelling rest inductionHypothesis =>
      cases rest with
      | nil => exact spelling.spells
      | cons next others => exact spelling.spells.mark rfl inductionHypothesis

theorem values?_of_spellings (spellings : List.Forall₂ (IsSpelling limit) items documents) :
    Document.values? documents = some items := by
  induction spellings with
  | nil => rfl
  | cons spelling rest inductionHypothesis =>
      rw [Document.values?, spelling.read, inductionHypothesis]
      rfl

theorem depthItems_of_spellings (spellings : List.Forall₂ (IsSpelling limit) items documents) :
    Document.depthItems documents ≤ limit := by
  induction spellings with
  | nil => exact Nat.zero_le limit
  | cons spelling rest inductionHypothesis =>
      exact Nat.max_le.mpr ⟨spelling.shallow, inductionHypothesis⟩

theorem IsSpelling.array (spellings : List.Forall₂ (IsSpelling limit) items documents) :
    IsSpelling (limit + 1) (.array items) (.array documents) := by
  refine ⟨?_, ?_, Nat.succ_le_succ (depthItems_of_spellings spellings)⟩
  · rw [write, Document.tokens]
    exact (spells_writeItems spellings).between rfl rfl
  · rw [Document.value?, values?_of_spellings spellings, Option.map_some]

end Items

section Members

variable {members : List (String × Json)} {documents : List (String × Document)}

/-- A member of a document that the text of a member of an object spells. -/
def IsMemberSpelling (limit : Nat) (member : String × Json) (spelling : String × Document) : Prop :=
  spelling.1 = member.1 ∧ IsSpelling limit member.2 spelling.2

theorem spells_writeMembers (spellings : List.Forall₂ (IsMemberSpelling limit) members documents) :
    Token.Spells (writeMembers members) (Document.memberTokens documents) := by
  induction spellings with
  | nil => exact .nil
  | @cons member document _ _ spelling rest inductionHypothesis =>
      obtain ⟨_, value⟩ := member
      obtain ⟨name, item⟩ := document
      obtain ⟨rfl, spelling⟩ := spelling
      have named : Token.Spells (quote name ++ ':' :: value.write)
          ([.string name] ++ .colon :: item.tokens) :=
        (Token.spells_quote name).mark rfl spelling.spells
      cases rest with
      | nil => exact named
      | cons next others => exact named.mark rfl inductionHypothesis

theorem memberValues?_of_spellings
    (spellings : List.Forall₂ (IsMemberSpelling limit) members documents) :
    Document.memberValues? documents = some members := by
  induction spellings with
  | nil => rfl
  | @cons member document _ _ spelling rest inductionHypothesis =>
      rw [Document.memberValues?, spelling.2.read, inductionHypothesis, spelling.1]
      rfl

theorem depthMembers_of_spellings
    (spellings : List.Forall₂ (IsMemberSpelling limit) members documents) :
    Document.depthMembers documents ≤ limit := by
  induction spellings with
  | nil => exact Nat.zero_le limit
  | cons spelling rest inductionHypothesis =>
      exact Nat.max_le.mpr ⟨spelling.2.shallow, inductionHypothesis⟩

theorem IsSpelling.object (ascending : members.Pairwise fun first second => first.1 < second.1)
    (spellings : List.Forall₂ (IsMemberSpelling limit) members documents) :
    IsSpelling (limit + 1) (.object members) (.object documents) := by
  refine ⟨?_, ?_, Nat.succ_le_succ (depthMembers_of_spellings spellings)⟩
  · rw [write, Document.tokens]
    exact (spells_writeMembers spellings).between rfl rfl
  · rw [Document.value?, memberValues?_of_spellings spellings, Option.map_some]
    exact congrArg (fun members => some (Json.object members)) (insertMembers_of_pairwise ascending)

end Members

/-- The text of an exact value spells a document of the value. -/
theorem IsExact.exists_isSpelling {value : Json} (exact : value.IsExact limit) :
    ∃ document, IsSpelling limit value document := by
  induction exact with
  | null => exact ⟨.null, Token.spells_word rfl, rfl, Nat.zero_le _⟩
  | bool value =>
      refine ⟨.bool value, ?_, rfl, Nat.zero_le _⟩
      cases value <;> exact Token.spells_word rfl
  | @integer _ value fits =>
      refine ⟨.number (.ofInteger value), spells_integer value, ?_, Nat.zero_le _⟩
      rw [Document.value?, Numeral.ofNumeral?_ofInteger fits, Option.map_some]
  | string value => exact ⟨.string value, Token.spells_quote value, rfl, Nat.zero_le _⟩
  | array _ inductionHypothesis =>
      obtain ⟨documents, spellings⟩ := exists_forall₂ inductionHypothesis
      exact ⟨.array documents, .array spellings⟩
  | @object limit members ascending _ inductionHypothesis =>
      have each (member : String × Json) (among : member ∈ members) :
          ∃ spelling, IsMemberSpelling limit member spelling := by
        obtain ⟨document, spelling⟩ := inductionHypothesis member among
        exact ⟨(member.1, document), rfl, spelling⟩
      obtain ⟨documents, spellings⟩ := exists_forall₂ each
      exact ⟨.object documents, .object ascending spellings⟩

/-- An exact value is read back from its text. -/
theorem IsExact.readWithin?_write {value : Json} (exact : value.IsExact limit) :
    readWithin? limit value.write = some value := by
  obtain ⟨document, spells, read, shallow⟩ := exact.exists_isSpelling
  simp [readWithin?, Document.read?_of_spells spells.ofText?, read, shallow]

/-- A value that was read and holds no floating-point number is read back from its text. -/
theorem readWithin?_write {text : List Char} {value : Json}
    (read : readWithin? limit text = some value) (exact : ¬value.HoldsFloat) :
    readWithin? limit value.write = some value := by
  simp only [readWithin?, Option.bind_eq_bind, Option.bind_eq_some_iff] at read
  obtain ⟨document, _, read⟩ := read
  split at read
  case isTrue shallow => exact (Document.isExact_of_value? read exact shallow).readWithin?_write
  case isFalse => cases read

end MeshAccess.Json
