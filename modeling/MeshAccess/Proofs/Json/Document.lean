import MeshAccess.Json.Document

/-! This file says that the reader finds a document in its tokens. -/

namespace MeshAccess.Json.Document

mutual

/-- The tokens of a document, without blanks between them. -/
def tokens : Document → List Token
  | .null => [.null]
  | .bool value => [.bool value]
  | .number value => [.numeral value]
  | .string value => [.string value]
  | .array items => .openArray :: itemTokens items ++ [.closeArray]
  | .object members => .openObject :: memberTokens members ++ [.closeObject]

/-- The tokens of items with commas between them. -/
def itemTokens : List Document → List Token
  | [] => []
  | [item] => item.tokens
  | item :: rest => item.tokens ++ .comma :: itemTokens rest

def memberTokens : List (String × Document) → List Token
  | [] => []
  | [(name, item)] => .string name :: .colon :: item.tokens
  | (name, item) :: rest => .string name :: .colon :: item.tokens ++ .comma :: memberTokens rest

end

/-- What holds of a container if it holds of its parts, and of every other document, holds of all. -/
theorem inductionOnParts {motive : Document → Prop} (null : motive .null)
    (bool : ∀ value, motive (.bool value)) (number : ∀ value, motive (.number value))
    (string : ∀ value, motive (.string value))
    (array : ∀ items, (∀ item ∈ items, motive item) → motive (.array items))
    (object : ∀ members, (∀ member ∈ members, motive member.2) → motive (.object members))
    (document : Document) : motive document :=
  @Document.rec motive (fun items => ∀ item ∈ items, motive item)
    (fun members => ∀ member ∈ members, motive member.2) (fun member => motive member.2)
    null bool number string array object
    nofun (fun _ _ here others => List.forall_mem_cons.mpr ⟨here, others⟩)
    nofun (fun _ _ here others => List.forall_mem_cons.mpr ⟨here, others⟩)
    (fun _ _ here => here) document

namespace Reader

variable {frames : List Frame} {after : List Token}

/-- The reader delivers the document, whichever containers are open and whatever comes after it. -/
def Reads (document : Document) : Prop :=
  ∀ frames after,
    run ⟨frames, .value⟩ (document.tokens ++ after) = run (deliver document frames) after

/-- The first item of an array is read as every other value. -/
theorem run_firstItem {items : List Document} (notEmpty : items ≠ []) :
    run ⟨frames, .firstItem⟩ (itemTokens items ++ after) =
      run ⟨frames, .value⟩ (itemTokens items ++ after) := by
  match items with
  | [item] => cases item <;> rfl
  | item :: next :: rest => cases item <;> rfl

theorem run_firstName {members : List (String × Document)} (notEmpty : members ≠ []) :
    run ⟨frames, .firstName []⟩ (memberTokens members ++ after) =
      run ⟨frames, .name []⟩ (memberTokens members ++ after) := by
  match members with
  | [(name, item)] => rfl
  | (name, item) :: next :: rest => rfl

/-- The items of an array that is open are read up to its end. -/
theorem run_itemTokens {items : List Document} (read : ∀ item ∈ items, Reads item)
    (notEmpty : items ≠ []) (reversed : List Document) :
    run ⟨.array reversed :: frames, .value⟩ (itemTokens items ++ .closeArray :: after) =
      run (deliver (.array (reversed.reverse ++ items)) frames) after := by
  induction items generalizing reversed with
  | nil => exact absurd rfl notEmpty
  | cons item rest inductionHypothesis =>
      obtain ⟨readItem, readRest⟩ := List.forall_mem_cons.mp read
      cases rest with
      | nil =>
          rw [itemTokens, readItem, ← List.reverse_cons]
          rfl
      | cons next others =>
          have readNext := inductionHypothesis readRest (List.cons_ne_nil next others)
            (item :: reversed)
          rw [List.reverse_cons, ← List.append_cons] at readNext
          rw [itemTokens, List.append_assoc, readItem, ← readNext]
          · rfl
          · nofun

theorem run_memberTokens {members : List (String × Document)}
    (read : ∀ member ∈ members, Reads member.2) (notEmpty : members ≠ [])
    (reversed : List (String × Document)) :
    run ⟨frames, .name reversed⟩ (memberTokens members ++ .closeObject :: after) =
      run (deliver (.object (reversed.reverse ++ members)) frames) after := by
  induction members generalizing reversed with
  | nil => exact absurd rfl notEmpty
  | cons member rest inductionHypothesis =>
      obtain ⟨name, item⟩ := member
      obtain ⟨readItem, readRest⟩ := List.forall_mem_cons.mp read
      -- The name and the colon open the member, and its value is delivered to it.
      have opened (others : List Token) :
          run ⟨frames, .name reversed⟩ (.string name :: .colon :: item.tokens ++ others) =
            run ⟨.object ((name, item) :: reversed) name :: frames, .afterValue⟩ others :=
        readItem (.object reversed name :: frames) others
      cases rest with
      | nil =>
          rw [memberTokens, opened, ← List.reverse_cons]
          rfl
      | cons next others =>
          have readNext := inductionHypothesis readRest (List.cons_ne_nil next others)
            ((name, item) :: reversed)
          rw [List.reverse_cons, ← List.append_cons] at readNext
          rw [memberTokens, List.append_assoc, opened, ← readNext]
          · rfl
          · nofun

end Reader

/-- The reader finds every document in its tokens. -/
theorem reads (document : Document) : Reader.Reads document := by
  induction document using inductionOnParts with
  | null => exact fun _ _ => rfl
  | bool value => exact fun _ _ => rfl
  | number value => exact fun _ _ => rfl
  | string value => exact fun _ _ => rfl
  | array items inductionHypothesis =>
      intro frames after
      cases items with
      | nil => rfl
      | cons item rest =>
          have notEmpty := List.cons_ne_nil item rest
          show Reader.run ⟨.array [] :: frames, .firstItem⟩
            (itemTokens (item :: rest) ++ [.closeArray] ++ after) = _
          rw [List.append_assoc, Reader.run_firstItem notEmpty]
          exact Reader.run_itemTokens inductionHypothesis notEmpty []
  | object members inductionHypothesis =>
      intro frames after
      cases members with
      | nil => rfl
      | cons member rest =>
          have notEmpty := List.cons_ne_nil member rest
          show Reader.run ⟨frames, .firstName []⟩
            (memberTokens (member :: rest) ++ [.closeObject] ++ after) = _
          rw [List.append_assoc, Reader.run_firstName notEmpty]
          exact Reader.run_memberTokens inductionHypothesis notEmpty []

theorem read?_of_spells {text : List Char} {document : Document}
    (spells : Token.ofText? text = some document.tokens) : read? text = some document := by
  have delivered := document.reads [] []
  rw [List.append_nil] at delivered
  simp only [read?, spells, Option.bind_eq_bind, Option.bind_some, delivered]
  rfl

end MeshAccess.Json.Document
