import MeshAccess.Wire.Reader
import Mathlib.Tactic.Ring

/-! This file says that the fields of a message can be told apart by their tags. -/

namespace MeshAccess.Wire

namespace MessageType

variable (type : MessageType)

/-- No tag belongs to two fields of a type, or to two variants of a field. -/
theorem tags_nodup : (type.fields.flatMap fun field => field.shape.tags).Nodup := by
  cases type <;> decide

/-- Every tag fits into a key. -/
theorem tags_inRange :
    ∀ field ∈ type.fields, ∀ tag ∈ field.shape.tags, 1 ≤ tag ∧ tag < 2 ^ 29 := by
  cases type <;> decide

end MessageType

variable {fields : List Field} {field : Field} {tag : Nat}

theorem find?_tags (distinct : (fields.flatMap fun field => field.shape.tags).Nodup)
    (member : field ∈ fields) (among : tag ∈ field.shape.tags) :
    (fields.find? fun field => field.shape.tags.contains tag) = some field := by
  induction fields with
  | nil => cases member
  | cons head rest inductionHypothesis =>
      obtain ⟨_, others, apart⟩ := List.nodup_append.mp distinct
      rcases List.mem_cons.mp member with rfl | member
      · exact List.find?_cons_of_pos (List.contains_iff_mem.mpr among)
      · have elsewhere : head.shape.tags.contains tag = false := by
          rw [← Bool.not_eq_true, List.contains_iff_mem]
          intro here
          exact apart tag here tag (List.mem_flatMap.mpr ⟨field, member, among⟩) rfl
        rw [List.find?_cons, elsewhere]
        exact inductionHypothesis others member

/-- The records of a field are read as its shape says. -/
theorem fieldReading_eq (distinct : (fields.flatMap fun field => field.shape.tags).Nodup)
    (member : field ∈ fields) (among : tag ∈ field.shape.tags) :
    fieldReading fields tag =
      match field.shape with
      | .map _ _ => .asDelimited
      | _ => .asWritten := by
  rewrite [fieldReading, find?_tags distinct member among]
  rfl

end MeshAccess.Wire
