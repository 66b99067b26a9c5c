import MeshAccess.NameSet
import Mathlib.Data.List.Sort

/-! This file says what the operations on finite sets do to the membership of each name. -/

namespace MeshAccess.NameSet

theorem contains_iff_mem {set : NameSet} {name : String} :
    set.contains name ↔ name ∈ set.toList := by
  rw [contains, List.contains_iff_mem]

theorem contains_insert (set : NameSet) (name other : String) :
    (set.insert name).contains other = (decide (other = name) || set.contains other) := by
  rw [Bool.eq_iff_iff, contains_iff_mem, Bool.or_eq_true, contains_iff_mem, decide_eq_true_iff]
  exact mem_insertSorted

theorem contains_erase (set : NameSet) (name other : String) :
    (set.erase name).contains other = (decide (other ≠ name) && set.contains other) := by
  rw [Bool.eq_iff_iff, contains_iff_mem, Bool.and_eq_true, contains_iff_mem, and_comm]
  exact List.mem_filter

theorem ext_mem {first second : NameSet}
    (same : ∀ name, name ∈ first.toList ↔ name ∈ second.toList) : first = second := by
  have equal := first.sorted.eq_of_mem_iff second.sorted same
  cases first
  cases second
  cases equal
  rfl

theorem mem_foldl_insert {names : List String} {set : NameSet} {name : String} :
    name ∈ (names.foldl insert set).toList ↔ name ∈ names ∨ name ∈ set.toList := by
  induction names generalizing set with
  | nil => simp
  | cons head rest inductionHypothesis =>
      rw [List.foldl_cons, inductionHypothesis, List.mem_cons]
      show _ ∨ name ∈ insertSorted head set.toList ↔ _
      rw [mem_insertSorted]
      tauto

theorem mem_ofList {names : List String} {name : String} :
    name ∈ (ofList names).toList ↔ name ∈ names := by
  rw [ofList, mem_foldl_insert]
  simp [empty]

end MeshAccess.NameSet
