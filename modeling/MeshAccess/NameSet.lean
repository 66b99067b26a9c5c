/-!
This file holds finite sets of names.

The names stand in ascending order, so two sets with the same names are equal.
-/

namespace MeshAccess

/-- A finite set of names. -/
structure NameSet where
  toList : List String
  sorted : toList.Pairwise (· < ·)
  deriving DecidableEq, Repr

namespace NameSet

def empty : NameSet := ⟨[], .nil⟩

instance : Inhabited NameSet := ⟨empty⟩

/-- This function puts a name into a sorted list that may hold it already. -/
def insertSorted (name : String) : List String → List String
  | [] => [name]
  | head :: rest =>
      if name < head then name :: head :: rest
      else if name = head then head :: rest
      else head :: insertSorted name rest

theorem mem_insertSorted {name other : String} {names : List String} :
    other ∈ insertSorted name names ↔ other = name ∨ other ∈ names := by
  induction names with
  | nil => simp [insertSorted]
  | cons head rest inductionHypothesis => grind [insertSorted]

theorem pairwise_insertSorted (name : String) {names : List String}
    (sorted : names.Pairwise (· < ·)) : (insertSorted name names).Pairwise (· < ·) := by
  induction names with
  | nil => simp [insertSorted]
  | cons head rest inductionHypothesis =>
      obtain ⟨above, tail⟩ := List.pairwise_cons.mp sorted
      rw [insertSorted]
      split
      next below =>
        refine List.pairwise_cons.mpr ⟨fun other member => ?_, sorted⟩
        rcases List.mem_cons.mp member with rfl | member
        · exact below
        · exact String.lt_trans below (above other member)
      next notBelow =>
        split
        next => exact sorted
        next different =>
          refine List.pairwise_cons.mpr ⟨fun other member => ?_, inductionHypothesis tail⟩
          rcases mem_insertSorted.mp member with rfl | member
          · grind
          · exact above other member

def insert (set : NameSet) (name : String) : NameSet :=
  ⟨insertSorted name set.toList, pairwise_insertSorted name set.sorted⟩

def erase (set : NameSet) (name : String) : NameSet :=
  ⟨set.toList.filter (· ≠ name), set.sorted.filter _⟩

def ofList (names : List String) : NameSet := names.foldl insert empty

def contains (set : NameSet) (name : String) : Bool := set.toList.contains name

def isEmpty (set : NameSet) : Bool := set.toList.isEmpty

end NameSet

end MeshAccess
