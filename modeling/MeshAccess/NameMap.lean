/-!
This file holds finite maps from names.

The entries stand in ascending order of their names, so two maps with the same entries are equal.
Insertion replaces the entry of the same name.
-/

namespace MeshAccess

/-- A finite map from names. -/
structure NameMap (α : Type) where
  entries : List (String × α)
  sorted : entries.Pairwise fun first second => first.1 < second.1
  deriving DecidableEq, Repr

namespace NameMap

variable {α β : Type}

def empty : NameMap α := ⟨[], .nil⟩

instance : Inhabited (NameMap α) := ⟨empty⟩

/-- This function puts an entry into a sorted list, in place of an entry of the same name. -/
def insertSorted (name : String) (value : α) : List (String × α) → List (String × α)
  | [] => [(name, value)]
  | head :: rest =>
      if name < head.1 then (name, value) :: head :: rest
      else if name = head.1 then (name, value) :: rest
      else head :: insertSorted name value rest

theorem mem_insertSorted {name : String} {value : α} {entry : String × α}
    {entries : List (String × α)} (member : entry ∈ insertSorted name value entries) :
    entry = (name, value) ∨ entry ∈ entries := by
  induction entries with
  | nil => simpa [insertSorted] using member
  | cons head rest inductionHypothesis => grind [insertSorted]

theorem pairwise_insertSorted (name : String) (value : α) {entries : List (String × α)}
    (sorted : entries.Pairwise fun first second => first.1 < second.1) :
    (insertSorted name value entries).Pairwise fun first second => first.1 < second.1 := by
  induction entries with
  | nil => simp [insertSorted]
  | cons head rest inductionHypothesis =>
      obtain ⟨above, tail⟩ := List.pairwise_cons.mp sorted
      rw [insertSorted]
      split
      next below =>
        refine List.pairwise_cons.mpr ⟨fun entry member => ?_, sorted⟩
        rcases List.mem_cons.mp member with rfl | member
        · exact below
        · exact String.lt_trans below (above entry member)
      next notBelow =>
        split
        next equal => exact List.pairwise_cons.mpr ⟨fun entry member => equal ▸ above entry member, tail⟩
        next different =>
          refine List.pairwise_cons.mpr ⟨fun entry member => ?_, inductionHypothesis tail⟩
          rcases mem_insertSorted member with rfl | member
          · show head.1 < name
            grind
          · exact above entry member

def insert (map : NameMap α) (name : String) (value : α) : NameMap α :=
  ⟨insertSorted name value map.entries, pairwise_insertSorted name value map.sorted⟩

/-- The entries that pass a test. -/
def filter (map : NameMap α) (passes : String × α → Bool) : NameMap α :=
  ⟨map.entries.filter passes, map.sorted.filter passes⟩

def erase (map : NameMap α) (name : String) : NameMap α :=
  map.filter fun entry => entry.1 ≠ name

def find? (map : NameMap α) (name : String) : Option α := map.entries.lookup name

def contains (map : NameMap α) (name : String) : Bool := (map.find? name).isSome

/-- The map with the given entries. The last entry of a name counts. -/
def ofList (entries : List (String × α)) : NameMap α :=
  entries.foldl (fun map entry => map.insert entry.1 entry.2) empty

def names (map : NameMap α) : List String := map.entries.map Prod.fst

def values (map : NameMap α) : List α := map.entries.map Prod.snd

def size (map : NameMap α) : Nat := map.entries.length

def isEmpty (map : NameMap α) : Bool := map.entries.isEmpty

end NameMap

end MeshAccess
