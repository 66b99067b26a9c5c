import MeshAccess.NameMap

/-! This file says what the operations on finite maps do to the value of each name. -/

namespace MeshAccess.NameMap

variable {α : Type}

theorem lookup_cons_eq_ite (head : String × α) (rest : List (String × α)) (name : String) :
    (head :: rest).lookup name = if name = head.1 then some head.2 else rest.lookup name := by
  rw [List.lookup_cons]
  by_cases same : name = head.1
  · simp [same]
  · rw [beq_false_of_ne same, if_neg same]

theorem lookup_insertSorted (name other : String) (value : α) (entries : List (String × α)) :
    (insertSorted name value entries).lookup other =
      if other = name then some value else entries.lookup other := by
  induction entries with
  | nil => rw [insertSorted, lookup_cons_eq_ite]
  | cons head rest inductionHypothesis =>
      rw [insertSorted]
      split
      · rw [lookup_cons_eq_ite]
      · split
        · rename_i equal
          rw [lookup_cons_eq_ite, lookup_cons_eq_ite, equal]
          by_cases same : other = head.1 <;> simp [same]
        · rename_i different
          rw [lookup_cons_eq_ite, lookup_cons_eq_ite, inductionHypothesis]
          by_cases same : other = head.1
          · simp [same, Ne.symm different]
          · simp [same]

/-- An insertion changes the value of exactly one name. -/
theorem find?_insert (map : NameMap α) (name other : String) (value : α) :
    (map.insert name value).find? other =
      if other = name then some value else map.find? other :=
  lookup_insertSorted name other value map.entries

/-- The entries of a sorted list are exactly the values that a lookup finds. -/
theorem lookup_eq_some_iff_mem {entries : List (String × α)}
    (sorted : entries.Pairwise fun first second => first.1 < second.1) {name : String} {value : α} :
    entries.lookup name = some value ↔ (name, value) ∈ entries := by
  induction entries with
  | nil => simp
  | cons head rest inductionHypothesis =>
      obtain ⟨above, tail⟩ := List.pairwise_cons.mp sorted
      rw [lookup_cons_eq_ite, List.mem_cons]
      by_cases same : name = head.1
      · have absent : (name, value) ∉ rest := by
          intro member
          exact String.lt_irrefl _ (same ▸ above _ member)
        rw [if_pos same, Option.some_inj, Prod.ext_iff]
        constructor
        · intro equal
          exact .inl ⟨same, equal.symm⟩
        · rintro (equal | member)
          · exact equal.2.symm
          · exact absurd member absent
      · rw [if_neg same, inductionHypothesis tail]
        simp [same, Prod.ext_iff]

theorem find?_eq_some_iff {map : NameMap α} {name : String} {value : α} :
    map.find? name = some value ↔ (name, value) ∈ map.entries :=
  lookup_eq_some_iff_mem map.sorted

/-- A filter keeps the value of a name when the entry passes. -/
theorem find?_filter (map : NameMap α) (passes : String × α → Bool) (name : String) :
    (map.filter passes).find? name = (map.find? name).filter fun value => passes (name, value) := by
  apply Option.ext
  intro value
  rw [find?_eq_some_iff, Option.filter_eq_some_iff, find?_eq_some_iff]
  exact List.mem_filter

/-- A filter on names keeps or drops the value of a name as a whole. -/
theorem find?_filter_name (map : NameMap α) (passes : String → Bool) (name : String) :
    (map.filter fun entry => passes entry.1).find? name =
      if passes name then map.find? name else none := by
  rw [find?_filter]
  cases map.find? name <;> cases kept : passes name <;> simp [kept]

theorem find?_erase (map : NameMap α) (name other : String) :
    (map.erase name).find? other = if other = name then none else map.find? other := by
  rw [erase, find?_filter_name map (fun name' => name' ≠ name)]
  by_cases same : other = name <;> simp [same]

/-- Two maps with the same values are equal. -/
theorem ext_find? {first second : NameMap α}
    (agree : ∀ name, first.find? name = second.find? name) : first = second := by
  have distinct (map : NameMap α) : map.entries.Nodup :=
    map.sorted.imp fun {entry other} below equal => by
      rw [equal] at below
      exact String.lt_irrefl _ below
  have same : first.entries.Perm second.entries := by
    refine (List.perm_ext_iff_of_nodup (distinct first) (distinct second)).mpr fun entry => ?_
    rw [← find?_eq_some_iff, ← find?_eq_some_iff, agree]
  have equal : first.entries = second.entries :=
    same.eq_of_pairwise (fun entry other _ _ below above =>
      absurd (String.lt_trans below above) (String.lt_irrefl _)) first.sorted second.sorted
  cases first
  cases second
  cases equal
  rfl

theorem mem_names {map : NameMap α} {name : String} :
    name ∈ map.names ↔ (map.find? name).isSome := by
  rw [Option.isSome_iff_exists]
  simp only [find?_eq_some_iff]
  simp [names]

/-- The values of a map are those that its names have. -/
theorem mem_values {map : NameMap α} {value : α} :
    value ∈ map.values ↔ ∃ name, map.find? name = some value := by
  simp only [find?_eq_some_iff]
  simp [values]

theorem names_pairwise (map : NameMap α) : map.names.Pairwise (· < ·) :=
  List.pairwise_map.mpr map.sorted

theorem length_names (map : NameMap α) : map.names.length = map.size := List.length_map _

theorem isEmpty_iff {map : NameMap α} : map.isEmpty ↔ ∀ name, map.find? name = none := by
  rw [isEmpty, List.isEmpty_iff, List.eq_nil_iff_forall_not_mem]
  constructor
  · intro absent name
    rw [Option.eq_none_iff_forall_ne_some]
    exact fun value found => absent _ (find?_eq_some_iff.mp found)
  · intro absent entry member
    have found := find?_eq_some_iff.mpr member
    rw [absent] at found
    cases found

end MeshAccess.NameMap
