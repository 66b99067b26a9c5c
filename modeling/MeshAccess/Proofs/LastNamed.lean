import MeshAccess.Proofs.NameMap

/-! This file says what it means that the last item of a name counts. -/

namespace MeshAccess

variable {β : Type}

/-- The item is in the list, and no item of the same name comes after it. -/
def IsLastNamed (nameOf : β → String) (items : List β) (item : β) : Prop :=
  ∃ before after, items = before ++ item :: after ∧ ∀ other ∈ after, nameOf other ≠ nameOf item

/-- The last item of a name in a list. -/
def lastNamed? (nameOf : β → String) : List β → String → Option β
  | [], _ => none
  | item :: rest, name =>
      match lastNamed? nameOf rest name with
      | some later => some later
      | none => if nameOf item = name then some item else none

variable {nameOf : β → String}

theorem lastNamed?_eq_none_iff {items : List β} {name : String} :
    lastNamed? nameOf items name = none ↔ ∀ item ∈ items, nameOf item ≠ name := by
  induction items with
  | nil => simp [lastNamed?]
  | cons item rest inductionHypothesis =>
      rw [lastNamed?, List.forall_mem_cons, ← inductionHypothesis]
      cases lastNamed? nameOf rest name <;> simp

/-- The search finds exactly the item after which its name does not occur again. -/
theorem lastNamed?_eq_some_iff {items : List β} {name : String} {item : β} :
    lastNamed? nameOf items name = some item ↔
      nameOf item = name ∧ IsLastNamed nameOf items item := by
  induction items with
  | nil => simp [lastNamed?, IsLastNamed]
  | cons head rest inductionHypothesis =>
      constructor
      · intro found
        rw [lastNamed?] at found
        cases later : lastNamed? nameOf rest name with
        | some other =>
            rw [later] at found
            cases found
            obtain ⟨named, before, after, rfl, fresh⟩ := inductionHypothesis.mp later
            exact ⟨named, head :: before, after, rfl, fresh⟩
        | none =>
            rw [later] at found
            by_cases named : nameOf head = name
            · cases (if_pos named).symm.trans found
              exact ⟨named, [], rest, rfl, named ▸ lastNamed?_eq_none_iff.mp later⟩
            · cases (if_neg named).symm.trans found
      · rintro ⟨named, before, after, equal, fresh⟩
        rw [lastNamed?]
        cases before with
        | nil =>
            cases equal
            rw [lastNamed?_eq_none_iff.mpr (named ▸ fresh)]
            exact if_pos named
        | cons first before =>
            cases equal
            rw [inductionHypothesis.mpr ⟨named, before, after, rfl, fresh⟩]

/-- The last item of a name among those that a function makes. What makes no item does not count. -/
theorem lastNamed?_filterMap_eq_some_iff {α : Type} {make? : α → Option β} {sources : List α}
    {name : String} {item : β} :
    lastNamed? nameOf (sources.filterMap make?) name = some item ↔
      nameOf item = name ∧ ∃ before source after, sources = before ++ source :: after ∧
        make? source = some item ∧
          ∀ other ∈ after, ∀ later, make? other = some later → nameOf later ≠ name := by
  rw [lastNamed?_eq_some_iff]
  refine and_congr_right fun named => ?_
  constructor
  · rintro ⟨first, rest, split, fresh⟩
    obtain ⟨before, others, rfl, -, remaining⟩ := List.filterMap_eq_append_iff.mp split
    obtain ⟨skipped, source, after, rfl, -, made, rfl⟩ := List.filterMap_eq_cons_iff.mp remaining
    refine ⟨before ++ skipped, source, after, (List.append_assoc _ _ _).symm, made, ?_⟩
    intro other member later makes same
    exact fresh later (List.mem_filterMap.mpr ⟨other, member, makes⟩) (same.trans named.symm)
  · rintro ⟨before, source, after, rfl, made, fresh⟩
    refine ⟨before.filterMap make?, after.filterMap make?, ?_, fun later member => ?_⟩
    · rw [List.filterMap_append, List.filterMap_cons_some made]
    · obtain ⟨other, among, makes⟩ := List.mem_filterMap.mp member
      rw [named]
      exact fresh other among later makes

theorem nameOf_lastNamed? {items : List β} {name : String} {item : β}
    (found : lastNamed? nameOf items name = some item) : nameOf item = name :=
  (lastNamed?_eq_some_iff.mp found).1

/-- There is a last item of exactly the names that occur. -/
theorem isSome_lastNamed? {items : List β} {name : String} :
    (lastNamed? nameOf items name).isSome ↔ ∃ item ∈ items, nameOf item = name := by
  rw [← Option.ne_none_iff_isSome, ne_eq, lastNamed?_eq_none_iff]
  simp

/-- The last item of a list whose items all have one name. -/
theorem lastNamed?_of_named {items : List β} {name : String}
    (named : ∀ item ∈ items, nameOf item = name) :
    lastNamed? nameOf items name = items.getLast? := by
  induction items with
  | nil => rfl
  | cons item rest inductionHypothesis =>
      obtain ⟨here, later⟩ := List.forall_mem_cons.mp named
      rw [lastNamed?, inductionHypothesis later, List.getLast?_cons]
      cases rest.getLast? with
      | some last => rfl
      | none => exact if_pos here

/-- Insertions one after the other leave the last item of each name. -/
theorem NameMap.find?_foldl_insert (map : NameMap β) (items : List β) (name : String) :
    (items.foldl (fun map item => map.insert (nameOf item) item) map).find? name =
      match lastNamed? nameOf items name with
      | some item => some item
      | none => map.find? name := by
  induction items generalizing map with
  | nil => rfl
  | cons item rest inductionHypothesis =>
      rw [List.foldl_cons, inductionHypothesis, lastNamed?]
      cases lastNamed? nameOf rest name with
      | some later => rfl
      | none =>
          rw [NameMap.find?_insert]
          by_cases named : nameOf item = name
          · simp [named]
          · simp [named, Ne.symm named]

end MeshAccess
