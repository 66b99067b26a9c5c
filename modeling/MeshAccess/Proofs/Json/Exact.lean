import MeshAccess.NameMap
import MeshAccess.Proofs.Json.Document
import MeshAccess.Proofs.Json.Number

/-! This file says which values a text spells if it spells no floating-point number. -/

namespace MeshAccess.Json

/-- A floating-point number stands somewhere in the value. -/
inductive HoldsFloat : Json → Prop where
  | number {value : Decimal.Binary64} : HoldsFloat (.number (.float value))
  | array {items : List Json} {item : Json} : item ∈ items → HoldsFloat item →
      HoldsFloat (.array items)
  | object {members : List (String × Json)} {member : String × Json} : member ∈ members →
      HoldsFloat member.2 → HoldsFloat (.object members)

section HoldsFloat

@[simp] theorem not_holdsFloat_null : ¬HoldsFloat .null := nofun

@[simp] theorem not_holdsFloat_bool (value : Bool) : ¬HoldsFloat (.bool value) := nofun

@[simp] theorem not_holdsFloat_string (value : String) : ¬HoldsFloat (.string value) := nofun

@[simp] theorem not_holdsFloat_ofInt (value : Int) : ¬HoldsFloat (ofInt value) := nofun

@[simp] theorem holdsFloat_array_iff {items : List Json} :
    HoldsFloat (.array items) ↔ ∃ item ∈ items, item.HoldsFloat :=
  ⟨fun | .array among holds => ⟨_, among, holds⟩, fun ⟨_, among, holds⟩ => .array among holds⟩

@[simp] theorem holdsFloat_object_iff {members : List (String × Json)} :
    HoldsFloat (.object members) ↔ ∃ member ∈ members, member.2.HoldsFloat :=
  ⟨fun | .object among holds => ⟨_, among, holds⟩, fun ⟨_, among, holds⟩ => .object among holds⟩

end HoldsFloat

/-- A value whose text is exact, with at most `limit` containers inside each other. -/
inductive IsExact : Nat → Json → Prop where
  | null {limit : Nat} : IsExact limit .null
  | bool {limit : Nat} (value : Bool) : IsExact limit (.bool value)
  | integer {limit : Nat} {value : Int} : Numeral.Fits value →
      IsExact limit (.number (.integer value))
  | string {limit : Nat} (value : String) : IsExact limit (.string value)
  | array {limit : Nat} {items : List Json} : (∀ item ∈ items, IsExact limit item) →
      IsExact (limit + 1) (.array items)
  | object {limit : Nat} {members : List (String × Json)} :
      (members.Pairwise fun first second => first.1 < second.1) →
      (∀ member ∈ members, IsExact limit member.2) → IsExact (limit + 1) (.object members)

section Members

variable {name : String} {value : Json} {member : String × Json}
  {sorted members : List (String × Json)}

theorem insertMember_eq (name : String) (value : Json) (members : List (String × Json)) :
    insertMember name value members = NameMap.insertSorted name value members := by
  induction members with
  | nil => rfl
  | cons head rest inductionHypothesis =>
      rw [insertMember, NameMap.insertSorted, inductionHypothesis]

/-- The members of an object that are sorted, with more members put in. -/
def insertMembers (sorted members : List (String × Json)) : List (String × Json) :=
  members.foldl (fun sorted member => insertMember member.1 member.2 sorted) sorted

theorem insertMembers_cons (sorted : List (String × Json)) (head : String × Json)
    (rest : List (String × Json)) :
    insertMembers sorted (head :: rest) =
      insertMembers (NameMap.insertSorted head.1 head.2 sorted) rest := by
  rw [← insertMember_eq]
  rfl

theorem pairwise_insertMembers
    (ascending : sorted.Pairwise fun first second => first.1 < second.1) :
    (insertMembers sorted members).Pairwise fun first second => first.1 < second.1 := by
  induction members generalizing sorted with
  | nil => exact ascending
  | cons head rest inductionHypothesis =>
      rw [insertMembers_cons]
      exact inductionHypothesis (NameMap.pairwise_insertSorted head.1 head.2 ascending)

theorem mem_insertMembers (among : member ∈ insertMembers sorted members) :
    member ∈ sorted ∨ member ∈ members := by
  induction members generalizing sorted with
  | nil => exact .inl among
  | cons head rest inductionHypothesis =>
      rw [insertMembers_cons] at among
      rcases inductionHypothesis among with former | later
      · rcases NameMap.mem_insertSorted former with rfl | former
        · exact .inr List.mem_cons_self
        · exact .inl former
      · exact .inr (List.mem_cons_of_mem head later)

/-- A member whose name is above the others is put last. -/
theorem insertSorted_of_above (above : ∀ member ∈ members, member.1 < name) :
    NameMap.insertSorted name value members = members ++ [(name, value)] := by
  induction members with
  | nil => rfl
  | cons head rest inductionHypothesis =>
      obtain ⟨here, others⟩ := List.forall_mem_cons.mp above
      have different : name ≠ head.1 := by
        rintro rfl
        exact String.lt_irrefl _ here
      rw [NameMap.insertSorted, if_neg (String.lt_asymm here), if_neg different,
        inductionHypothesis others, List.cons_append]

/-- Members that are in ascending order are kept. -/
theorem insertMembers_of_pairwise
    (ascending : (sorted ++ members).Pairwise fun first second => first.1 < second.1) :
    insertMembers sorted members = sorted ++ members := by
  induction members generalizing sorted with
  | nil => exact (List.append_nil sorted).symm
  | cons head rest inductionHypothesis =>
      have above : ∀ member ∈ sorted, member.1 < head.1 := fun member among =>
        (List.pairwise_append.mp ascending).2.2 member among head List.mem_cons_self
      rw [List.append_cons] at ascending ⊢
      rw [insertMembers_cons, insertSorted_of_above above, inductionHypothesis ascending]

end Members

theorem exists_of_mem_mapM {α β : Type} {read? : α → Option β} {items : List α} {values : List β}
    (read : items.mapM read? = some values) {value : β} (among : value ∈ values) :
    ∃ item ∈ items, read? item = some value := by
  induction items generalizing values with
  | nil =>
      cases read
      cases among
  | cons item rest inductionHypothesis =>
      rw [List.mapM_cons] at read
      obtain ⟨head, readItem, others⟩ := Option.bind_eq_some_iff.mp read
      obtain ⟨tail, readRest, same⟩ := Option.bind_eq_some_iff.mp others
      cases same
      rcases List.mem_cons.mp among with rfl | later
      · exact ⟨item, List.mem_cons_self, readItem⟩
      · obtain ⟨source, isSource, readSource⟩ := inductionHypothesis readRest later
        exact ⟨source, List.mem_cons_of_mem item isSource, readSource⟩

namespace Document

theorem depthItems_le_iff {limit : Nat} {items : List Document} :
    depthItems items ≤ limit ↔ ∀ item ∈ items, item.depth ≤ limit := by
  induction items with
  | nil => simp [depthItems]
  | cons item rest inductionHypothesis =>
      rw [depthItems, Nat.max_le, inductionHypothesis, List.forall_mem_cons]

theorem depthMembers_le_iff {limit : Nat} {members : List (String × Document)} :
    depthMembers members ≤ limit ↔ ∀ member ∈ members, member.2.depth ≤ limit := by
  induction members with
  | nil => simp [depthMembers]
  | cons member rest inductionHypothesis =>
      rw [depthMembers, Nat.max_le, inductionHypothesis, List.forall_mem_cons]

theorem values?_eq_mapM (items : List Document) : values? items = items.mapM value? := by
  induction items with
  | nil => rfl
  | cons item rest inductionHypothesis =>
      rw [values?, inductionHypothesis, List.mapM_cons]

theorem memberValues?_eq_mapM (members : List (String × Document)) :
    memberValues? members =
      members.mapM fun member => member.2.value?.map fun value => (member.1, value) := by
  induction members with
  | nil => rfl
  | cons member rest inductionHypothesis =>
      rw [memberValues?, inductionHypothesis, List.mapM_cons]
      cases member.2.value? <;> rfl

/-- A value without floating-point numbers that a document spells is exact. -/
theorem isExact_of_value? {document : Document} {value : Json} {limit : Nat}
    (read : document.value? = some value) (exact : ¬value.HoldsFloat)
    (shallow : document.depth ≤ limit) : value.IsExact limit := by
  induction document using inductionOnParts generalizing value limit with
  | null =>
      cases read
      exact .null
  | bool other =>
      cases read
      exact .bool other
  | string other =>
      cases read
      exact .string other
  | number numeral =>
      rw [value?] at read
      obtain ⟨number, readNumber, rfl⟩ := Option.map_eq_some_iff.mp read
      cases number with
      | integer other => exact .integer (Numeral.fits_of_ofNumeral? readNumber)
      | float other => exact absurd .number exact
  | array items inductionHypothesis =>
      rw [value?] at read
      obtain ⟨values, readItems, rfl⟩ := Option.map_eq_some_iff.mp read
      obtain ⟨inner, rfl⟩ :=
        Nat.exists_eq_add_one.mpr (Nat.lt_of_lt_of_le (Nat.succ_pos _) shallow)
      have shallowItems := depthItems_le_iff.mp (Nat.le_of_succ_le_succ shallow)
      refine .array fun value among => ?_
      rw [values?_eq_mapM] at readItems
      obtain ⟨item, member, readItem⟩ := exists_of_mem_mapM readItems among
      exact inductionHypothesis item member readItem (fun holds => exact (.array among holds))
        (shallowItems item member)
  | object members inductionHypothesis =>
      rw [value?] at read
      obtain ⟨values, readMembers, rfl⟩ := Option.map_eq_some_iff.mp read
      obtain ⟨inner, rfl⟩ :=
        Nat.exists_eq_add_one.mpr (Nat.lt_of_lt_of_le (Nat.succ_pos _) shallow)
      have shallowMembers := depthMembers_le_iff.mp (Nat.le_of_succ_le_succ shallow)
      refine .object (pairwise_insertMembers .nil) fun value among => ?_
      have isValue := (mem_insertMembers among).resolve_left List.not_mem_nil
      rw [memberValues?_eq_mapM] at readMembers
      obtain ⟨member, isMember, readMember⟩ := exists_of_mem_mapM readMembers isValue
      obtain ⟨inside, readInside, rfl⟩ := Option.map_eq_some_iff.mp readMember
      exact inductionHypothesis member isMember readInside
        (fun holds => exact (.object among holds)) (shallowMembers member isMember)

end Document

end MeshAccess.Json
