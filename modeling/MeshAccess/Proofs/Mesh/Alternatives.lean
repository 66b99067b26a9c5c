import MeshAccess.Proofs.Match.Condition

/-! This file holds what the items of permissions and of principals have in common. -/

namespace MeshAccess.Mesh

open Match

variable {ν τ ρ : Type}

/-- A test of some leaf accepts when some leaf holds. -/
theorem any_filterMap_eq {test? : ν → Option τ} {leaves : List ν} {accepts : τ → Bool}
    {holds : ν → Bool} (agree : ∀ leaf ∈ leaves, holds leaf = (test? leaf).any accepts) :
    (leaves.filterMap test?).any accepts = leaves.any holds := by
  have split : (leaves.filterMap test?).any accepts =
      leaves.any fun leaf => (test? leaf).any accepts := List.any_filterMap
  rw [split, Bool.eq_iff_iff, List.any_eq_true, List.any_eq_true]
  exact exists_congr fun leaf => and_congr_right fun member => by rw [agree leaf member]

/-- Leaves that all make tests, which are about one part unless they are negated. -/
structure AreDivisible (test? : ν → Option τ) (partOf : τ → ρ) (leaves : List ν)
    (negated : Bool) : Prop where
  nonEmpty : leaves ≠ []
  makeTests : ∀ leaf ∈ leaves, (test? leaf).isSome
  onePart : negated = false → ∀ first ∈ leaves, ∀ second ∈ leaves,
    (test? first).map partOf = (test? second).map partOf

namespace AreDivisible

variable {test? : ν → Option τ} {partOf : τ → ρ}

/-- One leaf alone is about one part. -/
theorem single {leaf : ν} (makesTest : (test? leaf).isSome) (negated : Bool) :
    AreDivisible test? partOf [leaf] negated where
  nonEmpty := List.cons_ne_nil leaf []
  makeTests := List.forall_mem_singleton.mpr makesTest
  onePart _ := by simp

theorem tests_ne_nil {leaves : List ν} {negated : Bool}
    (divisible : AreDivisible test? partOf leaves negated) : leaves.filterMap test? ≠ [] := by
  obtain ⟨leaf, member⟩ := List.exists_mem_of_ne_nil leaves divisible.nonEmpty
  obtain ⟨test, made⟩ := Option.isSome_iff_exists.mp (divisible.makeTests leaf member)
  exact List.ne_nil_of_mem (List.mem_filterMap.mpr ⟨leaf, member, made⟩)

theorem uniform {leaves : List ν} {negated : Bool}
    (divisible : AreDivisible test? partOf leaves negated) (plain : negated = false) :
    ∀ first ∈ leaves.filterMap test?, ∀ second ∈ leaves.filterMap test?,
      partOf first = partOf second := by
  intro first firstMember second secondMember
  obtain ⟨firstLeaf, firstIn, firstMade⟩ := List.mem_filterMap.mp firstMember
  obtain ⟨secondLeaf, secondIn, secondMade⟩ := List.mem_filterMap.mp secondMember
  have same := divisible.onePart plain firstLeaf firstIn secondLeaf secondIn
  rw [firstMade, secondMade] at same
  exact Option.some_inj.mp same

/-- The tests of the leaves, divided by parts, hold when one of the leaves does, or when none does
and they are negated. -/
theorem all_parts [DecidableEq ρ] {leaves : List ν} {negated : Bool}
    (divisible : AreDivisible test? partOf leaves negated) (accepts : τ → Bool) (parts : List ρ)
    (covered : ∀ test ∈ leaves.filterMap test?, partOf test ∈ parts) {holds : ν → Bool}
    (agree : ∀ leaf ∈ leaves, holds leaf = (test? leaf).any accepts) :
    parts.all (holdsForPart partOf accepts (leaves.filterMap test?) negated) =
      (leaves.any holds != negated) := by
  rw [← any_filterMap_eq agree]
  exact all_holdsForPart partOf accepts parts _ negated covered
    fun plain => ⟨divisible.tests_ne_nil, divisible.uniform plain⟩

end AreDivisible

end MeshAccess.Mesh
