import MeshAccess.Discovery.ResourceKind
import MeshAccess.Proofs.NameSet

/-! This file says which resources the names that a push makes necessary come from. -/

namespace MeshAccess

namespace Mesh

theorem Cluster.mem_assignmentNames {clusters : List Cluster} {name : String} :
    name ∈ (assignmentNames clusters).toList ↔
      name ≠ "" ∧ ∃ cluster ∈ clusters, cluster.assignmentName? = some name := by
  rw [assignmentNames, NameSet.mem_ofList, List.mem_filter, List.mem_filterMap, and_comm]
  simp

theorem Listener.mem_routeConfigNames {listeners : List Listener} {name : String} :
    name ∈ (routeConfigNames listeners).toList ↔
      name ≠ "" ∧ ∃ listener ∈ listeners, ∃ filter ∈ listener.filters, ∃ manager,
        ConnectionManager.ofTypedFilter? filter = some manager ∧ manager.routeConfig = some name := by
  rw [routeConfigNames, NameSet.mem_ofList, List.mem_filter, and_comm]
  refine and_congr (by simp) ?_
  simp only [List.mem_filterMap, List.mem_flatMap]
  constructor
  · rintro ⟨manager, ⟨filter, ⟨listener, member, within⟩, decoded⟩, refers⟩
    exact ⟨listener, member, filter, within, manager, decoded, refers⟩
  · rintro ⟨listener, member, filter, within, manager, decoded, refers⟩
    exact ⟨manager, ⟨filter, ⟨listener, member, within⟩, decoded⟩, refers⟩

end Mesh

namespace Discovery.ResourceKind

open Mesh

/-- A resource has the type of a kind, and can be read. -/
def isReadable (kind : ResourceKind) (resource : Packed) : Bool :=
  resource.typeUrl = kind.typeUrl && match kind with
    | .cluster => (Cluster.decode? resource.content).isSome
    | .endpoint => (EndpointAssignment.decode? resource.content).isSome
    | .listener => (Listener.decode? resource.content).isSome
    | .route => (RouteConfig.decode? resource.content).isSome

theorem mem_decodeAll {α : Type} {kind : ResourceKind} {decode? : List UInt8 → Option α}
    {resources : List Packed} {value : α} :
    value ∈ kind.decodeAll decode? resources ↔
      ∃ resource ∈ resources, resource.typeUrl = kind.typeUrl ∧
        decode? resource.content = some value := by
  simp [decodeAll, and_assoc]

/-- What can be read determines what is made of it. -/
theorem mem_decodeAll_congr {α : Type} {kind : ResourceKind} {decode? : List UInt8 → Option α}
    {first second : List Packed}
    (same : ∀ resource, resource.typeUrl = kind.typeUrl → (decode? resource.content).isSome = true →
      (resource ∈ first ↔ resource ∈ second)) {value : α} :
    value ∈ kind.decodeAll decode? first ↔ value ∈ kind.decodeAll decode? second := by
  rw [mem_decodeAll, mem_decodeAll]
  refine exists_congr fun resource => and_congr_left fun ⟨typeUrl, decoded⟩ => ?_
  exact same resource typeUrl (Option.isSome_of_eq_some decoded)

/-- Two pushes with the same readable resources make the same names necessary. -/
theorem dependentNames_congr {kind : ResourceKind} {first second : List Packed}
    (same : ∀ resource, kind.isReadable resource = true → (resource ∈ first ↔ resource ∈ second)) :
    kind.dependentNames first = kind.dependentNames second := by
  cases kind with
  | cluster =>
      have decoded (value : Cluster) : value ∈ clusters first ↔ value ∈ clusters second :=
        mem_decodeAll_congr fun resource typeUrl readable =>
          same resource (by simp [isReadable, typeUrl, readable])
      refine NameSet.ext_mem fun name => ?_
      simp only [dependentNames, Cluster.mem_assignmentNames, decoded]
  | listener =>
      have decoded (value : Listener) : value ∈ listeners first ↔ value ∈ listeners second :=
        mem_decodeAll_congr fun resource typeUrl readable =>
          same resource (by simp [isReadable, typeUrl, readable])
      refine NameSet.ext_mem fun name => ?_
      simp only [dependentNames, Listener.mem_routeConfigNames, decoded]
  | endpoint => rfl
  | route => rfl

/-- The empty name is never necessary. -/
theorem empty_notMem_dependentNames (kind : ResourceKind) (resources : List Packed) :
    "" ∉ (kind.dependentNames resources).toList := by
  intro member
  cases kind with
  | cluster => exact (Cluster.mem_assignmentNames.mp member).1 rfl
  | listener => exact (Listener.mem_routeConfigNames.mp member).1 rfl
  | endpoint => cases member
  | route => cases member

end Discovery.ResourceKind

end MeshAccess
