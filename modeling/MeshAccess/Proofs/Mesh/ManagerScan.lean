import MeshAccess.Proofs.Discovery.DependentNames
import MeshAccess.Proofs.Mesh.AccessPolicy
import MeshAccess.Wire.Writer

/-! This file compares the two scans of listeners for the managers of their connections. -/

namespace MeshAccess

open Policy

namespace Policy.Snapshot

instance : Std.Associative append where
  assoc first second third := by simp [append, List.append_assoc]

/-- Several snapshots in two parts are those of the first part and then those of the second. -/
theorem foldl_append (first second : List Snapshot) :
    (first ++ second).foldl append .empty =
      append (first.foldl append .empty) (second.foldl append .empty) := by
  rw [List.foldl_append, ← append_empty (first.foldl append .empty), List.foldl_assoc, append_empty]

end Policy.Snapshot

namespace Mesh

/-- The policies and providers that the filters of a manager make. -/
def ConnectionManager.snapshot (manager : ConnectionManager) : Snapshot :=
  (manager.filters.map Listener.filterSnapshot).foldl Snapshot.append .empty

/-- The scans take the same manager from a filter, or both none, exactly when the name and the type
of the filter are both right or both wrong. -/
theorem ConnectionManager.ofNamedFilter?_eq_ofTypedFilter?_iff {filter : Filter} {config : Packed}
    (packed : filter.config = some config) {manager : ConnectionManager}
    (decoded : decode? config.content = some manager) :
    ofNamedFilter? filter = ofTypedFilter? filter ↔
      (filter.name = filterName ↔ config.typeUrl = typeUrl) := by
  rw [ofNamedFilter?, ofTypedFilter?, packed, Option.bind_some, Option.bind_some, decoded]
  by_cases named : filter.name = filterName <;> by_cases typed : config.typeUrl = typeUrl <;>
    simp [named, typed]

namespace Listener

/-- The listener for inbound connections with the given network filters in one chain. -/
def inbound (filters : List Filter) : Listener := ⟨inboundName, [filters]⟩

@[simp] theorem filters_inbound (filters : List Filter) : (inbound filters).filters = filters :=
  List.append_nil filters

theorem policyFilters_of_name {listener : Listener} (isInbound : listener.name = inboundName) :
    policyFilters listener =
      (listener.filters.filterMap ConnectionManager.ofNamedFilter?).flatMap
        ConnectionManager.filters := if_pos isInbound

section Manager

variable {listener : Listener} {first second : List Filter} {filter : Filter} {config : Packed}
  {manager : ConnectionManager}

/-- The filters of a manager count if the name of the network filter is right. -/
theorem policyFilters_of_manager (isInbound : listener.name = inboundName)
    (divided : listener.filters = first ++ filter :: second) (packed : filter.config = some config)
    (decoded : ConnectionManager.decode? config.content = some manager) :
    policyFilters listener =
      policyFilters (inbound first) ++
        (if filter.name = ConnectionManager.filterName then manager.filters else []) ++
        policyFilters (inbound second) := by
  have named (filters : List Filter) : (inbound filters).name = inboundName := rfl
  rw [policyFilters_of_name isInbound, policyFilters_of_name (named first),
    policyFilters_of_name (named second), divided, filters_inbound, filters_inbound,
    List.filterMap_append, List.flatMap_append, List.append_assoc]
  congr 1
  by_cases labelled : filter.name = ConnectionManager.filterName
  · have found : ConnectionManager.ofNamedFilter? filter = some manager := by
      rw [ConnectionManager.ofNamedFilter?, if_pos labelled, packed]
      exact decoded
    rw [if_pos labelled, List.filterMap_cons_some found, List.flatMap_cons]
  · have notFound : ConnectionManager.ofNamedFilter? filter = none := if_neg labelled
    rw [if_neg labelled, List.filterMap_cons_none notFound, List.nil_append]

/-- The filters of a manager are translated if the name of the network filter is right. -/
theorem snapshot_of_manager (isInbound : listener.name = inboundName)
    (divided : listener.filters = first ++ filter :: second) (packed : filter.config = some config)
    (decoded : ConnectionManager.decode? config.content = some manager)
    (earlier later : List Listener) :
    snapshot (earlier ++ listener :: later) =
      ((snapshot (earlier ++ [inbound first])).append
        (if filter.name = ConnectionManager.filterName then manager.snapshot else .empty)).append
        (snapshot (inbound second :: later)) := by
  have own := policyFilters_of_manager isInbound divided packed decoded
  have together : (earlier ++ listener :: later).flatMap policyFilters =
      (earlier ++ [inbound first]).flatMap policyFilters ++
        (if filter.name = ConnectionManager.filterName then manager.filters else []) ++
        (inbound second :: later).flatMap policyFilters := by
    simp only [List.flatMap_append, List.flatMap_cons, List.flatMap_nil, own, List.append_nil,
      List.append_assoc]
  have middle : ((if filter.name = ConnectionManager.filterName then manager.filters
      else []).map filterSnapshot).foldl Snapshot.append .empty =
        if filter.name = ConnectionManager.filterName then manager.snapshot else .empty := by
    split <;> rfl
  rw [snapshot, together, List.map_append, List.map_append, Snapshot.foldl_append,
    Snapshot.foldl_append, middle]
  rfl

/-- Only the network filters of the listeners count, without regard to their listeners. -/
theorem mem_routeConfigNames_iff {listeners : List Listener} {name : String} :
    name ∈ (routeConfigNames listeners).toList ↔
      name ≠ "" ∧ ∃ filter ∈ listeners.flatMap filters, ∃ manager,
        ConnectionManager.ofTypedFilter? filter = some manager ∧
          manager.routeConfig = some name := by
  rw [mem_routeConfigNames]
  refine and_congr_right fun _ => ?_
  simp only [List.mem_flatMap]
  constructor
  · rintro ⟨listener, among, filter, within, found⟩
    exact ⟨filter, ⟨listener, among, within⟩, found⟩
  · rintro ⟨filter, ⟨listener, among, within⟩, found⟩
    exact ⟨listener, among, filter, within, found⟩

/-- The route configuration of a manager is collected if the type of the configuration is right. -/
theorem mem_routeConfigNames_of_manager
    (divided : listener.filters = first ++ filter :: second) (packed : filter.config = some config)
    (decoded : ConnectionManager.decode? config.content = some manager)
    (earlier later : List Listener) (name : String) :
    name ∈ (routeConfigNames (earlier ++ listener :: later)).toList ↔
      (config.typeUrl = ConnectionManager.typeUrl ∧ manager.routeConfig = some name ∧ name ≠ "") ∨
        name ∈ (routeConfigNames (earlier ++ [inbound first])).toList ∨
          name ∈ (routeConfigNames (inbound second :: later)).toList := by
  have own : (∃ found, ConnectionManager.ofTypedFilter? filter = some found ∧
      found.routeConfig = some name) ↔
        config.typeUrl = ConnectionManager.typeUrl ∧ manager.routeConfig = some name := by
    rw [ConnectionManager.ofTypedFilter?, packed, Option.bind_some, decoded]
    by_cases typed : config.typeUrl = ConnectionManager.typeUrl <;> simp [typed]
  have together : (earlier ++ listener :: later).flatMap filters =
      (earlier ++ [inbound first]).flatMap filters ++
        filter :: (inbound second :: later).flatMap filters := by
    simp [divided]
  rw [mem_routeConfigNames_iff, mem_routeConfigNames_iff, mem_routeConfigNames_iff, together]
  simp only [List.mem_append, List.mem_cons, or_and_right, exists_or, exists_eq_left, own]
  by_cases unnamed : name = ""
  · simp [unnamed]
  · simp only [unnamed, ne_eq, not_false_eq_true, true_and, and_true]
    exact or_left_comm

/-- Of a manager one scan translates the filters if the name of the network filter is right, and the
other one collects the route configuration if the type is right. They agree on the network filters
for which both are right or both are wrong. -/
theorem scans_of_manager (isInbound : listener.name = inboundName)
    (divided : listener.filters = first ++ filter :: second) (packed : filter.config = some config)
    (decoded : ConnectionManager.decode? config.content = some manager)
    (earlier later : List Listener) :
    snapshot (earlier ++ listener :: later) =
        ((snapshot (earlier ++ [inbound first])).append
          (if filter.name = ConnectionManager.filterName then manager.snapshot else .empty)).append
          (snapshot (inbound second :: later)) ∧
      (∀ name, name ∈ (routeConfigNames (earlier ++ listener :: later)).toList ↔
        (config.typeUrl = ConnectionManager.typeUrl ∧ manager.routeConfig = some name ∧
            name ≠ "") ∨
          name ∈ (routeConfigNames (earlier ++ [inbound first])).toList ∨
            name ∈ (routeConfigNames (inbound second :: later)).toList) ∧
      (ConnectionManager.ofNamedFilter? filter = ConnectionManager.ofTypedFilter? filter ↔
        (filter.name = ConnectionManager.filterName ↔
          config.typeUrl = ConnectionManager.typeUrl)) :=
  ⟨snapshot_of_manager isInbound divided packed decoded earlier later,
    mem_routeConfigNames_of_manager divided packed decoded earlier later,
    ConnectionManager.ofNamedFilter?_eq_ofTypedFilter?_iff packed decoded⟩

end Manager

/-- Access rules that close a port. -/
def closedPort : List UInt8 :=
  Wire.encode .rbacFilter (.message [.optional (some (.message [.plain (.int32 1),
    .map [("closed", .message
      [.repeated [.message [.choice (some (6, .uint32 8080))]], .repeated []])]]))])

/-- A manager with those access rules and with routes. -/
def managerContent : List UInt8 :=
  Wire.encode .httpConnectionManager (.message [.plain (.text ""),
    .optional (some (.message [.plain (.text "9080")])),
    .repeated [.message [.plain (.text accessFilterName),
      .optional (some (.message [.plain (.text ""), .plain (.bytes closedPort)]))]]])

/-- The network filter of the manager under a name of its own. -/
def relabelled : Filter := ⟨"manager", some ⟨ConnectionManager.typeUrl, managerContent⟩⟩

def closedManager : ConnectionManager := ⟨some "9080", [⟨accessFilterName, some ⟨"", closedPort⟩⟩]⟩

theorem decode?_managerContent :
    ConnectionManager.decode? managerContent = some closedManager := by decide +kernel

theorem scans_of_relabelled :
    (inbound [relabelled]).name = inboundName ∧
      (inbound [relabelled]).filters = [] ++ relabelled :: [] ∧
      relabelled.config = some ⟨ConnectionManager.typeUrl, managerContent⟩ ∧
      ConnectionManager.decode? managerContent = some closedManager ∧
      snapshot ([] ++ [inbound [relabelled]]) =
        ((snapshot ([] ++ [inbound []])).append
          (if relabelled.name = ConnectionManager.filterName then closedManager.snapshot
            else .empty)).append (snapshot [inbound []]) ∧
      (∀ name, name ∈ (routeConfigNames ([] ++ [inbound [relabelled]])).toList ↔
        (ConnectionManager.typeUrl = ConnectionManager.typeUrl ∧
            closedManager.routeConfig = some name ∧ name ≠ "") ∨
          name ∈ (routeConfigNames ([] ++ [inbound []])).toList ∨
            name ∈ (routeConfigNames [inbound []]).toList) ∧
      (ConnectionManager.ofNamedFilter? relabelled = ConnectionManager.ofTypedFilter? relabelled ↔
        (relabelled.name = ConnectionManager.filterName ↔
          ConnectionManager.typeUrl = ConnectionManager.typeUrl)) :=
  have isInbound : (inbound [relabelled]).name = inboundName := rfl
  have divided : (inbound [relabelled]).filters = [] ++ relabelled :: [] := rfl
  ⟨isInbound, divided, rfl, decode?_managerContent,
    scans_of_manager isInbound divided rfl decode?_managerContent [] []⟩

/-- The scans do not always agree: under a name of its own a manager loses its access rules, while its
routes are still followed. -/
theorem not_scans_agree :
    ¬ ∀ (filter : Filter) (config : Packed) (manager : ConnectionManager) (name : String),
      filter.config = some config → ConnectionManager.decode? config.content = some manager →
        manager.routeConfig = some name → name ≠ "" →
          (snapshot [inbound [filter]] = manager.snapshot ↔
            name ∈ (routeConfigNames [inbound [filter]]).toList) := by
  intro agree
  have collected : "9080" ∈ (routeConfigNames [inbound [relabelled]]).toList := by decide +kernel
  have translated : snapshot [inbound [relabelled]] = closedManager.snapshot :=
    (agree relabelled _ closedManager "9080" rfl decode?_managerContent rfl (by decide)).mpr
      collected
  have lost : snapshot [inbound [relabelled]] ≠ closedManager.snapshot := by decide +kernel
  exact lost translated

end Listener

end Mesh

end MeshAccess
