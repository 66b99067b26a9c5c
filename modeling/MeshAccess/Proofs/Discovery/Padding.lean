import MeshAccess.Discovery.ResourceKind
import MeshAccess.Proofs.Mesh.ManagerScan
import MeshAccess.Proofs.Policy.Replacement

/-! This file says that the parts of a push are translated independently of each other. -/

namespace MeshAccess

open Policy

/-- The second list is the first one with silent items in between. An item of the first list may
also have become one like it. -/
inductive Padding {α : Type} (isSilent : α → Prop) (isLike : α → α → Prop) :
    List α → List α → Prop where
  | nil : Padding isSilent isLike [] []
  | keep {first second : α} {items padded : List α} (like : isLike first second)
      (rest : Padding isSilent isLike items padded) :
      Padding isSilent isLike (first :: items) (second :: padded)
  | insert {item : α} {items padded : List α} (silent : isSilent item)
      (rest : Padding isSilent isLike items padded) :
      Padding isSilent isLike items (item :: padded)

/-- Silent items alone are what no item becomes. -/
theorem Padding.ofSilent {α : Type} {isSilent : α → Prop} {isLike : α → α → Prop} {items : List α}
    (silent : ∀ item ∈ items, isSilent item) : Padding isSilent isLike [] items := by
  induction items with
  | nil => exact .nil
  | cons item rest inductionHypothesis =>
      obtain ⟨first, others⟩ := List.forall_mem_cons.mp silent
      exact .insert first (inductionHypothesis others)

namespace Policy.Snapshot

/-- Several snapshots one after the other. -/
def join (snapshots : List Snapshot) : Snapshot := snapshots.foldl append .empty

@[simp] theorem empty_append (snapshot : Snapshot) : append .empty snapshot = snapshot := rfl

theorem join_append (first second : List Snapshot) :
    join (first ++ second) = append (join first) (join second) := foldl_append first second

theorem join_cons (snapshot : Snapshot) (rest : List Snapshot) :
    join (snapshot :: rest) = append snapshot (join rest) := join_append [snapshot] rest

/-- What several items make together can be joined for each item first. -/
theorem join_map_flatMap {α β : Type} (items : List α) (parts : α → List β)
    (make : β → Snapshot) :
    join ((items.flatMap parts).map make) =
      join (items.map fun item => join ((parts item).map make)) := by
  induction items with
  | nil => rfl
  | cons item rest inductionHypothesis =>
      rw [List.flatMap_cons, List.map_append, join_append, inductionHypothesis, List.map_cons,
        join_cons]

/-- Silent items do not count, and an item counts as much as one like it. -/
theorem join_map_of_padding {α : Type} {isSilent : α → Prop} {isLike : α → α → Prop}
    {make : α → Snapshot} (nothing : ∀ item, isSilent item → make item = .empty)
    (alike : ∀ first second, isLike first second → make first = make second)
    {items padded : List α} (padding : Padding isSilent isLike items padded) :
    join (padded.map make) = join (items.map make) := by
  induction padding with
  | nil => rfl
  | keep like rest inductionHypothesis =>
      rw [List.map_cons, List.map_cons, join_cons, join_cons, inductionHypothesis, alike _ _ like]
  | insert silent rest inductionHypothesis =>
      rw [List.map_cons, join_cons, nothing _ silent, empty_append, inductionHypothesis]

end Policy.Snapshot

namespace Mesh

open Listener

/-- A filter of a manager that makes no policy and no provider. It is of another kind, has no
configuration, cannot be read, has no rules or only asks for log entries. -/
inductive Filter.IsSilent (filter : Filter) : Prop where
  | otherKind (noRules : filter.name ≠ accessFilterName) (noTokens : filter.name ≠ tokenFilterName)
  | unconfigured (bare : filter.config = none)
  | unreadableRules {config : Packed} (kind : filter.name = accessFilterName)
      (packed : filter.config = some config) (unread : AccessRules.decode? config.content = none)
  | noRules {config : Packed} (kind : filter.name = accessFilterName)
      (packed : filter.config = some config) (none : AccessRules.decode? config.content = some none)
  | logsOnly {config : Packed} {rules : AccessRules} (kind : filter.name = accessFilterName)
      (packed : filter.config = some config)
      (decoded : AccessRules.decode? config.content = some (some rules)) (logs : rules.action = 2)
  | unreadableProviders {config : Packed} (kind : filter.name = tokenFilterName)
      (packed : filter.config = some config) (unread : decodeProviders? config.content = none)

/-- A network filter that manages no connections. It is of another kind, has no configuration or
cannot be read. -/
inductive Filter.IsNoManager (filter : Filter) : Prop where
  | otherKind (different : filter.name ≠ ConnectionManager.filterName)
  | unconfigured (bare : filter.config = none)
  | unreadable {config : Packed} (packed : filter.config = some config)
      (unread : ConnectionManager.decode? config.content = none)

/-- A resource without policies. It is of another type, cannot be read or is not the listener for
inbound connections. -/
inductive Packed.IsSilent (resource : Packed) : Prop where
  | otherType (different : resource.typeUrl ≠ Discovery.ResourceKind.listener.typeUrl)
  | unreadable (unread : Listener.decode? resource.content = none)
  | otherListener {listener : Listener}
      (decoded : Listener.decode? resource.content = some listener)
      (different : listener.name ≠ inboundName)

/-- The second network filter is the first one, or its manager is that of the first one with silent
filters in between. -/
inductive Filter.Pads (filter padded : Filter) : Prop where
  | same (equal : filter = padded)
  | manager {config paddedConfig : Packed} {original result : ConnectionManager}
      (named : filter.name = padded.name) (packed : filter.config = some config)
      (paddedPacked : padded.config = some paddedConfig)
      (decoded : ConnectionManager.decode? config.content = some original)
      (paddedDecoded : ConnectionManager.decode? paddedConfig.content = some result)
      (padding : Padding Filter.IsSilent Eq original.filters result.filters)

/-- The second listener is the first one with network filters in between that manage no connections,
in any of its chains or in chains of their own, and with padded managers. -/
structure Listener.Pads (listener padded : Listener) : Prop where
  named : listener.name = padded.name
  padding : Padding (fun chain => ∀ filter ∈ chain, filter.IsNoManager)
    (Padding Filter.IsNoManager Filter.Pads) listener.chains padded.chains

/-- The second resource is the first one, or its listener is a padded form of that of the first
one. -/
inductive Packed.Pads (resource padded : Packed) : Prop where
  | same (equal : resource = padded)
  | listener {original result : Listener} (typed : resource.typeUrl = padded.typeUrl)
      (decoded : Listener.decode? resource.content = some original)
      (paddedDecoded : Listener.decode? padded.content = some result)
      (padding : original.Pads result)

/-- The second push is the first one with silent resources in between and with padded listeners. -/
def PadsPush (resources padded : List Packed) : Prop :=
  Padding Packed.IsSilent Packed.Pads resources padded

/-- The policies and providers that a network filter makes. -/
def Filter.snapshot (filter : Filter) : Snapshot :=
  ((ConnectionManager.ofNamedFilter? filter).map ConnectionManager.snapshot).getD .empty

namespace Listener

/-- The policies and providers that the network filters of a chain make. -/
def chainSnapshot (chain : List Filter) : Snapshot := .join (chain.map Filter.snapshot)

theorem snapshot_append (first second : List Listener) :
    snapshot (first ++ second) = (snapshot first).append (snapshot second) := by
  rw [snapshot, List.flatMap_append, List.map_append]
  exact Snapshot.join_append _ _

/-- The listener for inbound connections makes what its chains make. -/
theorem snapshot_inbound {listener : Listener} (isInbound : listener.name = inboundName) :
    snapshot [listener] = .join (listener.chains.map chainSnapshot) := by
  have ofFilter (filter : Filter) :
      Snapshot.join (((ConnectionManager.ofNamedFilter? filter).toList.flatMap
        ConnectionManager.filters).map filterSnapshot) = filter.snapshot := by
    rw [Filter.snapshot]
    cases ConnectionManager.ofNamedFilter? filter with
    | none => rfl
    | some manager =>
        rw [Option.toList_some, List.flatMap_singleton]
        rfl
  change Snapshot.join (([listener].flatMap policyFilters).map filterSnapshot) = _
  rw [List.flatMap_singleton, policyFilters_of_name isInbound, List.filterMap_eq_flatMap_toList,
    List.flatMap_assoc, Snapshot.join_map_flatMap]
  simp only [ofFilter]
  rw [filters, ← List.flatMap_id, Snapshot.join_map_flatMap]
  rfl

theorem snapshot_otherListener {listener : Listener} (different : listener.name ≠ inboundName) :
    snapshot [listener] = .empty := by
  change Snapshot.join (([listener].flatMap policyFilters).map filterSnapshot) = _
  rw [List.flatMap_singleton, policyFilters, if_neg different]
  rfl

end Listener

/-- The policies and providers of the listener in a resource. -/
def Packed.snapshot (resource : Packed) : Snapshot :=
  Listener.snapshot (Discovery.ResourceKind.listeners [resource])

theorem listeners_append (first second : List Packed) :
    Discovery.ResourceKind.listeners (first ++ second) =
      Discovery.ResourceKind.listeners first ++ Discovery.ResourceKind.listeners second := by
  rw [Discovery.ResourceKind.listeners, Discovery.ResourceKind.decodeAll, List.filter_append,
    List.filterMap_append]
  rfl

/-- A push makes what each of its resources makes, one after the other. -/
theorem snapshot_listeners (resources : List Packed) :
    Listener.snapshot (Discovery.ResourceKind.listeners resources) =
      .join (resources.map Packed.snapshot) := by
  induction resources with
  | nil => rfl
  | cons resource rest inductionHypothesis =>
      rw [← List.singleton_append, listeners_append, Listener.snapshot_append, inductionHypothesis,
        List.singleton_append, List.map_cons, Snapshot.join_cons]
      rfl

theorem Packed.listeners_singleton {resource : Packed}
    (typed : resource.typeUrl = Discovery.ResourceKind.listener.typeUrl) :
    Discovery.ResourceKind.listeners [resource] = (Listener.decode? resource.content).toList := by
  rw [Discovery.ResourceKind.listeners, Discovery.ResourceKind.decodeAll,
    List.filter_cons_of_pos (by simpa using typed), List.filter_nil,
    List.filterMap_eq_flatMap_toList, List.flatMap_singleton]

theorem Packed.listeners_otherType {resource : Packed}
    (different : resource.typeUrl ≠ Discovery.ResourceKind.listener.typeUrl) :
    Discovery.ResourceKind.listeners [resource] = [] := by
  rw [Discovery.ResourceKind.listeners, Discovery.ResourceKind.decodeAll,
    List.filter_cons_of_neg (by simpa using different)]
  rfl

section Silence

variable {filter padded : Filter}

theorem Filter.IsSilent.snapshot (silent : filter.IsSilent) : filterSnapshot filter = .empty := by
  have kinds : tokenFilterName ≠ accessFilterName := by decide
  cases silent with
  | otherKind noRules noTokens =>
      rw [filterSnapshot]
      split
      · rfl
      · rw [if_neg noRules, if_neg noTokens]
  | unconfigured bare => rw [filterSnapshot, bare]
  | unreadableRules kind packed unread =>
      rw [filterSnapshot, packed]
      dsimp only
      rw [if_pos kind, unread]
  | noRules kind packed none =>
      rw [filterSnapshot, packed]
      dsimp only
      rw [if_pos kind, none]
  | logsOnly kind packed decoded logs =>
      rw [filterSnapshot, packed]
      dsimp only
      rw [if_pos kind, decoded]
      dsimp only
      rw [AccessRules.snapshot, logs]
      rfl
  | unreadableProviders kind packed unread =>
      rw [filterSnapshot, packed]
      dsimp only
      rw [if_neg (kind ▸ kinds), if_pos kind, unread]
      rfl

theorem Filter.IsNoManager.ofNamedFilter?_eq_none (none : filter.IsNoManager) :
    ConnectionManager.ofNamedFilter? filter = .none := by
  cases none with
  | otherKind different => exact if_neg different
  | unconfigured bare =>
      rw [ConnectionManager.ofNamedFilter?, bare]
      exact ite_self _
  | unreadable packed unread =>
      rw [ConnectionManager.ofNamedFilter?, packed, Option.bind_some, unread]
      exact ite_self _

theorem Filter.IsNoManager.snapshot (none : filter.IsNoManager) : filter.snapshot = .empty := by
  rw [Filter.snapshot, none.ofNamedFilter?_eq_none]
  rfl

theorem Packed.IsSilent.snapshot {resource : Packed} (silent : resource.IsSilent) :
    resource.snapshot = .empty := by
  rw [Packed.snapshot]
  by_cases typed : resource.typeUrl = Discovery.ResourceKind.listener.typeUrl
  · rw [Packed.listeners_singleton typed]
    cases silent with
    | otherType different => exact absurd typed different
    | unreadable unread =>
        rw [unread]
        rfl
    | otherListener decoded different =>
        rw [decoded]
        exact Listener.snapshot_otherListener different
  · rw [Packed.listeners_otherType typed]
    rfl

theorem Filter.Pads.snapshot (pads : filter.Pads padded) : filter.snapshot = padded.snapshot := by
  cases pads with
  | same equal => rw [equal]
  | @manager config paddedConfig original result named packed paddedPacked decoded paddedDecoded
      padding =>
      have contents : result.snapshot = original.snapshot :=
        Snapshot.join_map_of_padding (fun _ silent => IsSilent.snapshot silent)
          (fun _ _ equal => congrArg filterSnapshot equal) padding
      rw [Filter.snapshot, Filter.snapshot, ConnectionManager.ofNamedFilter?,
        ConnectionManager.ofNamedFilter?, packed, paddedPacked, Option.bind_some, Option.bind_some,
        decoded, paddedDecoded, named]
      split
      · exact contents.symm
      · rfl

end Silence

theorem Listener.Pads.snapshot {listener padded : Listener} (pads : listener.Pads padded) :
    Listener.snapshot [listener] = Listener.snapshot [padded] := by
  by_cases isInbound : listener.name = inboundName
  · rw [snapshot_inbound isInbound, snapshot_inbound (pads.named ▸ isInbound)]
    refine (Snapshot.join_map_of_padding ?_ ?_ pads.padding).symm
    · intro chain silent
      have padding : Padding Filter.IsNoManager Filter.Pads [] chain := .ofSilent silent
      exact Snapshot.join_map_of_padding (fun _ none => none.snapshot)
        (fun _ _ pads => pads.snapshot) padding
    · intro chain paddedChain padding
      exact (Snapshot.join_map_of_padding (fun _ none => none.snapshot)
        (fun _ _ pads => pads.snapshot) padding).symm
  · rw [snapshot_otherListener isInbound, snapshot_otherListener (pads.named ▸ isInbound)]

theorem Packed.Pads.snapshot {resource padded : Packed} (pads : resource.Pads padded) :
    resource.snapshot = padded.snapshot := by
  cases pads with
  | same equal => rw [equal]
  | listener typed decoded paddedDecoded padding =>
      by_cases isListener : resource.typeUrl = Discovery.ResourceKind.listener.typeUrl
      · rw [Packed.snapshot, Packed.snapshot, listeners_singleton isListener, decoded,
          listeners_singleton (typed ▸ isListener), paddedDecoded]
        exact padding.snapshot
      · rw [Packed.IsSilent.snapshot (.otherType isListener),
          Packed.IsSilent.snapshot (.otherType (typed ▸ isListener))]

/-- The parts of a push make their policies independently of each other. -/
structure TranslatesByPart (resources : List Packed) : Prop where
  /-- The policies of two pushes together are those of the first one and then those of the second
  one. -/
  append : ∀ more : List Packed,
    Listener.snapshot (Discovery.ResourceKind.listeners (resources ++ more)) =
      (Listener.snapshot (Discovery.ResourceKind.listeners resources)).append
        (Listener.snapshot (Discovery.ResourceKind.listeners more))
  resource : ∀ resource : Packed, resource.IsSilent →
    Listener.snapshot (Discovery.ResourceKind.listeners [resource]) = .empty
  networkFilter : ∀ filter : Filter, filter.IsNoManager →
    Listener.snapshot [Listener.inbound [filter]] = .empty
  filter : ∀ filter : Filter, filter.IsSilent → filterSnapshot filter = .empty
  /-- Silent parts can stand anywhere. -/
  padding : ∀ padded : List Packed, PadsPush resources padded → ∀ store : Store,
    enforce store (Discovery.ResourceKind.listeners padded) =
      enforce store (Discovery.ResourceKind.listeners resources)

theorem translatesByPart (resources : List Packed) : TranslatesByPart resources where
  append more := by rw [listeners_append, Listener.snapshot_append]
  resource _ silent := silent.snapshot
  networkFilter filter none := by
    rw [Listener.snapshot_inbound rfl]
    change Snapshot.join [chainSnapshot [filter]] = _
    rw [chainSnapshot, List.map_singleton, none.snapshot]
    rfl
  filter _ silent := silent.snapshot
  padding padded pads store := by
    rw [enforce, enforce, snapshot_listeners, snapshot_listeners,
      Snapshot.join_map_of_padding (fun _ silent => silent.snapshot) (fun _ _ pads => pads.snapshot)
        pads]

end Mesh

end MeshAccess
