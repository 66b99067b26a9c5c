import MeshAccess.Authorization
import MeshAccess.Proofs.Policy.Replacement

/-! This file says which provider decides about the token of a request. -/

namespace MeshAccess

/-- If no name is repeated, every item is the last one of its name. -/
theorem lastNamed?_eq_some_iff_mem {β : Type} {nameOf : β → String} {items : List β}
    (distinct : (items.map nameOf).Nodup) {name : String} {item : β} :
    lastNamed? nameOf items name = some item ↔ nameOf item = name ∧ item ∈ items := by
  rw [lastNamed?_eq_some_iff]
  refine and_congr_right fun _ => ⟨?_, ?_⟩
  · rintro ⟨before, after, rfl, _⟩
    exact List.mem_append_right before List.mem_cons_self
  · intro member
    obtain ⟨before, after, rfl⟩ := List.append_of_mem member
    refine ⟨before, after, rfl, fun other later same => ?_⟩
    rw [List.map_append, List.map_cons, List.nodup_append, List.nodup_cons] at distinct
    exact distinct.2.1.1 (List.mem_map.mpr ⟨other, later, same⟩)

namespace NameMap

variable {α β : Type}

/-- A search through the values gives what it finds in the value of the smallest name. -/
theorem findSome?_values_eq_some_iff {map : NameMap α} {search : α → Option β} {result : β} :
    map.values.findSome? search = some result ↔
      ∃ name value, map.find? name = some value ∧ search value = some result ∧
        ∀ other earlier, map.find? other = some earlier → other < name → search earlier = none := by
  simp only [find?_eq_some_iff]
  rw [values, List.findSome?_map, List.findSome?_eq_some_iff]
  constructor
  · rintro ⟨before, ⟨name, value⟩, after, divided, found, unfound⟩
    refine ⟨name, value, ?_, found, fun other earlier member below => ?_⟩
    · rw [divided]
      exact List.mem_append_right before List.mem_cons_self
    · have sorted := map.sorted
      rw [divided] at member sorted
      obtain ⟨_, above, _⟩ := List.pairwise_append.mp sorted
      rcases List.mem_append.mp member with early | late
      · exact unfound _ early
      · rcases List.mem_cons.mp late with same | late
        · cases same
          exact absurd below (String.lt_irrefl _)
        · have later := (List.pairwise_cons.mp above).1 _ late
          exact absurd (String.lt_trans below later) (String.lt_irrefl _)
  · rintro ⟨name, value, member, found, unfound⟩
    obtain ⟨before, after, divided⟩ := List.append_of_mem member
    refine ⟨before, (name, value), after, divided, found, fun earlier early => ?_⟩
    have sorted := map.sorted
    rw [divided] at sorted
    obtain ⟨_, _, below⟩ := List.pairwise_append.mp sorted
    refine unfound earlier.1 earlier.2 ?_ (below earlier early _ List.mem_cons_self)
    rw [divided]
    exact List.mem_append_left _ early

theorem findSome?_values_eq_none_iff {map : NameMap α} {search : α → Option β} :
    map.values.findSome? search = none ↔
      ∀ name value, map.find? name = some value → search value = none := by
  rw [List.findSome?_eq_none_iff]
  simp only [mem_values]
  exact ⟨fun unfound name value held => unfound value ⟨name, held⟩,
    fun unfound value ⟨name, held⟩ => unfound name value held⟩

end NameMap

namespace Policy.Store

/-- A change of a store that can reach its token providers. -/
inductive Change where
  | addProvider (provider : Token.Provider)
  | removeProvider (name : String)
  | apply (snapshot : Snapshot)
  | clear

/-- The change adds, replaces or removes a provider whose name comes after the given one. -/
def Change.IsAfter (name : String) : Change → Prop
  | .addProvider provider => name < provider.name
  | .removeProvider other => name < other
  | .apply _ => False
  | .clear => False

def change (store : Store) : Change → Store
  | .addProvider provider => store.addProvider provider
  | .removeProvider name => (store.removeProvider name).2
  | .apply snapshot => store.apply snapshot
  | .clear => .empty

/-- The store after a history of changes. -/
def changeAll (store : Store) (changes : List Change) : Store := changes.foldl change store

/-- Every provider is stored under its own name. -/
def NamesProviders (store : Store) : Prop :=
  ∀ name provider, store.providers.find? name = some provider → provider.name = name

variable {store : Store}

theorem find?_addProvider (store : Store) (provider : Token.Provider) (name : String) :
    (store.addProvider provider).providers.find? name =
      if name = provider.name then some provider else store.providers.find? name :=
  NameMap.find?_insert _ _ _ _

theorem find?_removeProvider (store : Store) (other name : String) :
    (store.removeProvider other).2.providers.find? name =
      if name = other then none else store.providers.find? name :=
  NameMap.find?_erase _ _ _

theorem namesProviders_empty : empty.NamesProviders := fun _ _ held => nomatch held

theorem namesProviders_change (named : store.NamesProviders) (change : Change) :
    (store.change change).NamesProviders := by
  intro name provider held
  cases change with
  | addProvider added =>
      rw [Store.change, find?_addProvider] at held
      split at held
      next same =>
        cases held
        exact same.symm
      next => exact named name provider held
  | removeProvider other =>
      rw [Store.change, find?_removeProvider] at held
      split at held
      next => cases held
      next => exact named name provider held
  | apply snapshot => exact ((mirrors_apply store snapshot).providers name provider).mp held |>.1
  | clear => exact namesProviders_empty name provider held

theorem namesProviders_changeAll (named : store.NamesProviders) (changes : List Change) :
    (store.changeAll changes).NamesProviders :=
  List.foldlRecOn changes change named fun _ named change _ => namesProviders_change named change

/-- The store holds a provider. -/
def Holds (store : Store) (provider : Token.Provider) : Prop :=
  store.providers.find? provider.name = some provider

/-- The provider finds a token in a request, and no provider of a smaller name does. -/
structure Decides (store : Store) (headers : Http.Headers) (query : Http.Query)
    (provider : Token.Provider) (token : String) : Prop where
  held : store.Holds provider
  found : provider.token? headers query = some token
  first : ∀ other, store.Holds other → other.name < provider.name →
    other.token? headers query = none

section Choice

variable {headers : Http.Headers} {query : Http.Query} {provider : Token.Provider} {token : String}

theorem findToken?_eq_none_iff (named : store.NamesProviders) :
    store.findToken? headers query = none ↔
      ∀ provider, store.Holds provider → provider.token? headers query = none := by
  rw [findToken?, NameMap.findSome?_values_eq_none_iff]
  simp only [Option.map_eq_none_iff]
  constructor
  · exact fun unfound provider held => unfound provider.name provider held
  · intro unfound name provider held
    obtain rfl := named name provider held
    exact unfound provider held

theorem findToken?_eq_some_iff (named : store.NamesProviders) :
    store.findToken? headers query = some (provider, token) ↔
      store.Decides headers query provider token := by
  rw [findToken?, NameMap.findSome?_values_eq_some_iff]
  simp only [Option.map_eq_some_iff, Option.map_eq_none_iff, Prod.mk.injEq]
  constructor
  · rintro ⟨name, _, held, ⟨_, found, rfl, rfl⟩, unfound⟩
    obtain rfl := named name _ held
    exact ⟨held, found, fun other held below => unfound other.name other held below⟩
  · rintro ⟨held, found, first⟩
    refine ⟨provider.name, provider, held, ⟨token, found, rfl, rfl⟩, ?_⟩
    intro name earlier heldEarlier below
    obtain rfl := named name earlier heldEarlier
    exact first earlier heldEarlier below

theorem authenticate_of_decides (named : store.NamesProviders)
    (decides : store.Decides headers query provider token) :
    store.authenticate headers query =
      match provider.verify? token with
      | some claims => .ok (some ⟨provider, claims⟩)
      | none => .error ⟨provider.name⟩ := by
  rewrite [authenticate, (findToken?_eq_some_iff named).mpr decides]
  rfl

/-- A request is unauthenticated exactly when there is no token to verify. -/
theorem authenticate_eq_none_iff :
    store.authenticate headers query = .ok none ↔ store.findToken? headers query = none := by
  rw [authenticate]
  cases store.findToken? headers query with
  | none => simp
  | some found => cases verified : found.1.verify? found.2 <;> simp [verified]

/-- Stores with the same providers up to the one that decides come to the same result. -/
theorem authenticate_eq_of_agree {other : Store} (named : store.NamesProviders)
    (otherNamed : other.NamesProviders) (decides : store.Decides headers query provider token)
    (agree : ∀ name, name ≤ provider.name →
      other.providers.find? name = store.providers.find? name) :
    other.authenticate headers query = store.authenticate headers query := by
  have alsoDecides : other.Decides headers query provider token := by
    refine ⟨?_, decides.found, fun earlier held below => ?_⟩
    · exact (agree provider.name (String.le_refl _)).trans decides.held
    · have upTo : earlier.name ≤ provider.name := fun above =>
        String.lt_irrefl _ (String.lt_trans below above)
      exact decides.first earlier ((agree earlier.name upTo).symm.trans held) below
  rw [authenticate_of_decides otherNamed alsoDecides, authenticate_of_decides named decides]

theorem find?_change_of_isAfter {name limit : String} (upTo : name ≤ limit) {change : Change}
    (isAfter : change.IsAfter limit) :
    (store.change change).providers.find? name = store.providers.find? name := by
  have ne_of_below {other : String} (below : limit < other) : name ≠ other := by
    rintro rfl
    exact upTo below
  cases change with
  | addProvider added =>
      rw [Store.change, find?_addProvider, if_neg (ne_of_below isAfter)]
  | removeProvider other =>
      rw [Store.change, find?_removeProvider, if_neg (ne_of_below isAfter)]
  | apply snapshot => exact isAfter.elim
  | clear => exact isAfter.elim

theorem find?_changeAll_of_isAfter {name limit : String} (upTo : name ≤ limit)
    {changes : List Change} (areAfter : ∀ change ∈ changes, change.IsAfter limit) :
    (store.changeAll changes).providers.find? name = store.providers.find? name :=
  List.foldlRecOn (motive := fun reached : Store =>
      reached.providers.find? name = store.providers.find? name)
    changes change rfl fun _ same change member =>
      (find?_change_of_isAfter upTo (areAfter change member)).trans same

theorem providers_changeAll_addProvider (store : Store) (added : List Token.Provider) :
    (store.changeAll (added.map .addProvider)).providers =
      added.foldl (fun map provider => map.insert provider.name provider) store.providers := by
  induction added generalizing store with
  | nil => rfl
  | cons provider rest inductionHypothesis => exact inductionHypothesis (store.addProvider provider)

/-- Providers of different names can be added in any order. -/
theorem providers_changeAll_of_perm {added reordered : List Token.Provider}
    (same : added.Perm reordered) (distinct : (added.map Token.Provider.name).Nodup) :
    (store.changeAll (added.map .addProvider)).providers =
      (store.changeAll (reordered.map .addProvider)).providers := by
  have alsoDistinct := (same.map Token.Provider.name).nodup_iff.mp distinct
  have last (name : String) : lastNamed? Token.Provider.name added name =
      lastNamed? Token.Provider.name reordered name := by
    apply Option.ext
    intro provider
    rw [lastNamed?_eq_some_iff_mem distinct, lastNamed?_eq_some_iff_mem alsoDistinct, same.mem_iff]
  refine NameMap.ext_find? fun name => ?_
  rw [providers_changeAll_addProvider, providers_changeAll_addProvider,
    NameMap.find?_foldl_insert, NameMap.find?_foldl_insert, last]

/-- Which provider decides about the token of a request, and what cannot change it. -/
structure ChoosesByName (store : Store) (headers : Http.Headers) (query : Http.Query) : Prop where
  /-- Without a token there is nothing to verify. -/
  absent : store.authenticate headers query = .ok none ↔
    ∀ provider, store.Holds provider → provider.token? headers query = none
  /-- If a provider finds a token, one provider decides. -/
  present : (∃ provider, store.Holds provider ∧ (provider.token? headers query).isSome) →
    ∃ provider token, store.Decides headers query provider token
  /-- The provider that decides verifies its token or rejects the request in its name. -/
  decided : ∀ provider token, store.Decides headers query provider token →
    store.authenticate headers query =
      match provider.verify? token with
      | some claims => .ok (some ⟨provider, claims⟩)
      | none => .error ⟨provider.name⟩
  /-- The order in which providers are added does not count. -/
  anyOrder : ∀ added reordered : List Token.Provider, added.Perm reordered →
    (added.map Token.Provider.name).Nodup →
      (store.changeAll (added.map .addProvider)).authenticate headers query =
        (store.changeAll (reordered.map .addProvider)).authenticate headers query
  /-- Whatever happens to providers of greater names does not count. -/
  later : ∀ provider token, store.Decides headers query provider token →
    ∀ changes : List Change, (∀ change ∈ changes, change.IsAfter provider.name) →
      (store.changeAll changes).authenticate headers query = store.authenticate headers query
  /-- Another history that leads to the same providers up to the one that decides gives the same
  result. -/
  anyHistory : ∀ provider token, store.Decides headers query provider token →
    ∀ changes : List Change, (∀ name, name ≤ provider.name →
      (empty.changeAll changes).providers.find? name = store.providers.find? name) →
        (empty.changeAll changes).authenticate headers query = store.authenticate headers query

theorem choosesByName (named : store.NamesProviders) (headers : Http.Headers)
    (query : Http.Query) : store.ChoosesByName headers query where
  absent := authenticate_eq_none_iff.trans (findToken?_eq_none_iff named)
  present := by
    rintro ⟨provider, held, found⟩
    cases chosen : store.findToken? headers query with
    | none =>
        rw [(findToken?_eq_none_iff named).mp chosen provider held] at found
        cases found
    | some pair => exact ⟨pair.1, pair.2, (findToken?_eq_some_iff named).mp chosen⟩
  decided _ _ decides := authenticate_of_decides named decides
  anyOrder _ _ same distinct := by
    rw [authenticate, authenticate, findToken?, findToken?,
      providers_changeAll_of_perm same distinct]
  later _ _ decides changes areAfter :=
    authenticate_eq_of_agree named (namesProviders_changeAll named changes) decides
      fun _ upTo => find?_changeAll_of_isAfter upTo areAfter
  anyHistory _ _ decides changes agree :=
    authenticate_eq_of_agree named (namesProviders_changeAll namesProviders_empty changes) decides
      agree

end Choice

/-- After every history of changes the provider of the smallest name that finds a token decides
alone. -/
theorem choosesByName_changeAll (changes : List Change) (headers : Http.Headers)
    (query : Http.Query) : (empty.changeAll changes).ChoosesByName headers query :=
  choosesByName (namesProviders_changeAll namesProviders_empty changes) headers query

end Policy.Store

end MeshAccess
