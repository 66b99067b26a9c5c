import MeshAccess.Discovery.Replica
import MeshAccess.Proofs.LastNamed
import MeshAccess.Proofs.Wire.Value
import Mathlib.Data.List.TakeWhile

/-! This file says which routes a client has after a push of route configurations. -/

namespace MeshAccess.Mesh

open Wire

/-- The part is the text up to the first separator, or all of the text without one. -/
def IsBefore (separator : Char) (text part : List Char) : Prop :=
  separator ∉ part ∧ (text = part ∨ ∃ rest, text = part ++ separator :: rest)

theorem isBefore_iff {separator : Char} {text part : List Char} :
    IsBefore separator text part ↔ text.takeWhile (· ≠ separator) = part := by
  have passes (absent : separator ∉ part) (character : Char) (member : character ∈ part) :
      decide (character ≠ separator) = true :=
    decide_eq_true fun same => absent (same ▸ member)
  constructor
  · rintro ⟨absent, rfl | ⟨rest, rfl⟩⟩
    · exact List.takeWhile_eq_self_iff.mpr (passes absent)
    · rw [List.takeWhile_append_of_pos (passes absent), List.takeWhile_cons_of_neg (by simp),
        List.append_nil]
  · rintro rfl
    refine ⟨fun member => by simpa using List.mem_takeWhile_imp member, ?_⟩
    have whole := List.takeWhile_append_dropWhile (p := (· ≠ separator)) (l := text)
    cases rest : text.dropWhile (· ≠ separator) with
    | nil =>
        rw [rest, List.append_nil] at whole
        exact .inl whole.symm
    | cons character others =>
        have stops : character = separator := by
          have first := List.head?_dropWhile_not (· ≠ separator) text
          rw [rest] at first
          simpa using first
        rw [rest, stops] at whole
        exact .inr ⟨others, whole.symm⟩

namespace RouteRule

/-- The message of a route has an action that says to which clusters the route leads. -/
def hasClusters : Value → Bool
  | .message [_, .optional (some (.message [.choice (some _)])), _] => true
  | _ => false

/-- An action says to which clusters a route leads, or it says nothing. -/
theorem isSome_destinations? {action : Value} (hasKind : action.HasKind (.message .routeAction)) :
    ∃ specifier, action = .message [.choice specifier] ∧
      (destinations? action).isSome = specifier.isSome := by
  cases hasKind with
  | message fit =>
      rw [MessageType.fields] at fit
      rcases fit with _ | ⟨choice, _ | _⟩
      cases choice with
      | unchosen => exact ⟨none, rfl, rfl⟩
      | @choice _ variant value chosen hasVariant =>
          refine ⟨some (variant.tag, value), rfl, ?_⟩
          have listed := List.mem_of_find?_eq_some chosen
          rw [List.mem_cons, List.mem_singleton] at listed
          rcases listed with rfl | rfl
          · cases hasVariant with
            | text cluster => rfl
          · cases hasVariant with
            | message fit =>
                rw [MessageType.fields] at fit
                rcases fit with _ | ⟨clusters, _ | _⟩
                cases clusters with
                | repeated areClusters => rfl

/-- Exactly the routes that lead to clusters are rules. -/
theorem isSome_ofMessage? {route : Value} (hasKind : route.HasKind (.message .route)) :
    (ofMessage? route).isSome = hasClusters route := by
  cases hasKind with
  | message fit =>
      rw [MessageType.fields] at fit
      rcases fit with _ | ⟨conditions, _ | ⟨action, _ | ⟨name, _ | _⟩⟩⟩
      cases name with
      | plain text =>
      cases text with
      | text name =>
      cases action with
      | missing => cases conditions <;> rfl
      | optional isAction =>
          obtain ⟨specifier, rfl, same⟩ := isSome_destinations? isAction
          cases conditions <;> cases specifier <;> simpa [ofMessage?, hasClusters] using same

end RouteRule

namespace VirtualHost

/-- The name in the message of a virtual host. -/
def nameIn : Value → String
  | .message [.plain (.text name), _, _] => name
  | _ => ""

/-- The routes in the message of a virtual host. -/
def routesIn : Value → List Value
  | .message [_, _, .repeated routes] => routes
  | _ => []

/-- A virtual host has the name in its message, and its rules are made of the routes in it. -/
theorem ofMessage_eq {host : Value} (hasKind : host.HasKind (.message .virtualHost)) :
    ofMessage host = ⟨nameIn host, (routesIn host).filterMap RouteRule.ofMessage?⟩ ∧
      ∀ route ∈ routesIn host, route.HasKind (.message .route) := by
  cases hasKind with
  | message fit =>
      rw [MessageType.fields] at fit
      rcases fit with _ | ⟨name, _ | ⟨domains, _ | ⟨routes, _ | _⟩⟩⟩
      cases name with
      | plain text =>
      cases text with
      | text name =>
      cases routes with
      | repeated areRoutes => exact ⟨rfl, areRoutes⟩

/-- The host counts for a service. -/
structure Serves (host : Value) (service : String) : Prop where
  isService : nameIn host ≠ anyName
  leads : ∃ route ∈ routesIn host, RouteRule.hasClusters route
  /-- The service is the part of the name before the first colon, and of that the part before the first
  dot. -/
  isNamed : ∃ address, IsBefore ':' (nameIn host).toList address ∧
    IsBefore '.' address service.toList

/-- The host counts for some service. -/
def isUsable (host : Value) : Bool :=
  nameIn host ≠ anyName && (routesIn host).any RouteRule.hasClusters

theorem isNamed_iff {name service : String} :
    (∃ address, IsBefore ':' name.toList address ∧ IsBefore '.' address service.toList) ↔
      service = serviceOf name := by
  simp only [isBefore_iff, exists_eq_left']
  rw [serviceOf, ← String.toList_inj, String.toList_ofList, eq_comm]

theorem serves_iff {host : Value} {service : String} :
    Serves host service ↔ isUsable host ∧ service = serviceOf (nameIn host) := by
  rw [isUsable, Bool.and_eq_true, decide_eq_true_iff, List.any_eq_true, ← isNamed_iff]
  constructor
  · rintro ⟨isService, leads, isNamed⟩
    exact ⟨⟨isService, leads⟩, isNamed⟩
  · rintro ⟨⟨isService, leads⟩, isNamed⟩
    exact ⟨isService, leads, isNamed⟩

end VirtualHost

namespace ServiceRoutes

/-- The routes are those of a host that lead to clusters, in their order. The version of the first
destination of the last one is used when nothing else matches, and there is none without a
destination. -/
structure IsOf (routes : ServiceRoutes) (host : Value) : Prop where
  rules : routes.rules.map some =
    ((VirtualHost.routesIn host).filter RouteRule.hasClusters).map RouteRule.ofMessage?
  defaultVersion : ∀ last, routes.rules.getLast? = some last →
    routes.defaultVersion = last.destinations.head?.map Destination.version

theorem map_some_filterMap {α β : Type} {make? : α → Option β} {makes : α → Bool} {items : List α}
    (same : ∀ item ∈ items, (make? item).isSome = makes item) :
    (items.filterMap make?).map some = (items.filter makes).map make? := by
  induction items with
  | nil => rfl
  | cons item rest inductionHypothesis =>
      obtain ⟨here, later⟩ := List.forall_mem_cons.mp same
      cases made : make? item with
      | none =>
          rw [made] at here
          rw [List.filterMap_cons_none made, List.filter_cons_of_neg (by simp [← here]),
            inductionHypothesis later]
      | some value =>
          rw [made] at here
          rw [List.filterMap_cons_some made, List.filter_cons_of_pos here.symm, List.map_cons,
            List.map_cons, inductionHypothesis later, made]

/-- The routes in the message of a virtual host, whether it counts or not. -/
def inHost (host : Value) : ServiceRoutes :=
  let rules := (VirtualHost.routesIn host).filterMap RouteRule.ofMessage?
  { service := VirtualHost.serviceOf (VirtualHost.nameIn host)
    rules := rules
    defaultVersion := (rules.getLast?.bind fun rule => rule.destinations.head?).map
      Destination.version }

variable {host : Value} (hasKind : host.HasKind (.message .virtualHost))

include hasKind

theorem map_some_rules : (inHost host).rules.map some =
    ((VirtualHost.routesIn host).filter RouteRule.hasClusters).map RouteRule.ofMessage? :=
  map_some_filterMap fun route member =>
    RouteRule.isSome_ofMessage? ((VirtualHost.ofMessage_eq hasKind).2 route member)

theorem isEmpty_rules : (inHost host).rules.isEmpty =
    !(VirtualHost.routesIn host).any RouteRule.hasClusters := by
  have sameLengths := congrArg List.isEmpty (map_some_rules hasKind)
  rw [List.isEmpty_map, List.isEmpty_map] at sameLengths
  rw [sameLengths, Bool.eq_iff_iff]
  simp

/-- A host gives its routes exactly if it counts. -/
theorem ofHost?_eq : ofHost? (VirtualHost.ofMessage host) =
    if VirtualHost.isUsable host then some (inHost host) else none := by
  have refused : (decide (VirtualHost.nameIn host = VirtualHost.anyName) ||
      (inHost host).rules.isEmpty) = !VirtualHost.isUsable host := by
    rw [isEmpty_rules hasKind, VirtualHost.isUsable, Bool.not_and]
    simp
  rw [(VirtualHost.ofMessage_eq hasKind).1, ofHost?]
  change (if (decide (VirtualHost.nameIn host = VirtualHost.anyName) ||
    (inHost host).rules.isEmpty) = true then none else some (inHost host)) = _
  rw [refused]
  cases VirtualHost.isUsable host <;> rfl

/-- A host that counts determines its routes. -/
theorem eq_inHost_iff (usable : VirtualHost.isUsable host) {routes : ServiceRoutes} :
    routes = inHost host ↔
      routes.service = VirtualHost.serviceOf (VirtualHost.nameIn host) ∧ routes.IsOf host := by
  constructor
  · rintro rfl
    refine ⟨rfl, map_some_rules hasKind, fun last isLast => ?_⟩
    change ((inHost host).rules.getLast?.bind fun rule => rule.destinations.head?).map _ = _
    rw [isLast]
    rfl
  · rintro ⟨named, same, version⟩
    have sameRules : routes.rules = (inHost host).rules :=
      List.map_injective_iff.mpr (Option.some_injective _)
        (same.trans (map_some_rules hasKind).symm)
    have notEmpty : routes.rules ≠ [] := by
      intro none
      have empty := isEmpty_rules hasKind
      rw [VirtualHost.isUsable, Bool.and_eq_true] at usable
      rw [← sameRules, none, usable.2] at empty
      cases empty
    have isLast := List.getLast?_eq_some_getLast notEmpty
    have sameVersion : routes.defaultVersion = (inHost host).defaultVersion := by
      change _ = ((inHost host).rules.getLast?.bind fun rule => rule.destinations.head?).map _
      rw [version _ isLast, ← sameRules, isLast]
      rfl
    cases routes
    exact ServiceRoutes.mk.injEq .. |>.mpr ⟨named, sameRules, sameVersion⟩

/-- A host gives routes for a service exactly if it counts for the service. -/
theorem ofHost?_eq_some_iff {service : String} {routes : ServiceRoutes} :
    ofHost? (VirtualHost.ofMessage host) = some routes ∧ routes.service = service ↔
      VirtualHost.Serves host service ∧ routes.service = service ∧ routes.IsOf host := by
  rw [ofHost?_eq hasKind, VirtualHost.serves_iff]
  cases usable : VirtualHost.isUsable host with
  | false => simp
  | true =>
      rw [if_pos rfl, Option.some_inj, eq_comm, eq_inHost_iff hasKind usable]
      constructor
      · rintro ⟨⟨named, isOf⟩, rfl⟩
        exact ⟨⟨rfl, named⟩, rfl, isOf⟩
      · rintro ⟨⟨-, named⟩, rfl, isOf⟩
        exact ⟨⟨named, isOf⟩, rfl⟩

theorem exists_ofHost?_iff {service : String} :
    (∃ routes, ofHost? (VirtualHost.ofMessage host) = some routes ∧ routes.service = service) ↔
      VirtualHost.Serves host service := by
  rw [ofHost?_eq hasKind, VirtualHost.serves_iff]
  cases VirtualHost.isUsable host with
  | false => simp
  | true => simp [inHost, eq_comm]

end ServiceRoutes

namespace RouteConfig

/-- The virtual hosts in the message of a route configuration. -/
def hostsIn : Value → List Value
  | .message [_, .repeated hosts] => hosts
  | _ => []

theorem hosts_ofMessage {config : Value} (hasKind : config.HasKind (.message .routeConfiguration)) :
    (ofMessage config).hosts = (hostsIn config).map VirtualHost.ofMessage ∧
      ∀ host ∈ hostsIn config, host.HasKind (.message .virtualHost) := by
  cases hasKind with
  | message fit =>
      rw [MessageType.fields] at fit
      rcases fit with _ | ⟨name, _ | ⟨hosts, _ | _⟩⟩
      cases name with
      | plain text =>
      cases text with
      | text name =>
      cases hosts with
      | repeated areHosts => exact ⟨rfl, areHosts⟩

/-- The virtual hosts of a push in their order. -/
def hostsOf (push : List Value) : List Value := push.flatMap hostsIn

theorem hosts_map_ofMessage {push : List Value}
    (areConfigs : ∀ config ∈ push, config.HasKind (.message .routeConfiguration)) :
    (push.map ofMessage).flatMap hosts = (hostsOf push).map VirtualHost.ofMessage ∧
      ∀ host ∈ hostsOf push, host.HasKind (.message .virtualHost) := by
  constructor
  · rw [List.flatMap_map, hostsOf, List.map_flatMap]
    exact List.flatMap_congr fun config member => (hosts_ofMessage (areConfigs config member)).1
  · intro host among
    obtain ⟨config, member, inside⟩ := List.mem_flatMap.mp among
    exact (hosts_ofMessage (areConfigs config member)).2 host inside

end RouteConfig

namespace RouteTable

/-- The table has the routes of exactly the services of a list of virtual hosts. -/
structure Lists (table : RouteTable) (hosts : List Value) : Prop where
  listed : ∀ service, (table.find? service).isSome ↔
    ∃ host ∈ hosts, VirtualHost.Serves host service
  /-- The last host that counts for a service gives its routes. -/
  entry : ∀ service routes, table.find? service = some routes ↔ routes.service = service ∧
    ∃ before host after, hosts = before ++ host :: after ∧ VirtualHost.Serves host service ∧
      (∀ other ∈ after, ¬VirtualHost.Serves other service) ∧ routes.IsOf host

theorem find?_ofConfigs (configs : List RouteConfig) (service : String) :
    (ofConfigs configs).find? service =
      lastNamed? ServiceRoutes.service
        ((configs.flatMap RouteConfig.hosts).filterMap ServiceRoutes.ofHost?) service := by
  rw [ofConfigs, NameMap.ofList, List.foldl_map, NameMap.find?_foldl_insert]
  cases lastNamed? _ _ service <;> rfl

variable {push : List Value}

/-- The last host that counts for a service decides, and no other. -/
theorem lists_ofConfigs
    (areConfigs : ∀ config ∈ push, config.HasKind (.message .routeConfiguration)) :
    (ofConfigs (push.map RouteConfig.ofMessage)).Lists (RouteConfig.hostsOf push) := by
  obtain ⟨hosts, areHosts⟩ := RouteConfig.hosts_map_ofMessage areConfigs
  have found (service : String) : (ofConfigs (push.map RouteConfig.ofMessage)).find? service =
      lastNamed? ServiceRoutes.service ((RouteConfig.hostsOf push).filterMap
        fun host => ServiceRoutes.ofHost? (VirtualHost.ofMessage host)) service := by
    rw [find?_ofConfigs, hosts, List.filterMap_map]
    rfl
  constructor
  · intro service
    rw [found, isSome_lastNamed?]
    constructor
    · rintro ⟨routes, member, named⟩
      obtain ⟨host, among, made⟩ := List.mem_filterMap.mp member
      exact ⟨host, among,
        (ServiceRoutes.exists_ofHost?_iff (areHosts host among)).mp ⟨routes, made, named⟩⟩
    · rintro ⟨host, among, serves⟩
      obtain ⟨routes, made, named⟩ :=
        (ServiceRoutes.exists_ofHost?_iff (areHosts host among)).mpr serves
      exact ⟨routes, List.mem_filterMap.mpr ⟨host, among, made⟩, named⟩
  · intro service routes
    rw [found, lastNamed?_filterMap_eq_some_iff]
    refine and_congr_right fun named => exists_congr fun before => exists_congr fun host =>
      exists_congr fun after => and_congr_right fun split => ?_
    rw [split, List.forall_mem_append, List.forall_mem_cons] at areHosts
    obtain ⟨-, isHost, areLater⟩ := areHosts
    have isLast : (∀ other ∈ after, ∀ later,
          ServiceRoutes.ofHost? (VirtualHost.ofMessage other) = some later →
            later.service ≠ service) ↔ ∀ other ∈ after, ¬VirtualHost.Serves other service := by
      refine forall₂_congr fun other among => ?_
      rw [← ServiceRoutes.exists_ofHost?_iff (areLater other among)]
      simp
    rw [isLast]
    constructor
    · rintro ⟨made, later⟩
      obtain ⟨serves, -, isOf⟩ := (ServiceRoutes.ofHost?_eq_some_iff isHost).mp ⟨made, named⟩
      exact ⟨serves, later, isOf⟩
    · rintro ⟨serves, later, isOf⟩
      have made := (ServiceRoutes.ofHost?_eq_some_iff isHost).mpr ⟨serves, named, isOf⟩
      exact ⟨made.1, later⟩

/-- Hosts that do not count leave no trace, wherever they stand. -/
theorem ofConfigs_congr {others : List Value}
    (areConfigs : ∀ config ∈ push, config.HasKind (.message .routeConfiguration))
    (otherConfigs : ∀ config ∈ others, config.HasKind (.message .routeConfiguration))
    (same : (RouteConfig.hostsOf others).filter VirtualHost.isUsable =
      (RouteConfig.hostsOf push).filter VirtualHost.isUsable) :
    ofConfigs (others.map RouteConfig.ofMessage) = ofConfigs (push.map RouteConfig.ofMessage) := by
  have usableOnly (configs : List Value)
      (areConfigs : ∀ config ∈ configs, config.HasKind (.message .routeConfiguration)) :
      ((configs.map RouteConfig.ofMessage).flatMap RouteConfig.hosts).filterMap
          ServiceRoutes.ofHost? =
        ((RouteConfig.hostsOf configs).filter VirtualHost.isUsable).map ServiceRoutes.inHost := by
    obtain ⟨hosts, areHosts⟩ := RouteConfig.hosts_map_ofMessage areConfigs
    rw [hosts, List.filterMap_map, ← List.filterMap_eq_map, List.filterMap_filter]
    exact List.filterMap_congr fun host among => ServiceRoutes.ofHost?_eq (areHosts host among)
  rw [ofConfigs, ofConfigs, usableOnly others otherConfigs, usableOnly push areConfigs, same]

/-- After a push the routes of a client are those of the hosts in it that count. The replica from before
does not matter, nor does any host that does not count. -/
theorem followsPush (replica : Discovery.Replica)
    (areConfigs : ∀ config ∈ push, config.HasKind (.message .routeConfiguration)) :
    (replica.deliver (.routes (push.map RouteConfig.ofMessage))).routes.Lists
        (RouteConfig.hostsOf push) ∧
      ∀ (other : Discovery.Replica) (others : List Value),
        (∀ config ∈ others, config.HasKind (.message .routeConfiguration)) →
        (RouteConfig.hostsOf others).filter VirtualHost.isUsable =
          (RouteConfig.hostsOf push).filter VirtualHost.isUsable →
        (other.deliver (.routes (others.map RouteConfig.ofMessage))).routes =
          (replica.deliver (.routes (push.map RouteConfig.ofMessage))).routes :=
  ⟨lists_ofConfigs areConfigs, fun _ _ otherConfigs same =>
    ofConfigs_congr areConfigs otherConfigs same⟩

/-- A route without conditions, to a cluster if one is given. -/
def routeTo (cluster : Option String) : Value :=
  .message [.optional none,
    .optional (some (.message [.choice (cluster.map fun name => (1, .text name))])),
    .plain (.text "")]

/-- A virtual host with such routes. -/
def hostWith (name : String) (clusters : List (Option String)) : Value :=
  .message [.plain (.text name), .repeated [], .repeated (clusters.map routeTo)]

theorem hasKind_routeTo (cluster : Option String) : (routeTo cluster).HasKind (.message .route) := by
  have specifier : (Slot.choice (cluster.map fun name => (1, .text name))).Fits
      (.choice [MessageType.text "cluster" 1,
        MessageType.message "weighted_clusters" 3 .weightedCluster]) := by
    cases cluster with
    | none => exact .unchosen _
    | some name => exact @Slot.Fits.choice _ (MessageType.text "cluster" 1) _ rfl (.text name)
  exact .message (.cons (.missing 1 _) (.cons (.optional (.message (.cons specifier .nil)))
    (.cons (.plain (.text "")) .nil)))

theorem hasKind_hostWith (name : String) (clusters : List (Option String)) :
    (hostWith name clusters).HasKind (.message .virtualHost) :=
  .message (.cons (.plain (.text name)) (.cons (.repeated nofun)
    (.cons (.repeated (List.forall_mem_map.mpr fun cluster _ => hasKind_routeTo cluster)) .nil)))

/-- Two configurations with three hosts of one service. The last of them has no route to a cluster. -/
def reviewsPush : List Value :=
  [.message [.plain (.text "9080"), .repeated
      [hostWith "reviews.shop:9080" [some "outbound|9080|v1|reviews"],
        hostWith "allow_any" [some "PassthroughCluster"]]],
    .message [.plain (.text "80"), .repeated
      [hostWith "reviews:80" [none, some "outbound|80|v2|reviews"], hostWith "reviews" [none]]]]

theorem followsPush_reviews :
    (∀ config ∈ reviewsPush, config.HasKind (.message .routeConfiguration)) ∧
      (Discovery.Replica.empty.deliver
        (.routes (reviewsPush.map RouteConfig.ofMessage))).routes.Lists
          (RouteConfig.hostsOf reviewsPush) := by
  have areConfigs : ∀ config ∈ reviewsPush, config.HasKind (.message .routeConfiguration) := by
    have ofHosts (name : String) (hosts : List Value)
        (areHosts : ∀ host ∈ hosts, host.HasKind (.message .virtualHost)) :
        (Value.message [.plain (.text name), .repeated hosts]).HasKind
          (.message .routeConfiguration) :=
      .message (.cons (.plain (.text name)) (.cons (.repeated areHosts) .nil))
    rw [reviewsPush]
    simp only [List.forall_mem_cons]
    refine ⟨ofHosts _ _ ?_, ofHosts _ _ ?_, nofun⟩
    all_goals simp [hasKind_hostWith]
  exact ⟨areConfigs, (followsPush Discovery.Replica.empty areConfigs).1⟩

end RouteTable

end MeshAccess.Mesh
