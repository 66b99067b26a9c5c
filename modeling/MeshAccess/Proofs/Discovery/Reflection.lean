import MeshAccess.Proofs.Discovery.Tracking
import MeshAccess.Proofs.Policy.Replacement

/-! This file says what a replica shows of the pushes that a client has got. -/

namespace MeshAccess.Discovery

namespace Transcript

/-- A request accepts a response that counts for a kind. -/
def Acknowledges (transcript : Transcript) (kind : ResourceKind) (request : Request) : Prop :=
  ∃ response earlier, transcript = .received response :: earlier ∧ Admits earlier kind response ∧
    purpose request transcript = .acceptance response

/-- A response that counts for a kind has been accepted. -/
def HasAcknowledged (transcript : Transcript) (kind : ResourceKind) : Prop :=
  ∃ request earlier, .sent request :: earlier <:+ transcript ∧ Acknowledges earlier kind request

variable {kind : ResourceKind} {transcript : Transcript} {request : Request}

theorem not_hasAcknowledged_nil (kind : ResourceKind) : ¬HasAcknowledged [] kind :=
  fun ⟨_, _, found, _⟩ => List.cons_ne_nil _ _ (List.suffix_nil.mp found)

theorem HasAcknowledged.mono {part : Transcript} (acknowledged : part.HasAcknowledged kind)
    (isPart : part <:+ transcript) : transcript.HasAcknowledged kind := by
  obtain ⟨request, earlier, found, acknowledges⟩ := acknowledged
  exact ⟨request, earlier, found.trans isPart, acknowledges⟩

theorem hasAcknowledged_sent : HasAcknowledged (.sent request :: transcript) kind ↔
    transcript.Acknowledges kind request ∨ transcript.HasAcknowledged kind := by
  constructor
  · rintro ⟨other, earlier, found, acknowledges⟩
    rcases List.suffix_cons_iff.mp found with same | found
    · cases same
      exact .inl acknowledges
    · exact .inr ⟨other, earlier, found, acknowledges⟩
  · rintro (acknowledges | acknowledged)
    · exact ⟨request, transcript, List.suffix_refl _, acknowledges⟩
    · exact acknowledged.mono (List.suffix_cons _ _)

theorem hasAcknowledged_unsent {occurrence : Occurrence}
    (unsent : ∀ request, occurrence ≠ .sent request) :
    HasAcknowledged (occurrence :: transcript) kind ↔ transcript.HasAcknowledged kind := by
  refine ⟨fun ⟨other, earlier, found, acknowledges⟩ => ?_,
    fun acknowledged => acknowledged.mono (List.suffix_cons _ _)⟩
  rcases List.suffix_cons_iff.mp found with same | found
  · cases same
    exact absurd rfl (unsent other)
  · exact ⟨other, earlier, found, acknowledges⟩

theorem hasAcknowledged_received (response : Response) :
    HasAcknowledged (.received response :: transcript) kind ↔ transcript.HasAcknowledged kind :=
  hasAcknowledged_unsent nofun

theorem hasAcknowledged_ticked :
    HasAcknowledged (.ticked :: transcript) kind ↔ transcript.HasAcknowledged kind :=
  hasAcknowledged_unsent nofun

/-- A request that accepts nothing acknowledges nothing. -/
theorem not_acknowledges (different : ∀ response, purpose request transcript ≠ .acceptance response) :
    ¬transcript.Acknowledges kind request :=
  fun ⟨response, _, _, _, accepts⟩ => different response accepts

end Transcript

/-- What a replica holds after some pushes. The latest one of a kind comes first. -/
structure Replica.Reflects (replica : Replica) (listenerConsumers routeConsumers : Nat)
    (pushes : ResourceKind → List Response) : Prop where
  store : replica.store = ((pushes .listener).head?.map fun push =>
    Mesh.Listener.enforce .empty (ResourceKind.listeners push.resources)).getD .empty
  routes : replica.routes = ((pushes .route).head?.map fun push =>
    Mesh.RouteTable.ofConfigs (ResourceKind.routes push.resources)).getD .empty
  /-- Every consumer has got every push once. The oldest one comes first. -/
  listenerConsumers : replica.listenerConsumers = .replicate listenerConsumers
    ⟨(pushes .listener).reverse.map fun push => ResourceKind.listeners push.resources⟩
  routeConsumers : replica.routeConsumers = .replicate routeConsumers
    ⟨(pushes .route).reverse.map fun push => ResourceKind.routes push.resources⟩

namespace Replica.Reflects

variable {replica : Replica} {listenerConsumers routeConsumers : Nat}
  {pushes later : ResourceKind → List Response} {kind : ResourceKind} {response : Response}

theorem start (listenerConsumers routeConsumers : Nat) :
    (Replica.start listenerConsumers routeConsumers).Reflects listenerConsumers routeConsumers
      fun _ => [] := ⟨rfl, rfl, rfl, rfl⟩

theorem synchronize (reflects : replica.Reflects listenerConsumers routeConsumers pushes) :
    replica.synchronize.Reflects listenerConsumers routeConsumers pushes :=
  ⟨reflects.store, reflects.routes, reflects.listenerConsumers, reflects.routeConsumers⟩

/-- Only listeners and routes matter. -/
theorem congr (reflects : replica.Reflects listenerConsumers routeConsumers pushes)
    (listeners : later .listener = pushes .listener) (routes : later .route = pushes .route) :
    replica.Reflects listenerConsumers routeConsumers later where
  store := by rw [listeners, reflects.store]
  routes := by rw [routes, reflects.routes]
  listenerConsumers := by rw [listeners, reflects.listenerConsumers]
  routeConsumers := by rw [routes, reflects.routeConsumers]

theorem deliver_listeners (reflects : replica.Reflects listenerConsumers routeConsumers pushes)
    (added : later .listener = response :: pushes .listener)
    (routes : later .route = pushes .route) :
    (replica.deliver (.listeners (ResourceKind.listeners response.resources))).Reflects
      listenerConsumers routeConsumers later where
  -- The policies do not depend on those before.
  store := by
    rw [added]
    exact Policy.Store.apply_eq _ _ _
  routes := by rw [routes, ← reflects.routes]; rfl
  listenerConsumers := by
    rw [added, List.reverse_cons, List.map_append]
    show replica.listenerConsumers.map _ = _
    rw [reflects.listenerConsumers, List.map_replicate]
    rfl
  routeConsumers := by rw [routes, ← reflects.routeConsumers]; rfl

theorem deliver_routes (reflects : replica.Reflects listenerConsumers routeConsumers pushes)
    (listeners : later .listener = pushes .listener)
    (added : later .route = response :: pushes .route) :
    (replica.deliver (.routes (ResourceKind.routes response.resources))).Reflects
      listenerConsumers routeConsumers later where
  store := by rw [listeners, ← reflects.store]; rfl
  routes := by rw [added]; rfl
  listenerConsumers := by rw [listeners, ← reflects.listenerConsumers]; rfl
  routeConsumers := by
    rw [added, List.reverse_cons, List.map_append]
    show replica.routeConsumers.map _ = _
    rw [reflects.routeConsumers, List.map_replicate]
    rfl

end Replica.Reflects

namespace Progress

variable {progress : Progress} {listenerConsumers routeConsumers : Nat}
  {pushes later : ResourceKind → List Response} {kind : ResourceKind} {response : Response}

theorem reflects_deliver (reflects : progress.replica.Reflects listenerConsumers routeConsumers pushes)
    (added : later kind = response :: pushes kind)
    (others : ∀ other, other ≠ kind → later other = pushes other) :
    (progress.deliver kind response.resources).replica.Reflects listenerConsumers routeConsumers
      later := by
  cases kind with
  | cluster => exact reflects.congr (others .listener nofun) (others .route nofun)
  | endpoint => exact reflects.congr (others .listener nofun) (others .route nofun)
  | listener => exact reflects.deliver_listeners added (others .route nofun)
  | route => exact reflects.deliver_routes (others .listener nofun) added

@[simp] theorem isSynced_deliver (progress : Progress) (kind : ResourceKind)
    (resources : List Mesh.Packed) :
    (progress.deliver kind resources).replica.isSynced = progress.replica.isSynced := by
  cases kind <;> rfl

/-- Only listeners and routes are given to consumers. -/
theorem deliver_eq (resources : List Mesh.Packed) (noListener : kind ≠ .listener)
    (noRoute : kind ≠ .route) : progress.deliver kind resources = progress := by
  cases kind with
  | listener => exact absurd rfl noListener
  | route => exact absurd rfl noRoute
  | _ => rfl

theorem replica_ack {acked : Progress} {node : Node} {reply : Request}
    (acks : progress.ack kind response node = (reply, acked)) :
    acked.replica = progress.replica := by
  cases acks
  rfl

theorem replica_subscribe {extended : Progress} {names : NameSet} {node : Node} {request : Request}
    (subscribes : progress.subscribe kind names node = (request, extended)) :
    extended.replica = progress.replica := by
  cases subscribes
  rfl

end Progress

/-- The requests that are still to be sent change the replica only when they acknowledge listeners. -/
inductive Replica.Learns : Replica → Transcript → List (Request × Progress) → Prop where
  | done (replica : Replica) (transcript : Transcript) : Learns replica transcript []
  | synchronize {replica : Replica} {transcript : Transcript} {request : Request}
      {progress : Progress} {rest : List (Request × Progress)}
      (acknowledges : transcript.Acknowledges .listener request)
      (now : progress.replica = replica.synchronize)
      (learns : Learns progress.replica (.sent request :: transcript) rest) :
      Learns replica transcript ((request, progress) :: rest)
  | keep {replica : Replica} {transcript : Transcript} {request : Request} {progress : Progress}
      {rest : List (Request × Progress)}
      (other : ¬transcript.Acknowledges .listener request) (same : progress.replica = replica)
      (learns : Learns progress.replica (.sent request :: transcript) rest) :
      Learns replica transcript ((request, progress) :: rest)

namespace Progress

variable {progress : Progress} {transcript : Transcript} {response : Response}

theorem learns_greet (progress : Progress) (node : Node) :
    (progress.greet node).start.replica.Learns [] (progress.greet node).sends :=
  .keep (fun ⟨_, _, same, _⟩ => List.cons_ne_nil _ _ same.symm) rfl (.done _ _)

theorem learns_pollOf (progress : Progress) (node : Node) (polling : transcript.isPolling = true)
    (subscriptions : List Subscription) :
    progress.replica.Learns transcript (progress.pollOf node subscriptions).sends := by
  induction subscriptions generalizing transcript with
  | nil => exact .done _ _
  | cons subscription rest inductionHypothesis =>
      refine .keep (Transcript.not_acknowledges fun response => ?_) rfl (inductionHypothesis polling)
      rw [Transcript.purpose_of_isPolling _ polling]
      rintro ⟨⟩

theorem learns_accept (track : progress.subscriptions.Track transcript) {kind : ResourceKind}
    (expects : progress.Expects kind response) (node : Node) :
    (progress.accept kind response node).start.replica =
        (progress.deliver kind response.resources).replica ∧
      (progress.accept kind response node).start.replica.Learns (.received response :: transcript)
        (progress.accept kind response node).sends := by
  have admits := track.expects_iff.mp expects
  obtain ⟨reply, acked, acks, accepts⟩ := accept_cases progress kind response node
  have accepted : Transcript.purpose reply (.received response :: transcript) =
      .acceptance response := by
    rw [(ack_eq acks).1, subscriptions_deliver]
    exact track.purpose_ack expects.1 node
  have replied {after : Progress} {rest : List (Request × Progress)}
      (same : after.replica = (acked.settle kind).replica)
      (learns : after.replica.Learns (.sent reply :: .received response :: transcript) rest) :
      acked.replica.Learns (.received response :: transcript) ((reply, after) :: rest) := by
    -- The client settles the kind while it sends the acknowledgement.
    by_cases isListener : kind = .listener
    · subst isListener
      exact .synchronize ⟨response, transcript, rfl, admits, accepted⟩ same learns
    · refine .keep ?_ (same.trans ?_) learns
      · rintro ⟨other, earlier, same, alsoAdmits, _⟩
        cases same
        exact isListener (expects.kind_eq alsoAdmits.1)
      · rw [settle, if_neg isListener]
  rcases accepts with ⟨_, accepts⟩ | ⟨next, names, request, extended, _, subscribes, accepts⟩
  · rw [accepts]
    exact ⟨replica_ack acks, replied rfl (.done _ _)⟩
  · rw [accepts]
    have same := replica_subscribe subscribes
    -- A request after the acknowledgement answers nothing.
    have asks : ¬Transcript.Acknowledges (.sent reply :: .received response :: transcript) .listener
        request := by
      rintro ⟨_, _, ⟨⟩, _⟩
    exact ⟨replica_ack acks, replied same (.keep asks rfl (.done _ _))⟩

theorem learns_react (track : progress.subscriptions.Track transcript) (response : Response)
    (node : Node) :
    (progress.react response node).start.replica.Learns (.received response :: transcript)
      (progress.react response node).sends := by
  by_cases expected : ∃ kind, progress.Expects kind response
  · obtain ⟨kind, expects⟩ := expected
    rw [react_of_expects expects]
    exact (learns_accept track expects node).2
  · obtain ⟨message, rejects⟩ := react_of_not_expects (not_exists.mp expected) node
    rw [rejects]
    refine .keep (Transcript.not_acknowledges fun other => ?_) rfl (.done _ _)
    rw [Transcript.purpose_reject]
    rintro ⟨⟩

end Progress

end MeshAccess.Discovery
