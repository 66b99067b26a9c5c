import MeshAccess.Proofs.Discovery.Tracking

/-! This file says how a client answers a response. -/

namespace MeshAccess.Discovery

/-- Each subscription is to the kind in whose place it stands. -/
def Subscriptions.AreIndexed (subscriptions : Subscriptions) : Prop :=
  ∀ kind, (subscriptions.get kind).kind = kind

namespace Progress

/-- A request asks for a kind, as the client is subscribed to it now. -/
def AsksFor (progress : Progress) (node : Node) (kind : ResourceKind) (request : Request) : Prop :=
  (progress.subscriptions.get kind).isSubscribed = true ∧
    request = (progress.subscriptions.get kind).currentRequest node none

/-- The requests in which a client reacts to a response: an answer, and others after it. -/
structure Answers (progress : Progress) (response : Response) (node : Node) (answer : Request)
    (others : List Request) : Prop where
  requests : (progress.react response node).requests = answer :: others
  typeUrl : answer.typeUrl = response.typeUrl
  nonce : answer.nonce = response.nonce
  atMostOne : others.length ≤ 1
  /-- What comes after the answer asks for another kind. -/
  subscription : ∀ request ∈ others, ∃ kind, kind.typeUrl ≠ response.typeUrl ∧
    (progress.react response node).finish.AsksFor node kind request
  acknowledges_iff : answer.error = none ↔ ∃ kind, progress.Expects kind response
  acknowledgement : ∀ kind, progress.Expects kind response →
    answer.version = response.version ∧
      answer.names = (progress.subscriptions.get kind).names.toList
  rejection : (∀ kind, ¬progress.Expects kind response) →
    answer.names = [] ∧ answer.version = "" ∧ others = [] ∧
      ∀ count, (progress.react response node).after count = progress

theorem Leads.ne {progress : Progress} {kind next : ResourceKind} {resources : List Mesh.Packed}
    {names : NameSet} (leads : progress.Leads kind resources next names) : next ≠ kind := by
  cases leads with
  | endpoints isCluster needed new =>
      rw [isCluster]
      nofun
  | listeners isDone new =>
      rcases isDone with isEndpoint | ⟨isCluster, _⟩
      · rw [isEndpoint]
        nofun
      · rw [isCluster]
        nofun
  | routes isListener needed new =>
      rw [isListener]
      nofun

theorem asksFor_of_subscribe {progress extended : Progress} {kind : ResourceKind} {names : NameSet}
    {node : Node} {request : Request}
    (subscribes : progress.subscribe kind names node = (request, extended)) :
    extended.AsksFor node kind request := by
  obtain ⟨isRequest, isExtended⟩ := subscribe_eq subscribes
  rw [AsksFor, isExtended, Subscriptions.get_set_self]
  exact ⟨Subscription.isSubscribed_subscribe _ names node, isRequest⟩

variable {progress : Progress} {response : Response}

theorem answers_of_not_expects (refuses : ∀ kind, ¬progress.Expects kind response) (node : Node) :
    ∃ answer others, progress.Answers response node answer others := by
  obtain ⟨message, rejects⟩ := react_of_not_expects refuses node
  refine ⟨response.reject message node, [], ?_⟩
  exact {
    requests := by rw [rejects]; rfl
    typeUrl := rfl
    nonce := rfl
    atMostOne := Nat.zero_le 1
    subscription := nofun
    acknowledges_iff := ⟨nofun, fun ⟨kind, expects⟩ => absurd expects (refuses kind)⟩
    acknowledgement := fun kind expects => absurd expects (refuses kind)
    rejection := fun _ => by
      refine ⟨rfl, rfl, rfl, fun count => ?_⟩
      rw [rejects]
      cases count with
      | zero => rfl
      | succ count => simp [Reaction.after] }

/-- After the acknowledgement, a client asks for one other kind or for nothing. -/
theorem requests_of_expects {kind : ResourceKind} (expects : progress.Expects kind response)
    (node : Node) :
    ∃ others, (progress.react response node).requests =
        ((progress.subscriptions.get kind).ack response node).1 :: others ∧ others.length ≤ 1 ∧
      ∀ request ∈ others, ∃ other, other.typeUrl ≠ response.typeUrl ∧
        (progress.react response node).finish.AsksFor node other request := by
  rw [react_of_expects expects]
  obtain ⟨reply, acked, acks, ⟨_, accepts⟩ |
    ⟨next, names, request, extended, followed, subscribes, accepts⟩⟩ :=
      accept_cases progress kind response node
  all_goals
    have isReply := (ack_eq acks).1
    rw [subscriptions_deliver] at isReply
    rw [accepts, ← isReply]
  · exact ⟨[], rfl, Nat.zero_le 1, nofun⟩
  · refine ⟨[request], rfl, Nat.le_refl 1, fun other member => ?_⟩
    rw [List.mem_singleton.mp member]
    refine ⟨next, fun same => ?_, asksFor_of_subscribe subscribes⟩
    exact (leads_of_followUp? followed).ne (expects.kind_eq same.symm).symm

theorem answers_of_expects (indexed : progress.subscriptions.AreIndexed) {kind : ResourceKind}
    (expects : progress.Expects kind response) (node : Node) :
    ∃ answer others, progress.Answers response node answer others := by
  obtain ⟨others, requests, atMostOne, subscription⟩ := requests_of_expects expects node
  refine ⟨((progress.subscriptions.get kind).ack response node).1, others, ?_⟩
  exact {
    requests := requests
    typeUrl := (congrArg ResourceKind.typeUrl (indexed kind)).trans expects.1.symm
    nonce := rfl
    atMostOne := atMostOne
    subscription := subscription
    acknowledges_iff := ⟨fun _ => ⟨kind, expects⟩, fun _ => rfl⟩
    acknowledgement := fun other alsoExpects => by
      rw [alsoExpects.kind_eq expects.1]
      exact ⟨rfl, rfl⟩
    rejection := fun refuses => absurd expects (refuses kind) }

theorem exists_answers (indexed : progress.subscriptions.AreIndexed) (response : Response)
    (node : Node) : ∃ answer others, progress.Answers response node answer others := by
  by_cases expected : ∃ kind, progress.Expects kind response
  · obtain ⟨kind, expects⟩ := expected
    exact answers_of_expects indexed expects node
  · exact answers_of_not_expects (not_exists.mp expected) node

end Progress

namespace Session

theorem areIndexed_of_run {config : Config} {listenerConsumers routeConsumers : Nat}
    {moves : List Move} {client : Client}
    (run : (Client.prepare config listenerConsumers routeConsumers).run? moves = some client)
    (waits : client.isWaiting = true) : client.progress.subscriptions.AreIndexed := by
  obtain ⟨session, sessionRun, rfl⟩ := exists_run? run
  have track := (concludes_of_isWaiting sessionRun waits).track
  exact fun kind => (track kind).kind_eq

end Session

/-- Every response gets one answer, followed by one subscription at most. The answer is an
acknowledgement if and only if the kind of the response is subscribed. A rejected response changes
nothing. -/
theorem Client.answers_everything :
    (∀ (config : Config) (listenerConsumers routeConsumers : Nat) (moves : List Move)
      (client : Client),
      (prepare config listenerConsumers routeConsumers).run? moves = some client →
        client.isWaiting = true → client.progress.subscriptions.AreIndexed) ∧
    ∀ (progress : Progress) (response : Response) (node : Node),
      progress.subscriptions.AreIndexed →
        ∃ answer others, progress.Answers response node answer others :=
  ⟨fun _ _ _ _ _ run waits => Session.areIndexed_of_run run waits,
    fun _ response node indexed => Progress.exists_answers indexed response node⟩

theorem Client.answers_afterGreeting :
    ∃ client, (prepare {} 1 1).run? [.start, .connect, .send] = some client ∧
      client.isWaiting = true ∧ client.progress.subscriptions.AreIndexed ∧
      ∀ response, ∃ answer others,
        client.progress.Answers response client.node answer others :=
  have indexed := answers_everything.1 {} 1 1 [.start, .connect, .send] _ rfl rfl
  ⟨_, rfl, rfl, indexed, fun response => answers_everything.2 _ response _ indexed⟩

end MeshAccess.Discovery
