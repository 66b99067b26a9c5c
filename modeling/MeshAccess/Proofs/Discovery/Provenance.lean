import MeshAccess.Proofs.Discovery.Dependents

/-! This file says after which responses a client asks for named resources. -/

namespace MeshAccess.Discovery

namespace Transcript

/-- A response calls for a kind when it counts, and names other resources than those wanted so far. -/
structure Calls (transcript : Transcript) (source : ResourceKind) (response : Response)
    (next : ResourceKind) : Prop where
  admits : transcript.Admits source response
  needed : (source.dependentNames response.resources).isEmpty = false
  new : transcript.wanted? next ≠ some (source.dependentNames response.resources)

/-- A subscription to named resources comes right after the acknowledgement of a response that calls
for them. -/
def FollowsSource (earlier : Transcript) (request : Request) : Prop :=
  ∀ next source : ResourceKind, next.source? = some source → request.typeUrl = next.typeUrl →
    purpose request earlier = .subscription →
    ∃ (reply : Request) (response : Response) (before : Transcript),
      earlier = .sent reply :: .received response :: before ∧
      purpose reply (.received response :: before) = .acceptance response ∧
      before.Calls source response next ∧
      request.names = (source.dependentNames response.resources).toList

variable {transcript : Transcript} {request : Request}

theorem followsSource_of_purpose (different : purpose request transcript ≠ .subscription) :
    transcript.FollowsSource request := fun _ _ _ _ asks => absurd asks different

end Transcript

namespace Progress

variable {progress : Progress} {transcript : Transcript}

theorem calls_of_not_covers (want : progress.subscriptions.Want transcript)
    {source next : ResourceKind} {response : Response} (admits : transcript.Admits source response)
    (named : next.source? = some source)
    (needed : (source.dependentNames response.resources).isEmpty = false)
    (new : progress.covers next (source.dependentNames response.resources) = false) :
    transcript.Calls source response next where
  admits := admits
  needed := needed
  new wanted := by
    rw [covers_eq_false_iff, (want next).subscribed (Option.isSome_of_eq_some named),
      (want next).names, wanted] at new
    exact new.elim nofun fun different => different rfl

theorem followsSource_accept (want : progress.subscriptions.Want transcript)
    (track : progress.subscriptions.Track transcript)
    (follows : transcript.Each Transcript.FollowsSource) {kind : ResourceKind} {response : Response}
    (expects : progress.Expects kind response) (node : Node) :
    ((progress.accept kind response node).transcribe (.received response :: transcript)).Each
      Transcript.FollowsSource := by
  obtain ⟨acked, reply, replied, alike, isReply, ⟨_, accepts⟩ |
    ⟨next, names, request, extended, followed, subscribes, accepts⟩⟩ :=
      accept_follows expects node
  all_goals
    have accepted : Transcript.purpose reply (.received response :: transcript) =
        .acceptance response := by
      rw [isReply]
      exact track.purpose_ack expects.1 node
    have answers : Transcript.FollowsSource (.received response :: transcript) reply := by
      apply Transcript.followsSource_of_purpose
      rw [accepted]
      rintro ⟨⟩
    have acknowledged := (follows.receive response).send answers
    rw [accepts]
  · exact acknowledged
  · obtain ⟨isRequest, _⟩ := subscribe_eq subscribes
    refine acknowledged.send fun other source named typeUrl _ => ?_
    have nextUrl : request.typeUrl = next.typeUrl := by
      rw [isRequest]
      exact congrArg ResourceKind.typeUrl ((alike next).kind_eq.trans (track next).kind_eq)
    cases ResourceKind.typeUrl_injective (typeUrl.symm.trans nextUrl)
    -- The names before the response decide, since its acknowledgement has not changed them.
    rcases named_or_listeners_of_leads (leads_of_followUp? followed) with
      ⟨alsoNamed, isNames, needed, new⟩ | ⟨isListener, _⟩
    · cases Option.some.inj (named.symm.trans alsoNamed)
      subst isNames
      have admits := track.expects_iff.mp expects
      refine ⟨reply, response, transcript, rfl, accepted,
        calls_of_not_covers want admits named needed new, ?_⟩
      rw [isRequest]
      rfl
    · subst isListener
      cases named

theorem followsSource_react (want : progress.subscriptions.Want transcript)
    (track : progress.subscriptions.Track transcript)
    (follows : transcript.Each Transcript.FollowsSource) (response : Response) (node : Node) :
    ((progress.react response node).transcribe (.received response :: transcript)).Each
      Transcript.FollowsSource := by
  by_cases expected : ∃ kind, progress.Expects kind response
  · obtain ⟨kind, expects⟩ := expected
    rw [react_of_expects expects]
    exact followsSource_accept want track follows expects node
  · obtain ⟨message, rejects⟩ := react_of_not_expects (not_exists.mp expected) node
    rw [rejects]
    refine (follows.receive response).send (Transcript.followsSource_of_purpose ?_)
    rw [Transcript.purpose_reject]
    rintro ⟨⟩

theorem followsSource_pollOf (progress : Progress) (node : Node)
    (follows : transcript.Each Transcript.FollowsSource) (polling : transcript.isPolling = true)
    (subscriptions : List Subscription) :
    ((progress.pollOf node subscriptions).transcribe transcript).Each Transcript.FollowsSource := by
  induction subscriptions generalizing transcript with
  | nil => exact follows
  | cons subscription rest inductionHypothesis =>
      rw [Progress.pollOf, List.map_cons, Reaction.transcribe_cons]
      refine inductionHypothesis (follows.send (Transcript.followsSource_of_purpose ?_)) polling
      rw [Transcript.purpose_of_isPolling _ polling]
      rintro ⟨⟩

theorem followsSource_converse (node : Node) (inputs : List Input) :
    (converse node inputs).2.Each Transcript.FollowsSource := by
  induction inputs with
  | nil =>
      refine Transcript.each_nil.send fun next source named typeUrl _ => ?_
      have isCluster : next = .cluster := ResourceKind.typeUrl_injective typeUrl.symm
      rw [isCluster] at named
      cases named
  | cons input earlier follows =>
      have want := want_converse node earlier
      have track := (Writes.converse node earlier).track
      rw [converse_cons]
      cases input with
      | answer response => exact followsSource_react want track follows response node
      | tick => exact followsSource_pollOf _ node follows.tick rfl _

theorem Concludes.want {node : Node} {transcript : Transcript}
    (concludes : Concludes node progress transcript) : progress.subscriptions.Want transcript := by
  have want := want_converse node transcript.inputs
  rwa [concludes.subscriptions, concludes.transcript] at want

end Progress

/-- The subscriptions of a client follow the responses that it gets. -/
structure Session.FollowsSources (session : Session) : Prop where
  carries : session.Carries
  wants : session.client.isWaiting = true →
    session.client.progress.subscriptions.Want session.current
  asks_iff : session.client.isWaiting = true →
    ∀ (next source : ResourceKind) (response : Response), next.source? = some source →
      ((∃ request ∈ (session.client.progress.react response session.client.node).requests.tail,
          request.typeUrl = next.typeUrl) ↔
        session.client.progress.Expects source response ∧
        (source.dependentNames response.resources).isEmpty = false ∧
        ((session.client.progress.subscriptions.get next).isSubscribed = false ∨
          (session.client.progress.subscriptions.get next).names ≠
            source.dependentNames response.resources))
  each : ∀ transcript ∈ session.transcripts, transcript.Each Transcript.FollowsSource

theorem Session.followsSources_of_run {config : Config} {listenerConsumers routeConsumers : Nat}
    {moves : List Move} {session : Session}
    (run : (start (.prepare config listenerConsumers routeConsumers)).run? moves = some session) :
    session.FollowsSources where
  carries := carries_of_run run
  wants waits := (concludes_of_isWaiting run waits).want
  asks_iff waits next source response named := by
    rw [Progress.asks_iff (concludes_of_isWaiting run waits).track named,
      Progress.covers_eq_false_iff]
  each transcript member :=
    (Progress.followsSource_converse config.node transcript.inputs).of_isSuffix
      (isGenuine_of_run run member)

/-- In every run, the subscriptions of a client follow the responses that it gets. Only the readable
resources of a response name something, and nothing has the empty name. -/
theorem Client.follows_sources :
    (∀ (config : Config) (listenerConsumers routeConsumers : Nat) (moves : List Move)
      (client : Client),
      (prepare config listenerConsumers routeConsumers).run? moves = some client →
        ∃ session,
          (Session.start (prepare config listenerConsumers routeConsumers)).run? moves =
            some session ∧
          session.client = client ∧ session.FollowsSources) ∧
    (∀ (kind : ResourceKind) (first second : List Mesh.Packed),
      (∀ resource, kind.isReadable resource = true → (resource ∈ first ↔ resource ∈ second)) →
        kind.dependentNames first = kind.dependentNames second) ∧
    ∀ (kind : ResourceKind) (resources : List Mesh.Packed),
      "" ∉ (kind.dependentNames resources).toList := by
  refine ⟨fun config listenerConsumers routeConsumers moves client run => ?_,
    fun _ _ _ same => ResourceKind.dependentNames_congr same,
    ResourceKind.empty_notMem_dependentNames⟩
  obtain ⟨session, sessionRun, same⟩ := Session.exists_run? run
  exact ⟨session, sessionRun, same, Session.followsSources_of_run sessionRun⟩

namespace Client

/-- A cluster that needs the endpoints of its own name. -/
def shopCluster : Mesh.Packed := ⟨ResourceKind.cluster.typeUrl, [10, 1, 97, 16, 3]⟩

/-- A cluster that ends too early. -/
def brokenCluster : Mesh.Packed := ⟨ResourceKind.cluster.typeUrl, [10]⟩

/-- A client gets a cluster and asks for its endpoints. -/
def clusterThenEndpoints : List Move :=
  [.start, .connect, .send, .answer (.ok ⟨"1", [shopCluster], ResourceKind.cluster.typeUrl, "a"⟩),
    .receive, .send, .send]

theorem follows_shopCluster :
    (∃ client, (prepare {} 1 1).run? clusterThenEndpoints = some client ∧
      client.isWaiting = true ∧
      ∃ session, (Session.start (prepare {} 1 1)).run? clusterThenEndpoints = some session ∧
        session.client = client ∧ session.FollowsSources) ∧
    (ResourceKind.cluster.dependentNames [shopCluster]).toList = ["a"] ∧
    ResourceKind.cluster.dependentNames [shopCluster, brokenCluster, shopCluster] =
      ResourceKind.cluster.dependentNames [shopCluster] := by
  refine ⟨?_, by decide +kernel, ?_⟩
  · have waits : ((prepare {} 1 1).run? clusterThenEndpoints).map isWaiting = some true := by
      decide +kernel
    obtain ⟨client, run, waiting⟩ := Option.map_eq_some_iff.mp waits
    exact ⟨client, run, waiting, follows_sources.1 {} 1 1 clusterThenEndpoints client run⟩
  · refine follows_sources.2.1 .cluster _ _ fun resource readable => ?_
    have isBroken : ResourceKind.cluster.isReadable brokenCluster = false := by decide +kernel
    have notBroken : resource ≠ brokenCluster := fun same => by
      rw [same, isBroken] at readable
      cases readable
    simp [notBroken]

end Client

end MeshAccess.Discovery
