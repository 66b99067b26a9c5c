import MeshAccess.Proofs.Discovery.Tracking

/-! This file says that versions and nonces stay on their streams and with their kinds. -/

namespace MeshAccess.Discovery

namespace Transcript

/-- What a request after the transcript repeats of it. -/
structure Echoes (earlier : Transcript) (request : Request) : Prop where
  nonce : request.nonce = "" ∨ ∃ response, .received response ∈ earlier ∧
    response.typeUrl = request.typeUrl ∧ request.nonce = response.nonce
  version : request.version = "" ∨ ∃ kind, request.typeUrl = kind.typeUrl ∧
    ∃ response ∈ earlier.admitted kind, request.version = response.version
  /-- An acknowledgement and a subscription say what the latest response of their kind has said. -/
  latest : ∀ kind, request.typeUrl = kind.typeUrl →
    (purpose request earlier = .subscription ∨
      ∃ response, purpose request earlier = .acceptance response) →
    request.version = earlier.latestVersion kind ∧ request.nonce = earlier.latestNonce kind
  poll : purpose request earlier = .poll → request.version = "" ∧ request.nonce = ""

variable {kind : ResourceKind} {earlier : Transcript} {request : Request}

theorem latestVersion_mem (kind : ResourceKind) (transcript : Transcript) :
    transcript.latestVersion kind = "" ∨
      ∃ response ∈ transcript.admitted kind, transcript.latestVersion kind = response.version := by
  rw [latestVersion]
  cases counted : transcript.admitted kind with
  | nil => exact .inl rfl
  | cons response others => exact .inr ⟨response, List.mem_cons_self, rfl⟩

theorem latestNonce_mem (kind : ResourceKind) (transcript : Transcript) :
    transcript.latestNonce kind = "" ∨
      ∃ response ∈ transcript.admitted kind, transcript.latestNonce kind = response.nonce := by
  rw [latestNonce]
  cases counted : transcript.admitted kind with
  | nil => exact .inl rfl
  | cons response others => exact .inr ⟨response, List.mem_cons_self, rfl⟩

/-- A request that says what the latest response of its kind has said. -/
theorem Echoes.of_latest (typeUrl : request.typeUrl = kind.typeUrl)
    (version : request.version = earlier.latestVersion kind)
    (nonce : request.nonce = earlier.latestNonce kind)
    (unpolled : purpose request earlier ≠ .poll) : earlier.Echoes request where
  nonce := by
    rw [nonce]
    refine (latestNonce_mem kind earlier).imp_right ?_
    rintro ⟨response, member, same⟩
    obtain ⟨received, sameKind⟩ := mem_of_mem_admitted member
    exact ⟨response, received, sameKind.trans typeUrl.symm, same⟩
  version := by
    rw [version]
    exact (latestVersion_mem kind earlier).imp_right fun found => ⟨kind, typeUrl, found⟩
  latest other sameUrl _ := by
    have same : kind = other := ResourceKind.typeUrl_injective (typeUrl.symm.trans sameUrl)
    rw [← same]
    exact ⟨version, nonce⟩
  poll polled := absurd polled unpolled

/-- A rejection repeats the nonce of its response, and nothing else. -/
theorem Echoes.of_reject (response : Response) (message : String) (node : Node)
    (earlier : Transcript) :
    Echoes (.received response :: earlier) (response.reject message node) where
  nonce := .inr ⟨response, List.mem_cons_self, rfl, rfl⟩
  version := .inl rfl
  latest := by
    rw [purpose_reject]
    rintro kind _ (asks | ⟨other, accepts⟩)
    · cases asks
    · cases accepts
  poll polled := by
    rw [purpose_reject] at polled
    cases polled

/-- A poll repeats nothing. -/
theorem Echoes.of_poll (polling : earlier.isPolling = true) (subscription : Subscription)
    (node : Node) : earlier.Echoes (subscription.poll node) where
  nonce := .inl rfl
  version := .inl rfl
  latest := by
    rw [purpose_of_isPolling _ polling]
    rintro kind _ (asks | ⟨response, accepts⟩)
    · cases asks
    · cases accepts
  poll _ := ⟨rfl, rfl⟩

end Transcript

namespace Progress.Writes

variable {node : Node} {progress : Progress} {transcript : Transcript}

theorem echoes (writes : Writes node progress transcript) :
    transcript.Each Transcript.Echoes := by
  induction writes with
  | greet =>
      have typeUrl : (Progress.start.reset.subscribe .cluster .empty node).1.typeUrl =
          ResourceKind.cluster.typeUrl := rfl
      exact Transcript.each_nil.send (.of_latest typeUrl rfl rfl (by rintro ⟨⟩))
  | reject message writes refuses echoes =>
      exact (echoes.receive _).send (.of_reject _ message node _)
  | @acknowledge progress acked transcript kind response reply writes expects acks echoes =>
      have tracks := writes.track kind
      have counted := Transcript.admitted_of_admits (writes.track.expects_iff.mp expects)
      obtain ⟨isReply, _⟩ := ack_eq acks
      rw [subscriptions_deliver] at isReply
      have typeUrl : reply.typeUrl = kind.typeUrl := by
        rw [isReply]
        exact congrArg ResourceKind.typeUrl tracks.kind_eq
      refine (echoes.receive response).send (.of_latest typeUrl ?_ ?_ ?_)
      · rw [isReply, Transcript.latestVersion, counted]
        rfl
      · rw [isReply, Transcript.latestNonce, counted]
        rfl
      · rw [isReply, writes.track.purpose_ack expects.1]
        rintro ⟨⟩
  | @subscribe progress extended transcript kind next response reply request names writes leads
      subscribes echoes =>
      have tracks := writes.track next
      obtain ⟨isRequest, _⟩ := subscribe_eq subscribes
      have typeUrl : request.typeUrl = next.typeUrl := by
        rw [isRequest]
        exact congrArg ResourceKind.typeUrl tracks.kind_eq
      refine echoes.send (.of_latest typeUrl ?_ ?_ (by rintro ⟨⟩))
      · rw [isRequest]
        exact tracks.version
      · rw [isRequest]
        exact tracks.nonce
  | tick writes echoes => exact echoes.tick
  | poll kind writes polling subscribed echoes => exact echoes.send (.of_poll polling _ node)

end Progress.Writes

/-- A response has no other trace than its rejection, which comes right after it. The client writes the
same without both of them. -/
def Transcript.IsErasable (node : Node) (rest : Transcript) (response : Response)
    (earlier : Transcript) : Prop :=
  rest = [] ∨ ∃ (others : Transcript) (message : String),
    rest = others ++ [.sent (response.reject message node)] ∧ (others ++ earlier).IsGenuine node

namespace Transcript.IsGenuine

variable {node : Node} {transcript : Transcript}

theorem echoes (genuine : transcript.IsGenuine node) : transcript.Each Echoes :=
  (Progress.Writes.converse node transcript.inputs).echoes.of_isSuffix genuine

/-- A rejected response can be left out together with its rejection. The client then writes the same
as before. -/
theorem erase {rest earlier : Transcript} {response : Response}
    (genuine : (rest ++ .received response :: earlier).IsGenuine node)
    (refuses : ∀ kind, ¬earlier.Admits kind response) :
    IsErasable node rest response earlier := by
  have complete : (Progress.converse node earlier.inputs).2 = earlier :=
    before_input (show (rest ++ (Input.answer response).occurrence :: earlier).IsGenuine node from
      genuine)
  have track := (Progress.Writes.converse node earlier.inputs).track
  rw [complete] at track
  have unexpected : ∀ kind, ¬(Progress.converse node earlier.inputs).1.Expects kind response :=
    fun kind expects => refuses kind (track.expects_iff.mp expects)
  obtain ⟨_, others, message, whole, erased⟩ :=
    Progress.converse_erase node rest.inputs unexpected
  rw [complete] at whole erased
  have isPart : rest ++ .received response :: earlier <:+
      others ++ [.sent (response.reject message node)] ++ .received response :: earlier := by
    rw [List.append_assoc, List.singleton_append, ← whole,
      ← inputs_append rest (.answer response) earlier]
    exact genuine
  -- The rejection comes first after the response, so it is there as soon as anything is.
  rcases List.suffix_concat_iff.mp (List.suffix_append_self_iff.mp isPart) with
    empty | ⟨kept, same, isPart⟩
  · exact .inl empty
  · refine .inr ⟨kept, message, same, ?_⟩
    have kept : kept ++ earlier <:+ others ++ earlier := List.suffix_append_self_iff.mpr isPart
    rw [← erased] at kept
    exact isGenuine_of_isSuffix kept

end Transcript.IsGenuine

/-- Versions and nonces stay on their streams and with their kinds, and rejected responses leave no
trace. -/
structure Session.IsIsolated (session : Session) : Prop where
  carries : session.Carries
  tracks : session.client.isWaiting = true →
    session.client.progress.subscriptions.Track session.current
  echoes : ∀ transcript ∈ session.transcripts, transcript.Each Transcript.Echoes
  genuine : ∀ transcript ∈ session.transcripts, transcript.IsGenuine session.client.node
  erasable : ∀ (rest : Transcript) (response : Response) (earlier : Transcript),
    rest ++ .received response :: earlier ∈ session.transcripts →
      (∀ kind, ¬earlier.Admits kind response) →
        Transcript.IsErasable session.client.node rest response earlier

namespace Session

theorem isIsolated_of_run {config : Config} {listenerConsumers routeConsumers : Nat}
    {moves : List Move} {session : Session}
    (run : (start (.prepare config listenerConsumers routeConsumers)).run? moves = some session) :
    session.IsIsolated := by
  have known := node_of_run run
  have genuine (transcript : Transcript) (member : transcript ∈ session.transcripts) :
      transcript.IsGenuine session.client.node := by
    rw [known]
    exact isGenuine_of_run run member
  exact {
    carries := carries_of_run run
    tracks := fun waits => (concludes_of_isWaiting run waits).track
    echoes := fun transcript member => (genuine transcript member).echoes
    genuine := genuine
    erasable := fun rest response earlier member refuses => (genuine _ member).erase refuses }

/-- In every run, the requests of a stream repeat only what has come on this stream for their kinds.
A rejected response changes nothing about them. -/
theorem run_isIsolated (config : Config) (listenerConsumers routeConsumers : Nat)
    (moves : List Move) (client : Client)
    (run : (Client.prepare config listenerConsumers routeConsumers).run? moves = some client) :
    ∃ session,
      (start (.prepare config listenerConsumers routeConsumers)).run? moves = some session ∧
      session.client = client ∧ session.IsIsolated := by
  obtain ⟨session, sessionRun, same⟩ := exists_run? run
  exact ⟨session, sessionRun, same, isIsolated_of_run sessionRun⟩

/-- A client gets endpoints that it has not asked for, and then clusters. It loses its stream and
opens another one. -/
def unrequestedEndpoints : List Move :=
  [.start, .connect, .send, .answer (.ok ⟨"7", [], ResourceKind.endpoint.typeUrl, "x"⟩), .receive,
    .send, .answer (.ok ⟨"1", [], ResourceKind.cluster.typeUrl, "a"⟩), .receive, .send, .send,
    .finish, .fail, .pass 3000, .wake, .connect, .send]

theorem unrequestedEndpoints_isIsolated :
    ∃ client, (Client.prepare {} 1 1).run? unrequestedEndpoints = some client ∧
      ∃ session, (start (.prepare {} 1 1)).run? unrequestedEndpoints = some session ∧
        session.client = client ∧ session.IsIsolated :=
  ⟨_, rfl, run_isIsolated {} 1 1 unrequestedEndpoints _ rfl⟩

end Session

end MeshAccess.Discovery
