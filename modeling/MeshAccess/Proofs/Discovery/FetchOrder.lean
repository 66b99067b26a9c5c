import MeshAccess.Proofs.Discovery.Invariant
import MeshAccess.Proofs.Discovery.Purpose
import MeshAccess.Proofs.Discovery.Reaction

/-! This file says in which order a client asks for the kinds of resources. -/

namespace MeshAccess.Discovery

/-- The resources of a response of a kind make others necessary. -/
def Response.HasDependents (kind : ResourceKind) (response : Response) : Prop :=
  (kind.dependentNames response.resources).isEmpty = false

/-- A request asks for all clusters, and knows of no version and no nonce. -/
structure Request.IsGreeting (request : Request) : Prop where
  typeUrl : request.typeUrl = ResourceKind.cluster.typeUrl
  names : request.names = []
  version : request.version = ""
  nonce : request.nonce = ""
  error : request.error = none

namespace Transcript

/-- The client has sent a request. -/
def HasBegun (transcript : Transcript) : Prop := ∃ request, .sent request ∈ transcript

/-- What has been accepted makes the client ask for a kind. -/
def Invites (transcript : Transcript) : ResourceKind → Prop
  | .cluster => True
  | .endpoint => transcript.HasAccepted .cluster (Response.HasDependents .cluster)
  | .listener =>
      transcript.HasAccepted .endpoint (fun _ => True) ∨
        transcript.HasAccepted .cluster fun response => ¬response.HasDependents .cluster
  | .route => transcript.HasAccepted .listener (Response.HasDependents .listener)

/-- A request after the transcript is about a kind, and does not reject a response. -/
def Continues (earlier : Transcript) (kind : ResourceKind) (request : Request) : Prop :=
  request.typeUrl = kind.typeUrl ∧ ∀ response, purpose request earlier ≠ .rejection response

/-- A request after the transcript comes at its time. -/
structure Permits (earlier : Transcript) (request : Request) : Prop where
  greeting : ¬earlier.HasBegun → request.IsGreeting
  invited : ∀ kind, earlier.Continues kind request → earlier.Invites kind
  repeated : ∀ kind, earlier.Continues kind request →
    purpose request earlier = .subscription ∨ earlier.HasSubscribed kind
  listenerNames : earlier.Continues .listener request → request.names = []
  listenerOnce : purpose request earlier = .subscription →
    request.typeUrl = ResourceKind.listener.typeUrl → ¬earlier.HasSubscribed .listener

/-- All requests of a transcript come at their times. -/
def InOrder (transcript : Transcript) : Prop :=
  ∀ (request : Request) (earlier : Transcript), .sent request :: earlier <:+ transcript →
    earlier.Permits request

theorem Continues.kind_eq {earlier : Transcript} {kind other : ResourceKind} {request : Request}
    (continues : earlier.Continues other request) (typeUrl : request.typeUrl = kind.typeUrl) :
    kind = other :=
  ResourceKind.typeUrl_injective (typeUrl.symm.trans continues.1)

/-- A rejection may always be sent once the stream has begun. -/
theorem permits_rejection {transcript : Transcript} (begun : transcript.HasBegun)
    {request : Request} {response : Response}
    (rejects : transcript.purpose request = .rejection response) :
    transcript.Permits request where
  greeting unsent := absurd begun unsent
  invited _ continues := absurd rejects (continues.2 response)
  repeated _ continues := absurd rejects (continues.2 response)
  listenerNames continues := absurd rejects (continues.2 response)
  listenerOnce asks := by
    rw [rejects] at asks
    cases asks

theorem InOrder.of_isSuffix {part whole : Transcript} (inOrder : whole.InOrder)
    (isPart : part <:+ whole) : part.InOrder :=
  Each.of_isSuffix inOrder isPart

theorem inOrder_nil : InOrder [] := each_nil

theorem InOrder.send {transcript : Transcript} {request : Request} (inOrder : transcript.InOrder)
    (permits : transcript.Permits request) : InOrder (.sent request :: transcript) :=
  Each.send inOrder permits

theorem InOrder.observe {transcript : Transcript} {occurrence : Occurrence}
    (inOrder : transcript.InOrder) (unsent : ∀ request, occurrence ≠ .sent request) :
    InOrder (occurrence :: transcript) :=
  Each.observe inOrder unsent

theorem Invites.mono {part whole : Transcript} {kind : ResourceKind} (invites : part.Invites kind)
    (isPart : part <:+ whole) : whole.Invites kind := by
  cases kind with
  | cluster => trivial
  | endpoint => exact HasAccepted.mono invites isPart
  | listener => exact invites.imp (HasAccepted.mono · isPart) (HasAccepted.mono · isPart)
  | route => exact HasAccepted.mono invites isPart

end Transcript

/-- What the subscriptions of a client say about its transcript. -/
structure Subscriptions.Fit (subscriptions : Subscriptions) (transcript : Transcript) : Prop where
  kinds : ∀ kind, (subscriptions.get kind).kind = kind
  rootNames : ∀ kind, kind = .cluster ∨ kind = .listener → (subscriptions.get kind).names = .empty
  invited : ∀ kind, (subscriptions.get kind).isSubscribed = true → transcript.Invites kind
  asked : ∀ kind, (subscriptions.get kind).isSubscribed = true → transcript.HasSubscribed kind
  askedListener : transcript.HasSubscribed .listener → subscriptions.listener.isSubscribed = true

namespace Subscriptions.Fit

variable {subscriptions : Subscriptions} {transcript : Transcript}

/-- An occurrence that asks for no listeners leaves the subscriptions as they are. -/
theorem extend (fit : subscriptions.Fit transcript) (occurrence : Occurrence)
    (unasked : ∀ request, occurrence = .sent request →
      transcript.purpose request = .subscription →
        request.typeUrl ≠ ResourceKind.listener.typeUrl) :
    subscriptions.Fit (occurrence :: transcript) where
  kinds := fit.kinds
  rootNames := fit.rootNames
  invited kind subscribed := (fit.invited kind subscribed).mono (List.suffix_cons _ _)
  asked kind subscribed := (fit.asked kind subscribed).mono (List.suffix_cons _ _)
  askedListener found := by
    rcases Transcript.hasSubscribed_cons found with ⟨request, same, asks, typeUrl⟩ | found
    · exact absurd typeUrl (unasked request same asks)
    · exact fit.askedListener found

/-- A subscribed kind may be asked for again with its names. -/
theorem permits_repetition (fit : subscriptions.Fit transcript) (begun : transcript.HasBegun)
    {request : Request} {kind : ResourceKind}
    (subscribed : (subscriptions.get kind).isSubscribed = true)
    (typeUrl : request.typeUrl = kind.typeUrl)
    (names : request.names = (subscriptions.get kind).names.toList)
    (repeats : transcript.purpose request ≠ .subscription) : transcript.Permits request where
  greeting unsent := absurd begun unsent
  invited other continues := by
    have same := continues.kind_eq typeUrl
    rw [← same]
    exact fit.invited kind subscribed
  repeated other continues := by
    have same := continues.kind_eq typeUrl
    rw [← same]
    exact .inr (fit.asked kind subscribed)
  listenerNames continues := by
    have same := continues.kind_eq typeUrl
    rw [names, same]
    exact congrArg NameSet.toList (fit.rootNames .listener (.inr rfl))
  listenerOnce asks := absurd asks repeats

/-- A kind may be asked for when the client has been invited to it. Listeners must be new. -/
theorem permits_subscription (fit : subscriptions.Fit transcript) {request : Request}
    {kind : ResourceKind} (greeting : ¬transcript.HasBegun → request.IsGreeting)
    (typeUrl : request.typeUrl = kind.typeUrl)
    (asks : transcript.purpose request = .subscription) (invited : transcript.Invites kind)
    (new : kind = .listener → request.names = [] ∧ subscriptions.listener.isSubscribed = false) :
    transcript.Permits request where
  greeting := greeting
  invited other continues := by
    have same := continues.kind_eq typeUrl
    rw [← same]
    exact invited
  repeated _ _ := .inl asks
  listenerNames continues := (new (continues.kind_eq typeUrl)).1
  listenerOnce _ listener found := by
    have same : kind = .listener := ResourceKind.typeUrl_injective (typeUrl.symm.trans listener)
    have subscribed := fit.askedListener found
    rw [(new same).2] at subscribed
    cases subscribed

/-- Only the kinds, the names and whether there is a subscription matter. -/
theorem of_alike {others : Subscriptions} (fit : subscriptions.Fit transcript)
    (alike : ∀ kind, (others.get kind).kind = (subscriptions.get kind).kind ∧
      (others.get kind).names = (subscriptions.get kind).names ∧
      (others.get kind).isSubscribed = (subscriptions.get kind).isSubscribed) :
    others.Fit transcript where
  kinds kind := (alike kind).1.trans (fit.kinds kind)
  rootNames kind root := (alike kind).2.1.trans (fit.rootNames kind root)
  invited kind subscribed := fit.invited kind ((alike kind).2.2.symm.trans subscribed)
  asked kind subscribed := fit.asked kind ((alike kind).2.2.symm.trans subscribed)
  askedListener found := (alike .listener).2.2.trans (fit.askedListener found)

/-- The subscriptions after a request that asks for a kind. -/
theorem subscribe (fit : subscriptions.Fit transcript) {request : Request} {kind : ResourceKind}
    {subscription : Subscription} (same : subscription.kind = kind)
    (names : kind = .cluster ∨ kind = .listener → subscription.names = .empty)
    (subscribed : subscription.isSubscribed = true) (typeUrl : request.typeUrl = kind.typeUrl)
    (asks : transcript.purpose request = .subscription) (invited : transcript.Invites kind) :
    (subscriptions.set kind subscription).Fit (.sent request :: transcript) where
  kinds other := by
    by_cases isKind : other = kind
    · rw [isKind, Subscriptions.get_set_self, same]
    · rw [Subscriptions.get_set_of_ne _ _ isKind, fit.kinds]
  rootNames other root := by
    by_cases isKind : other = kind
    · rw [isKind, Subscriptions.get_set_self]
      exact names (isKind ▸ root)
    · rw [Subscriptions.get_set_of_ne _ _ isKind]
      exact fit.rootNames other root
  invited other isSubscribed := by
    by_cases isKind : other = kind
    · rw [isKind]
      exact invited.mono (List.suffix_cons _ _)
    · rw [Subscriptions.get_set_of_ne _ _ isKind] at isSubscribed
      exact (fit.invited other isSubscribed).mono (List.suffix_cons _ _)
  asked other isSubscribed := by
    by_cases isKind : other = kind
    · rw [isKind]
      exact ⟨request, transcript, List.suffix_refl _, asks, typeUrl⟩
    · rw [Subscriptions.get_set_of_ne _ _ isKind] at isSubscribed
      exact (fit.asked other isSubscribed).mono (List.suffix_cons _ _)
  askedListener found := by
    show ((subscriptions.set kind subscription).get .listener).isSubscribed = true
    by_cases isKind : ResourceKind.listener = kind
    · rw [← isKind, Subscriptions.get_set_self]
      exact subscribed
    · rw [Subscriptions.get_set_of_ne _ _ isKind]
      rcases Transcript.hasSubscribed_cons found with ⟨other, sent, _, isListener⟩ | found
      · cases sent
        exact absurd (ResourceKind.typeUrl_injective (isListener.symm.trans typeUrl)) isKind
      · exact fit.askedListener found

theorem start : Subscriptions.start.Fit [] where
  kinds kind := by rw [Subscriptions.get_start, Subscription.start]
  rootNames kind _ := by rw [Subscriptions.get_start, Subscription.start]
  invited kind subscribed := by
    rw [Subscriptions.get_start] at subscribed
    cases subscribed
  asked kind subscribed := by
    rw [Subscriptions.get_start] at subscribed
    cases subscribed
  askedListener := by
    rintro ⟨request, earlier, found, _⟩
    exact absurd (List.suffix_nil.mp found) (List.cons_ne_nil _ _)

/-- A subscribed kind accepts a response without changing what is asked for. -/
theorem ack (fit : subscriptions.Fit transcript) {kind : ResourceKind}
    (subscribed : (subscriptions.get kind).isSubscribed = true) (response : Response)
    (node : Node) :
    (subscriptions.set kind ((subscriptions.get kind).ack response node).2).Fit transcript := by
  refine fit.of_alike fun other => ?_
  by_cases isKind : other = kind
  · rw [isKind, Subscriptions.get_set_self]
    refine ⟨rfl, rfl, ?_⟩
    rw [subscribed]
    show decide ((subscriptions.get kind).phase.accept ≠ .unsubscribed) = true
    cases (subscriptions.get kind).phase <;> rfl
  · rw [Subscriptions.get_set_of_ne _ _ isKind]
    exact ⟨rfl, rfl, rfl⟩

end Subscriptions.Fit

/-- The requests of a transcript are in order, and the subscriptions of a client fit them. -/
structure Progress.Orders (progress : Progress) (transcript : Transcript) : Prop where
  fit : progress.subscriptions.Fit transcript
  begun : transcript.HasBegun
  inOrder : transcript.InOrder

namespace Progress.Orders

variable {progress : Progress} {transcript : Transcript}

/-- What the client only observes. -/
theorem observe (orders : progress.Orders transcript) {occurrence : Occurrence}
    (unsent : ∀ request, occurrence ≠ .sent request) :
    progress.Orders (occurrence :: transcript) where
  fit := orders.fit.extend _ fun request same => absurd same (unsent request)
  begun := orders.begun.imp fun _ => List.mem_cons_of_mem _
  inOrder := orders.inOrder.observe unsent

theorem receive (orders : progress.Orders transcript) (response : Response) :
    progress.Orders (.received response :: transcript) := orders.observe nofun

theorem tick (orders : progress.Orders transcript) : progress.Orders (.ticked :: transcript) :=
  orders.observe nofun

/-- A request that asks for nothing new. -/
theorem send {request : Request} (orders : progress.Orders transcript)
    (unasked : transcript.purpose request ≠ .subscription) (permits : transcript.Permits request) :
    progress.Orders (.sent request :: transcript) where
  fit := by
    refine orders.fit.extend _ fun other same asks => ?_
    cases same
    exact absurd asks unasked
  begun := ⟨request, List.mem_cons_self⟩
  inOrder := orders.inOrder.send permits

theorem reject (orders : progress.Orders transcript) (response : Response) (message : String)
    (node : Node) :
    progress.Orders (.sent (response.reject message node) :: .received response :: transcript) := by
  have rejects := Transcript.purpose_reject response message node transcript
  refine (orders.receive response).send ?_ ?_
  · rw [rejects]
    exact nofun
  · exact Transcript.permits_rejection (orders.receive response).begun rejects

/-- The greeting of a stream. -/
theorem greet (progress : Progress) (node : Node) :
    (progress.greet node).finish.Orders ((progress.greet node).transcribe []) := by
  have start : progress.reset.subscriptions.Fit [] := Subscriptions.Fit.start
  have invited : Transcript.Invites [] .cluster := trivial
  refine ⟨?_, ⟨_, List.mem_cons_self⟩, Transcript.inOrder_nil.send ?_⟩
  · show (progress.reset.subscriptions.set .cluster _).Fit [.sent _]
    exact start.subscribe rfl (fun _ => rfl) rfl rfl rfl invited
  · exact start.permits_subscription (fun _ => ⟨rfl, rfl, rfl, rfl, rfl⟩) rfl rfl invited nofun

/-- A poll repeats what has been asked for. -/
theorem polls (orders : progress.Orders transcript) (polling : transcript.isPolling = true)
    (node : Node) (subscriptions : List Subscription)
    (known : ∀ subscription ∈ subscriptions, subscription ∈ progress.subscriptions.subscribed) :
    (progress.pollOf node subscriptions).finish = progress ∧
      progress.Orders ((progress.pollOf node subscriptions).transcribe transcript) := by
  induction subscriptions generalizing transcript with
  | nil => exact ⟨rfl, orders⟩
  | cons subscription rest inductionHypothesis =>
      have ⟨isKnown, restKnown⟩ := List.forall_mem_cons.mp known
      obtain ⟨member, subscribed⟩ := List.mem_filter.mp isKnown
      obtain ⟨kind, _, rfl⟩ := List.mem_map.mp member
      have isPoll := Transcript.purpose_of_isPolling
        ((progress.subscriptions.get kind).poll node) polling
      have unasked : transcript.purpose ((progress.subscriptions.get kind).poll node) ≠
          .subscription := by
        rw [isPoll]
        exact nofun
      have typeUrl : ((progress.subscriptions.get kind).poll node).typeUrl = kind.typeUrl :=
        congrArg ResourceKind.typeUrl (orders.fit.kinds kind)
      have permits := orders.fit.permits_repetition orders.begun subscribed typeUrl rfl unasked
      rw [pollOf, List.map_cons, Reaction.finish_cons, Reaction.transcribe_cons]
      exact inductionHypothesis (orders.send unasked permits) polling restKnown

theorem poll (orders : progress.Orders transcript) (node : Node) :
    (progress.poll node).finish.Orders
      ((progress.poll node).transcribe (.ticked :: transcript)) := by
  obtain ⟨finish, ordered⟩ := orders.tick.polls rfl node _ fun _ member => member
  rw [poll_eq, finish]
  exact ordered

/-- The acknowledgement of a response. -/
theorem acknowledge (orders : progress.Orders transcript) {kind : ResourceKind}
    {response : Response}
    (subscribed : (progress.subscriptions.get kind).isSubscribed = true)
    (typeUrl : response.typeUrl = kind.typeUrl) {node : Node} {reply : Request} {acked : Progress}
    (acks : (progress.deliver kind response.resources).ack kind response node = (reply, acked)) :
    Transcript.purpose reply (.received response :: transcript) = .acceptance response ∧
      (acked.settle kind).Orders (.sent reply :: .received response :: transcript) := by
  obtain ⟨isReply, isAcked⟩ := ack_eq acks
  rw [subscriptions_deliver] at isReply isAcked
  have received := orders.receive response
  have replyTypeUrl : reply.typeUrl = kind.typeUrl := by
    rw [isReply]
    exact congrArg ResourceKind.typeUrl (orders.fit.kinds kind)
  have nonce : reply.nonce = response.nonce := by
    rw [isReply]
    rfl
  have names : reply.names = (progress.subscriptions.get kind).names.toList := by
    rw [isReply]
    rfl
  have error : reply.error = none := by
    rw [isReply]
    rfl
  have accepts :=
    Transcript.purpose_acceptance transcript (replyTypeUrl.trans typeUrl.symm) nonce error
  have unasked : Transcript.purpose reply (.received response :: transcript) ≠ .subscription := by
    rw [accepts]
    exact nofun
  have sent := received.send unasked
    (received.fit.permits_repetition received.begun subscribed replyTypeUrl names unasked)
  refine ⟨accepts, ?_, sent.begun, sent.inOrder⟩
  rw [subscriptions_settle, isAcked]
  exact sent.fit.ack subscribed response node

/-- What a response of a kind leads to is something that the client is invited to. -/
theorem invites_of_leads {kind next : ResourceKind} {response : Response} {reply : Request}
    {names : NameSet} (typeUrl : response.typeUrl = kind.typeUrl)
    (accepts : Transcript.purpose reply (.received response :: transcript) = .acceptance response)
    (leads : progress.Leads kind response.resources next names) :
    Transcript.Invites (.sent reply :: .received response :: transcript) next := by
  have accepted (property : Response → Prop) (holds : property response) :
      Transcript.HasAccepted (.sent reply :: .received response :: transcript) kind property :=
    ⟨reply, _, response, List.suffix_refl _, accepts, typeUrl, holds⟩
  cases leads with
  | endpoints isCluster needed new =>
      subst isCluster
      exact accepted _ needed
  | listeners isDone new =>
      rcases isDone with isEndpoint | ⟨isCluster, none⟩
      · subst isEndpoint
        exact .inl (accepted _ trivial)
      · subst isCluster
        refine .inr (accepted _ ?_)
        exact (Bool.not_eq_false _).mpr none
  | routes isListener needed new =>
      subst isListener
      exact accepted _ needed

/-- A request that asks for a kind which the response before leads to. -/
theorem subscribe (orders : progress.Orders transcript) {kind next : ResourceKind}
    {resources : List Mesh.Packed} {names : NameSet} {node : Node} {request : Request}
    {extended : Progress} (leads : progress.Leads kind resources next names)
    (invited : transcript.Invites next)
    (unanswered : ∀ other, transcript.purpose other = .subscription)
    (subscribes : progress.subscribe next names node = (request, extended)) :
    extended.Orders (.sent request :: transcript) := by
  obtain ⟨isRequest, isExtended⟩ := subscribe_eq subscribes
  have typeUrl : request.typeUrl = next.typeUrl := by
    rw [isRequest]
    exact congrArg ResourceKind.typeUrl (orders.fit.kinds next)
  have requestNames : request.names = names.toList := by
    rw [isRequest]
    rfl
  have isSubscribed :
      ((progress.subscriptions.get next).subscribe names node).2.isSubscribed = true := by
    simp only [Subscription.subscribe, Subscription.isSubscribed]
    split <;> simp_all
  have rootNames : next = .cluster ∨ next = .listener → names = .empty := by
    cases leads <;> simp
  have new : next = .listener → request.names = [] ∧
      progress.subscriptions.listener.isSubscribed = false := by
    intro isListener
    rw [requestNames, rootNames (.inr isListener)]
    cases leads with
    | listeners isDone new => exact ⟨rfl, new⟩
    | _ => cases isListener
  refine ⟨?_, ⟨request, List.mem_cons_self⟩, orders.inOrder.send ?_⟩
  · rw [isExtended]
    exact orders.fit.subscribe (orders.fit.kinds next) rootNames isSubscribed typeUrl
      (unanswered request) invited
  · exact orders.fit.permits_subscription (absurd orders.begun) typeUrl (unanswered request)
      invited new

/-- The reaction to a response of a subscribed kind. -/
theorem accept (orders : progress.Orders transcript) {kind : ResourceKind} {response : Response}
    (subscribed : (progress.subscriptions.get kind).isSubscribed = true)
    (typeUrl : response.typeUrl = kind.typeUrl) (node : Node) :
    (progress.accept kind response node).finish.Orders
      ((progress.accept kind response node).transcribe (.received response :: transcript)) := by
  obtain ⟨reply, acked, acks⟩ :
      ∃ reply acked, (progress.deliver kind response.resources).ack kind response node =
        (reply, acked) := ⟨_, _, rfl⟩
  obtain ⟨accepts, replied⟩ := orders.acknowledge subscribed typeUrl acks
  cases followed : (acked.settle kind).followUp? kind response.resources with
  | none =>
      rw [accept_eq_of_none acks followed]
      exact replied
  | some lead =>
      obtain ⟨next, names⟩ := lead
      obtain ⟨request, extended, subscribes⟩ :
          ∃ request extended, (acked.settle kind).subscribe next names node = (request, extended) :=
        ⟨_, _, rfl⟩
      rw [accept_eq_of_some acks followed subscribes]
      have leads := leads_of_followUp? followed
      have invited := invites_of_leads typeUrl accepts leads
      -- A request after the acknowledgement answers nothing, so it asks for something.
      exact replied.subscribe leads invited (fun _ => rfl) subscribes

theorem react (orders : progress.Orders transcript) (response : Response) (node : Node) :
    (progress.react response node).finish.Orders
      ((progress.react response node).transcribe (.received response :: transcript)) := by
  rw [Progress.react]
  split
  · exact orders.reject response _ node
  · next kind found =>
      split
      · next subscribed =>
          exact orders.accept subscribed (ResourceKind.typeUrl_of_ofTypeUrl? found) node
      · exact orders.reject response _ node

theorem isInvariant {node : Node} : Session.IsInvariant node Progress.Orders where
  greet progress := greet progress node
  react _ _ response orders := orders.react response node
  poll _ _ orders := orders.poll node

end Progress.Orders

theorem Client.isBetweenStreams_of_fail {client after : Client}
    (failed : client.move? .fail = some after) : after.isBetweenStreams = true := by
  cases Client.move?_eq_some_iff.mp failed
  rfl

namespace Session

/-- In every run, the requests of each stream come in order. A client that has lost its stream
starts again. -/
theorem run_inOrder (config : Config) (moves : List Move) (client : Client)
    (run : (Client.create config).run? moves = some client) :
    ∃ session, (create config).run? moves = some session ∧ session.client = client ∧
      session.Carries ∧ (∀ transcript ∈ session.transcripts, transcript.InOrder) ∧
      (client.isBetweenStreams = true → client.progress.subscriptions = .start) ∧
      ∀ after, client.move? .fail = some after → after.isBetweenStreams = true := by
  have recorded : ((create config).run? moves).map Session.client = some client := by
    rw [map_client_run?]
    exact run
  obtain ⟨session, sessionRun, rfl⟩ := Option.map_eq_some_iff.mp recorded
  refine ⟨session, sessionRun, rfl, Carries.run sessionRun, fun transcript member => ?_,
    ForgetsStreams.run sessionRun, fun after failed => Client.isBetweenStreams_of_fail failed⟩
  rcases (Agrees.run Progress.Orders.isInvariant sessionRun).parts transcript member with
    empty | ⟨progress, whole, isPart, orders⟩
  · rw [empty]
    exact Transcript.inOrder_nil
  · exact orders.inOrder.of_isSuffix isPart

/-- A client finds no clusters, asks for listeners, loses its stream and opens another one. -/
def reconnection : List Move :=
  [.start, .connect, .send, .answer (.ok ⟨"1", [], ResourceKind.cluster.typeUrl, "a"⟩), .receive,
    .send, .send, .finish, .fail, .pass 3000, .wake, .connect, .send]

theorem reconnection_inOrder :
    ∃ client, (Client.create {}).run? reconnection = some client ∧
      ∃ session, (create {}).run? reconnection = some session ∧ session.client = client ∧
        session.Carries ∧ (∀ transcript ∈ session.transcripts, transcript.InOrder) ∧
        (client.isBetweenStreams = true → client.progress.subscriptions = .start) ∧
        ∀ after, client.move? .fail = some after → after.isBetweenStreams = true :=
  ⟨_, rfl, run_inOrder {} reconnection _ rfl⟩

example : ((create {}).run? reconnection).map (fun session => session.transcripts.map List.length) =
    some [1, 4, 0] := rfl

end Session

end MeshAccess.Discovery
