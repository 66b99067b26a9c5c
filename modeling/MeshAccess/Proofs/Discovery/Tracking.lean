import MeshAccess.Proofs.Discovery.Admission
import MeshAccess.Proofs.Discovery.Dialogue

/-! This file says what the subscriptions of a client remember about its stream. -/

namespace MeshAccess.Discovery

namespace Progress

/-- The steps in which a client writes its transcript. A response and its answer are one step. So is
the request for what an acknowledged response makes necessary. -/
inductive Writes (node : Node) : Progress → Transcript → Prop where
  | greet : Writes node (start.greet node).finish ((start.greet node).transcribe [])
  | reject {progress : Progress} {transcript : Transcript} {response : Response} (message : String)
      (writes : Writes node progress transcript)
      (refuses : ∀ kind, ¬progress.Expects kind response) :
      Writes node progress
        (.sent (response.reject message node) :: .received response :: transcript)
  | acknowledge {progress acked : Progress} {transcript : Transcript} {kind : ResourceKind}
      {response : Response} {reply : Request} (writes : Writes node progress transcript)
      (expects : progress.Expects kind response)
      (acks : (progress.deliver kind response.resources).ack kind response node =
        (reply, acked)) :
      Writes node (acked.settle kind) (.sent reply :: .received response :: transcript)
  | subscribe {progress extended : Progress} {transcript : Transcript} {kind next : ResourceKind}
      {response : Response} {reply request : Request} {names : NameSet}
      (writes : Writes node progress (.sent reply :: .received response :: transcript))
      (leads : progress.Leads kind response.resources next names)
      (subscribes : progress.subscribe next names node = (request, extended)) :
      Writes node extended (.sent request :: .sent reply :: .received response :: transcript)
  | tick {progress : Progress} {transcript : Transcript} (writes : Writes node progress transcript) :
      Writes node progress (.ticked :: transcript)
  | poll {progress : Progress} {transcript : Transcript} (kind : ResourceKind)
      (writes : Writes node progress transcript) (polling : transcript.isPolling = true)
      (subscribed : (progress.subscriptions.get kind).isSubscribed = true) :
      Writes node progress (.sent ((progress.subscriptions.get kind).poll node) :: transcript)

namespace Writes

variable {node : Node} {progress : Progress} {transcript : Transcript}

theorem react (writes : Writes node progress transcript) (response : Response) :
    Writes node (progress.react response node).finish
      ((progress.react response node).transcribe (.received response :: transcript)) := by
  by_cases expected : ∃ kind, progress.Expects kind response
  · obtain ⟨kind, expects⟩ := expected
    rw [react_of_expects expects]
    obtain ⟨reply, acked, acks, ⟨_, accepts⟩ |
      ⟨next, names, request, extended, followed, subscribes, accepts⟩⟩ :=
        accept_cases progress kind response node
    · rw [accepts]
      exact writes.acknowledge expects acks
    · rw [accepts]
      exact (writes.acknowledge expects acks).subscribe (leads_of_followUp? followed) subscribes
  · have refuses := not_exists.mp expected
    obtain ⟨message, rejects⟩ := react_of_not_expects refuses node
    rw [rejects]
    exact writes.reject message refuses

theorem pollOf (writes : Writes node progress transcript) (polling : transcript.isPolling = true)
    (subscriptions : List Subscription)
    (known : ∀ subscription ∈ subscriptions, subscription ∈ progress.subscriptions.subscribed) :
    Writes node progress ((progress.pollOf node subscriptions).transcribe transcript) := by
  induction subscriptions generalizing transcript with
  | nil => exact writes
  | cons subscription rest inductionHypothesis =>
      have ⟨isKnown, restKnown⟩ := List.forall_mem_cons.mp known
      obtain ⟨member, subscribed⟩ := List.mem_filter.mp isKnown
      obtain ⟨kind, _, rfl⟩ := List.mem_map.mp member
      rw [Progress.pollOf, List.map_cons, Reaction.transcribe_cons]
      exact inductionHypothesis (writes.poll kind polling subscribed) polling restKnown

theorem converse (node : Node) (inputs : List Input) :
    Writes node (converse node inputs).1 (converse node inputs).2 := by
  induction inputs with
  | nil => exact .greet
  | cons input earlier inductionHypothesis =>
      rw [converse_cons]
      cases input with
      | answer response => exact inductionHypothesis.react response
      | tick =>
          have polled := inductionHypothesis.tick.pollOf rfl _ fun _ member => member
          show Writes node (Progress.poll _ node).finish ((Progress.poll _ node).transcribe _)
          rw [poll_eq, finish_pollOf]
          exact polled

end Writes

end Progress

/-- What the subscription to a kind remembers about the transcript of its stream. -/
structure Subscription.Tracks (subscription : Subscription) (kind : ResourceKind)
    (transcript : Transcript) : Prop where
  kind_eq : subscription.kind = kind
  subscribed : subscription.isSubscribed = transcript.asks kind
  version : subscription.version = transcript.latestVersion kind
  nonce : subscription.nonce = transcript.latestNonce kind

theorem Subscription.Tracks.of_alike {subscription : Subscription} {kind : ResourceKind}
    {transcript later : Transcript} (tracks : subscription.Tracks kind transcript)
    (asks : later.asks kind = transcript.asks kind)
    (admitted : later.admitted kind = transcript.admitted kind) :
    subscription.Tracks kind later where
  kind_eq := tracks.kind_eq
  subscribed := by rw [asks, tracks.subscribed]
  version := by rw [tracks.version, Transcript.latestVersion, Transcript.latestVersion, admitted]
  nonce := by rw [tracks.nonce, Transcript.latestNonce, Transcript.latestNonce, admitted]

/-- Every subscription of a client remembers the transcript. -/
def Subscriptions.Track (subscriptions : Subscriptions) (transcript : Transcript) : Prop :=
  ∀ kind, (subscriptions.get kind).Tracks kind transcript

namespace Subscriptions.Track

variable {subscriptions : Subscriptions} {transcript later : Transcript} {kind : ResourceKind}

/-- Only one subscription changes, and it remembers the new transcript. -/
theorem set (track : subscriptions.Track transcript) {subscription : Subscription}
    (tracks : subscription.Tracks kind later)
    (others : ∀ other, other ≠ kind → later.asks other = transcript.asks other ∧
      later.admitted other = transcript.admitted other) :
    (subscriptions.set kind subscription).Track later := by
  intro other
  by_cases isKind : other = kind
  · rw [isKind, Subscriptions.get_set_self]
    exact tracks
  · rw [Subscriptions.get_set_of_ne _ _ isKind]
    exact (track other).of_alike (others other isKind).1 (others other isKind).2

/-- A client expects exactly the responses that count. -/
theorem expects_iff {progress : Progress} (track : progress.subscriptions.Track transcript)
    {response : Response} : progress.Expects kind response ↔ transcript.Admits kind response := by
  rw [Progress.Expects, Transcript.Admits, (track kind).subscribed]

theorem reject (track : subscriptions.Track transcript) {response : Response}
    (refuses : ∀ kind, ¬transcript.Admits kind response) (message : String) (node : Node) :
    subscriptions.Track
      (.sent (response.reject message node) :: .received response :: transcript) := by
  intro kind
  refine (track kind).of_alike ?_ ?_
  · rw [Transcript.asks_reject, Transcript.asks_received]
  · rw [Transcript.admitted_sent, Transcript.admitted_of_not_admits (refuses kind)]

/-- The acknowledgement of a response answers it. -/
theorem purpose_ack (track : subscriptions.Track transcript) {response : Response}
    (typeUrl : response.typeUrl = kind.typeUrl) (node : Node) :
    Transcript.purpose ((subscriptions.get kind).ack response node).1
      (.received response :: transcript) = .acceptance response := by
  have sameUrl : ((subscriptions.get kind).ack response node).1.typeUrl = response.typeUrl :=
    (congrArg ResourceKind.typeUrl (track kind).kind_eq).trans typeUrl.symm
  exact Transcript.purpose_acceptance transcript sameUrl rfl rfl

theorem acknowledge (track : subscriptions.Track transcript) {response : Response}
    (admits : transcript.Admits kind response) (node : Node) :
    (subscriptions.set kind ((subscriptions.get kind).ack response node).2).Track
      (.sent ((subscriptions.get kind).ack response node).1 :: .received response :: transcript) := by
  have typeUrl : ((subscriptions.get kind).ack response node).1.typeUrl = kind.typeUrl :=
    congrArg ResourceKind.typeUrl (track kind).kind_eq
  have counted := Transcript.admitted_of_admits admits
  refine track.set ⟨(track kind).kind_eq, ?_, ?_, ?_⟩ fun other different => ⟨?_, ?_⟩
  · rw [Transcript.asks_sent_self typeUrl rfl, Subscription.isSubscribed_ack]
  · rw [Transcript.latestVersion, Transcript.admitted_sent, counted]
    rfl
  · rw [Transcript.latestNonce, Transcript.admitted_sent, counted]
    rfl
  · rw [Transcript.asks_sent_of_ne typeUrl different, Transcript.asks_received]
  · rw [Transcript.admitted_sent,
      Transcript.admitted_of_not_admits (Transcript.not_admits_of_ne admits.1 different)]

theorem subscribe (track : subscriptions.Track transcript) (kind : ResourceKind) (names : NameSet)
    (node : Node) :
    (subscriptions.set kind ((subscriptions.get kind).subscribe names node).2).Track
      (.sent ((subscriptions.get kind).subscribe names node).1 :: transcript) := by
  have typeUrl : ((subscriptions.get kind).subscribe names node).1.typeUrl = kind.typeUrl :=
    congrArg ResourceKind.typeUrl (track kind).kind_eq
  refine track.set ⟨(track kind).kind_eq, ?_, (track kind).version, (track kind).nonce⟩
    fun other different => ⟨Transcript.asks_sent_of_ne typeUrl different, rfl⟩
  rw [Transcript.asks_sent_self typeUrl rfl, Subscription.isSubscribed_subscribe]

theorem poll (track : subscriptions.Track transcript)
    (subscribed : (subscriptions.get kind).isSubscribed = true) (node : Node) :
    subscriptions.Track (.sent ((subscriptions.get kind).poll node) :: transcript) := by
  have typeUrl : ((subscriptions.get kind).poll node).typeUrl = kind.typeUrl :=
    congrArg ResourceKind.typeUrl (track kind).kind_eq
  have asked : transcript.asks kind = true := (track kind).subscribed.symm.trans subscribed
  intro other
  refine (track other).of_alike ?_ rfl
  by_cases isKind : other = kind
  · rw [isKind, asked, Transcript.asks_sent_of_asks asked]
  · exact Transcript.asks_sent_of_ne typeUrl isKind

end Subscriptions.Track

theorem Progress.Writes.track {node : Node} {progress : Progress} {transcript : Transcript}
    (writes : Writes node progress transcript) : progress.subscriptions.Track transcript := by
  -- Every step writes about one kind, and the subscriptions to the other kinds stay.
  induction writes with
  | greet => exact fun kind => by cases kind <;> exact ⟨rfl, rfl, rfl, rfl⟩
  | reject message writes refuses track =>
      exact track.reject (fun kind admits => refuses kind (track.expects_iff.mpr admits)) message node
  | acknowledge writes expects acks track =>
      obtain ⟨isReply, isAcked⟩ := ack_eq acks
      rw [subscriptions_deliver] at isReply isAcked
      rw [subscriptions_settle, isReply, isAcked]
      exact track.acknowledge (track.expects_iff.mp expects) node
  | subscribe writes leads subscribes track =>
      obtain ⟨isRequest, isExtended⟩ := subscribe_eq subscribes
      rw [isRequest, isExtended]
      exact track.subscribe _ _ node
  | tick writes track => exact fun kind => (track kind).of_alike rfl rfl
  | poll kind writes polling subscribed track => exact track.poll subscribed node

/-- A client that waits remembers its stream. -/
theorem Progress.Concludes.track {node : Node} {progress : Progress} {transcript : Transcript}
    (concludes : Concludes node progress transcript) : progress.subscriptions.Track transcript := by
  have track := (Writes.converse node transcript.inputs).track
  rwa [concludes.subscriptions, concludes.transcript] at track

end MeshAccess.Discovery
