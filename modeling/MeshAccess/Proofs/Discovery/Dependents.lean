import MeshAccess.Proofs.Discovery.DependentNames
import MeshAccess.Proofs.Discovery.Tracking

/-! This file says which names a client asks for. -/

namespace MeshAccess.Discovery

/-- The kind whose resources name those of a kind. Clusters and listeners are not named. -/
def ResourceKind.source? : ResourceKind → Option ResourceKind
  | .endpoint => some .cluster
  | .route => some .listener
  | _ => none

theorem ResourceKind.source?_injective {kind other source : ResourceKind}
    (named : kind.source? = some source) (alsoNamed : other.source? = some source) :
    other = kind := by
  cases kind <;> cases named <;> cases other <;> first | rfl | cases alsoNamed

/-- The names of a kind from the latest response of its source that names any. -/
def Transcript.wanted? (kind : ResourceKind) (transcript : Transcript) : Option NameSet :=
  kind.source?.bind fun source =>
    ((transcript.admitted source).map fun response =>
      source.dependentNames response.resources).find? fun names => !names.isEmpty

/-- A subscription is to the names that its source has named. -/
structure Subscription.Wants (subscription : Subscription) (kind : ResourceKind)
    (transcript : Transcript) : Prop where
  names : subscription.names = (transcript.wanted? kind).getD .empty
  subscribed : kind.source?.isSome = true →
    subscription.isSubscribed = (transcript.wanted? kind).isSome

/-- Every subscription of a client is to the names that its source has named. -/
def Subscriptions.Want (subscriptions : Subscriptions) (transcript : Transcript) : Prop :=
  ∀ kind, (subscriptions.get kind).Wants kind transcript

namespace Transcript

variable {kind source : ResourceKind} {transcript : Transcript} {response : Response}

theorem admitted_transcribe (reaction : Reaction) (kind : ResourceKind) (transcript : Transcript) :
    (reaction.transcribe transcript).admitted kind = transcript.admitted kind := by
  rw [Reaction.transcribe]
  induction reaction.requests generalizing transcript with
  | nil => rfl
  | cons request rest inductionHypothesis =>
      rw [List.foldl_cons, inductionHypothesis, admitted_sent]

theorem wanted?_congr {later : Transcript}
    (same : ∀ source, later.admitted source = transcript.admitted source) :
    later.wanted? kind = transcript.wanted? kind := by
  simp only [wanted?, same]

/-- A response that names something of a kind determines what is wanted. -/
theorem wanted?_of_named (named : kind.source? = some source)
    (admits : transcript.Admits source response)
    (needed : (source.dependentNames response.resources).isEmpty = false) :
    wanted? kind (.received response :: transcript) =
      some (source.dependentNames response.resources) := by
  simp [wanted?, named, admitted_of_admits admits, needed]

/-- Any other response changes nothing about what is wanted. -/
theorem wanted?_of_not_named
    (unnamed : ∀ source, kind.source? = some source → transcript.Admits source response →
      (source.dependentNames response.resources).isEmpty = true) :
    wanted? kind (.received response :: transcript) = wanted? kind transcript := by
  rw [wanted?, wanted?]
  cases named : kind.source? with
  | none => rfl
  | some source =>
      by_cases admits : transcript.Admits source response
      · simp [admitted_of_admits admits, unnamed source named admits]
      · rw [Option.bind_some, Option.bind_some, admitted_of_not_admits admits]

/-- A response that names nothing of a kind changes nothing about what is wanted. -/
theorem wanted?_of_unneeded {other : ResourceKind} (typeUrl : response.typeUrl = kind.typeUrl)
    (unneeded : other.source? = some kind →
      (kind.dependentNames response.resources).isEmpty = true) :
    wanted? other (.received response :: transcript) = wanted? other transcript := by
  refine wanted?_of_not_named fun source named admits => ?_
  have same : source = kind := ResourceKind.typeUrl_injective (admits.1.symm.trans typeUrl)
  rw [same] at named ⊢
  exact unneeded named

end Transcript

/-- Two subscriptions are to the same names of the same kind, if they are to anything. -/
structure Subscription.IsLike (first second : Subscription) : Prop where
  kind_eq : first.kind = second.kind
  names : first.names = second.names
  subscribed : first.isSubscribed = second.isSubscribed

def Subscriptions.Alike (first second : Subscriptions) : Prop :=
  ∀ kind, (first.get kind).IsLike (second.get kind)

namespace Progress

variable {progress : Progress} {kind next : ResourceKind} {response : Response} {names : NameSet}
  {transcript : Transcript}

theorem covers_iff : progress.covers kind names = true ↔
    (progress.subscriptions.get kind).isSubscribed = true ∧
      (progress.subscriptions.get kind).names = names := by
  simp [covers]

theorem covers_eq_false_iff : progress.covers kind names = false ↔
    (progress.subscriptions.get kind).isSubscribed = false ∨
      (progress.subscriptions.get kind).names ≠ names := by
  rw [← Bool.not_eq_true, covers_iff, not_and_or, Bool.not_eq_true]

theorem covers_congr {other : Progress} (alike : other.subscriptions.Alike progress.subscriptions)
    (kind : ResourceKind) (names : NameSet) : other.covers kind names = progress.covers kind names := by
  rw [Bool.eq_iff_iff, covers_iff, covers_iff, (alike kind).names, (alike kind).subscribed]

theorem followUp?_alike {other : Progress} (alike : other.subscriptions.Alike progress.subscriptions)
    (kind : ResourceKind) (resources : List Mesh.Packed) :
    other.followUp? kind resources = progress.followUp? kind resources := by
  have listeners : other.subscriptions.listener.isSubscribed =
      progress.subscriptions.listener.isSubscribed := (alike .listener).subscribed
  cases kind <;> simp only [followUp?, covers_congr alike, listeners]

/-- A client that asks for nothing more has all names that a response makes necessary. -/
theorem covers_of_followUp?_eq_none {resources : List Mesh.Packed}
    (named : next.source? = some kind)
    (needed : (kind.dependentNames resources).isEmpty = false)
    (done : progress.followUp? kind resources = none) :
    progress.covers next (kind.dependentNames resources) = true := by
  cases next <;> cases named <;> simpa [followUp?, needed] using done

/-- A client goes on with what a response names, or else with the listeners. -/
theorem named_or_listeners_of_leads {resources : List Mesh.Packed}
    (leads : progress.Leads kind resources next names) :
    next.source? = some kind ∧ names = kind.dependentNames resources ∧ names.isEmpty = false ∧
        progress.covers next names = false ∨
      next = .listener ∧ names = .empty ∧
        ∀ other : ResourceKind, other.source? = some kind →
          (kind.dependentNames resources).isEmpty = true := by
  cases leads with
  | endpoints isCluster needed new =>
      subst isCluster
      exact .inl ⟨rfl, rfl, needed, new⟩
  | routes isListener needed new =>
      subst isListener
      exact .inl ⟨rfl, rfl, needed, new⟩
  | listeners isDone new =>
      refine .inr ⟨rfl, rfl, fun other named => ?_⟩
      rcases isDone with isEndpoint | ⟨isCluster, none⟩
      · subst isEndpoint
        cases other <;> cases named
      · exact none

/-- The acknowledgement of a response changes no names. What comes after it depends on the names
before the response. -/
theorem accept_follows (expects : progress.Expects kind response) (node : Node) :
    ∃ acked reply replied, replied.subscriptions.Alike progress.subscriptions ∧
      reply = ((progress.subscriptions.get kind).ack response node).1 ∧
      (progress.followUp? kind response.resources = none ∧
          progress.accept kind response node = ⟨acked, [(reply, replied)]⟩ ∨
        ∃ next names request extended,
          progress.followUp? kind response.resources = some (next, names) ∧
          replied.subscribe next names node = (request, extended) ∧
          progress.accept kind response node =
            ⟨acked, [(reply, extended), (request, extended)]⟩) := by
  obtain ⟨reply, acked, acks, replies⟩ := accept_cases progress kind response node
  obtain ⟨isReply, isAcked⟩ := ack_eq acks
  rw [subscriptions_deliver] at isReply isAcked
  have alike : (acked.settle kind).subscriptions.Alike progress.subscriptions := by
    intro other
    rw [subscriptions_settle, isAcked]
    by_cases isKind : other = kind
    · rw [isKind, Subscriptions.get_set_self]
      exact ⟨rfl, rfl, (Subscription.isSubscribed_ack _ response node).trans expects.2.symm⟩
    · rw [Subscriptions.get_set_of_ne _ _ isKind]
      exact ⟨rfl, rfl, rfl⟩
  rw [followUp?_alike alike] at replies
  exact ⟨acked, reply, acked.settle kind, alike, isReply, replies⟩

theorem want_of_alike (want : progress.subscriptions.Want transcript) {other : Progress}
    {later : Transcript} (alike : other.subscriptions.Alike progress.subscriptions)
    {kind : ResourceKind} (same : later.wanted? kind = transcript.wanted? kind) :
    (other.subscriptions.get kind).Wants kind later where
  names := by rw [(alike kind).names, (want kind).names, same]
  subscribed isNamed := by rw [(alike kind).subscribed, (want kind).subscribed isNamed, same]

/-- A subscription to all names that a response makes necessary. -/
theorem wants_of_named {subscription : Subscription} (named : kind.source? = some next)
    (admits : transcript.Admits next response)
    (needed : (next.dependentNames response.resources).isEmpty = false)
    (names : subscription.names = next.dependentNames response.resources)
    (subscribed : subscription.isSubscribed = true) :
    subscription.Wants kind (.received response :: transcript) where
  names := by
    rw [Transcript.wanted?_of_named named admits needed, names]
    rfl
  subscribed _ := by
    rw [Transcript.wanted?_of_named named admits needed, subscribed]
    rfl

/-- A response that names nothing of a kind leaves the subscription to this kind right. -/
theorem wants_of_unneeded (want : progress.subscriptions.Want transcript) {replied : Progress}
    (alike : replied.subscriptions.Alike progress.subscriptions)
    (typeUrl : response.typeUrl = kind.typeUrl)
    (unneeded : next.source? = some kind →
      (kind.dependentNames response.resources).isEmpty = true) :
    (replied.subscriptions.get next).Wants next (.received response :: transcript) :=
  want_of_alike want alike (Transcript.wanted?_of_unneeded typeUrl unneeded)

/-- A client that asks for nothing more has what it wants. -/
theorem want_of_done (want : progress.subscriptions.Want transcript)
    (admits : transcript.Admits kind response) {replied : Progress}
    (alike : replied.subscriptions.Alike progress.subscriptions)
    (done : progress.followUp? kind response.resources = none) :
    replied.subscriptions.Want (.received response :: transcript) := by
  intro next
  by_cases fresh : next.source? = some kind ∧
      (kind.dependentNames response.resources).isEmpty = false
  · obtain ⟨named, needed⟩ := fresh
    have covered := covers_iff.mp (covers_of_followUp?_eq_none named needed done)
    refine wants_of_named named admits needed ?_ ?_
    · rw [(alike next).names, covered.2]
    · rw [(alike next).subscribed, covered.1]
  · refine wants_of_unneeded want alike admits.1 fun named => ?_
    exact Bool.of_not_eq_false fun needed => fresh ⟨named, needed⟩

/-- A client that asks for something more has what it wants afterwards. -/
theorem want_of_followUp (want : progress.subscriptions.Want transcript)
    (admits : transcript.Admits kind response) {replied : Progress}
    (alike : replied.subscriptions.Alike progress.subscriptions)
    (followed : progress.followUp? kind response.resources = some (next, names)) (node : Node) :
    (replied.subscriptions.set next
      ((replied.subscriptions.get next).subscribe names node).2).Want
        (.received response :: transcript) := by
  intro other
  by_cases isNext : other = next
  · subst isNext
    rw [Subscriptions.get_set_self]
    rcases named_or_listeners_of_leads (leads_of_followUp? followed) with
      ⟨named, rfl, needed, _⟩ | ⟨rfl, rfl, _⟩
    · exact wants_of_named named admits needed rfl (Subscription.isSubscribed_subscribe _ _ node)
    · exact ⟨rfl, fun isNamed => absurd isNamed Bool.false_ne_true⟩
  · rw [Subscriptions.get_set_of_ne _ _ isNext]
    refine wants_of_unneeded want alike admits.1 fun named => ?_
    rcases named_or_listeners_of_leads (leads_of_followUp? followed) with
      ⟨alsoNamed, _⟩ | ⟨_, _, none⟩
    · exact absurd (ResourceKind.source?_injective alsoNamed named) isNext
    · exact none other named

theorem want_accept (want : progress.subscriptions.Want transcript)
    (track : progress.subscriptions.Track transcript) (expects : progress.Expects kind response)
    (node : Node) :
    (progress.accept kind response node).finish.subscriptions.Want
      (.received response :: transcript) := by
  have admits := track.expects_iff.mp expects
  obtain ⟨acked, reply, replied, alike, _, ⟨done, accepts⟩ |
    ⟨next, names, request, extended, followed, subscribes, accepts⟩⟩ :=
      accept_follows expects node
  · rw [accepts]
    exact want_of_done want admits alike done
  · rw [accepts]
    show extended.subscriptions.Want _
    rw [(subscribe_eq subscribes).2]
    exact want_of_followUp want admits alike followed node

theorem want_react (want : progress.subscriptions.Want transcript)
    (track : progress.subscriptions.Track transcript) (response : Response) (node : Node) :
    (progress.react response node).finish.subscriptions.Want (.received response :: transcript) := by
  by_cases expected : ∃ kind, progress.Expects kind response
  · obtain ⟨kind, expects⟩ := expected
    rw [react_of_expects expects]
    exact want_accept want track expects node
  · have refuses := not_exists.mp expected
    obtain ⟨message, rejects⟩ := react_of_not_expects refuses node
    rw [rejects]
    refine fun kind => want_of_alike want (fun _ => ⟨rfl, rfl, rfl⟩) ?_
    exact Transcript.wanted?_of_not_named fun source _ admits =>
      absurd (track.expects_iff.mpr admits) (refuses source)

/-- Once all inputs are handled, every subscription is to the names that its source has named. -/
theorem want_converse (node : Node) (inputs : List Input) :
    (converse node inputs).1.subscriptions.Want (converse node inputs).2 := by
  induction inputs with
  | nil =>
      intro kind
      cases kind with
      | endpoint => exact ⟨rfl, fun _ => rfl⟩
      | route => exact ⟨rfl, fun _ => rfl⟩
      | _ => exact ⟨rfl, nofun⟩
  | cons input earlier want =>
      -- Between an acknowledgement and the request after it, the names are behind. So the induction goes
      -- over whole reactions and not over single requests.
      have track := (Writes.converse node earlier).track
      rw [converse_cons]
      intro kind
      have same : Transcript.wanted? kind _ = Transcript.wanted? kind _ :=
        Transcript.wanted?_congr fun source =>
          Transcript.admitted_transcribe ((converse node earlier).1.respond node input) source
            (input.occurrence :: (converse node earlier).2)
      cases input with
      | answer response =>
          exact want_of_alike (want_react want track response node) (fun _ => ⟨rfl, rfl, rfl⟩) same
      | tick =>
          have unchanged : ((converse node earlier).1.respond node .tick).finish =
              (converse node earlier).1 := finish_pollOf _ node _
          rw [unchanged]
          exact want_of_alike want (fun _ => ⟨rfl, rfl, rfl⟩) same

/-- After an acknowledgement, a client asks for a kind exactly if this is its next one. -/
theorem asks_iff_followUp? (track : progress.subscriptions.Track transcript)
    (expects : progress.Expects kind response) (node : Node) :
    (∃ request ∈ (progress.accept kind response node).requests.tail,
        request.typeUrl = next.typeUrl) ↔
      ∃ names, progress.followUp? kind response.resources = some (next, names) := by
  obtain ⟨acked, reply, replied, alike, _, ⟨done, accepts⟩ |
    ⟨other, names, request, extended, followed, subscribes, accepts⟩⟩ :=
      accept_follows expects node
  · rw [accepts, done]
    refine iff_of_false ?_ ?_
    · rintro ⟨request, member, _⟩
      cases member
    · rintro ⟨names, ⟨⟩⟩
  · have typeUrl : request.typeUrl = other.typeUrl := by
      rw [(subscribe_eq subscribes).1]
      exact congrArg ResourceKind.typeUrl ((alike other).kind_eq.trans (track other).kind_eq)
    rw [accepts, followed]
    constructor
    · rintro ⟨asked, member, sameUrl⟩
      rw [List.mem_singleton.mp member, typeUrl] at sameUrl
      exact ⟨names, by rw [ResourceKind.typeUrl_injective sameUrl]⟩
    · rintro ⟨names, ⟨⟩⟩
      exact ⟨request, List.mem_singleton_self request, typeUrl⟩

/-- A client goes on with named resources exactly if a response of their source names some that it does
not have already. -/
theorem followUp?_iff_of_source? {source : ResourceKind} {resources : List Mesh.Packed}
    (named : next.source? = some source) :
    (∃ names, progress.followUp? kind resources = some (next, names)) ↔
      kind = source ∧ (source.dependentNames resources).isEmpty = false ∧
        progress.covers next (source.dependentNames resources) = false := by
  constructor
  · rintro ⟨names, followed⟩
    rcases named_or_listeners_of_leads (leads_of_followUp? followed) with
      ⟨alsoNamed, rfl, needed, new⟩ | ⟨rfl, _⟩
    · cases Option.some.inj (named.symm.trans alsoNamed)
      exact ⟨rfl, needed, new⟩
    · cases named
  · rintro ⟨rfl, needed, new⟩
    -- Listeners come next only when nothing is named, so what comes next is the named kind.
    cases followed : progress.followUp? kind resources with
    | none =>
        rw [covers_of_followUp?_eq_none named needed followed] at new
        cases new
    | some lead =>
        obtain ⟨other, names⟩ := lead
        rcases named_or_listeners_of_leads (leads_of_followUp? followed) with
          ⟨alsoNamed, _⟩ | ⟨_, _, none⟩
        · exact ⟨names, by rw [ResourceKind.source?_injective named alsoNamed]⟩
        · rw [none next named] at needed
          cases needed

/-- A response leads to a request for named resources if and only if it is expected, names some, and
the client does not have exactly these names already. -/
theorem asks_iff (track : progress.subscriptions.Track transcript) {source : ResourceKind}
    (named : next.source? = some source) (node : Node) :
    (∃ request ∈ (progress.react response node).requests.tail, request.typeUrl = next.typeUrl) ↔
      progress.Expects source response ∧
        (source.dependentNames response.resources).isEmpty = false ∧
        progress.covers next (source.dependentNames response.resources) = false := by
  by_cases expected : ∃ kind, progress.Expects kind response
  · obtain ⟨kind, expects⟩ := expected
    rw [react_of_expects expects, asks_iff_followUp? track expects, followUp?_iff_of_source? named]
    refine and_congr_left fun _ => ⟨fun same => same ▸ expects, fun alsoExpects => ?_⟩
    exact expects.kind_eq alsoExpects.1
  · obtain ⟨message, rejects⟩ := react_of_not_expects (not_exists.mp expected) node
    rw [rejects]
    refine iff_of_false ?_ fun ⟨expects, _⟩ => expected ⟨source, expects⟩
    rintro ⟨request, member, _⟩
    cases member

end Progress

end MeshAccess.Discovery
