import MeshAccess.Discovery.Reaction
import Mathlib.Logic.Function.Basic

/-! This file says what the reactions of a client consist of. -/

namespace MeshAccess.Discovery

theorem ResourceKind.typeUrl_injective : Function.Injective ResourceKind.typeUrl := by
  intro first second same
  cases first <;> cases second <;> first | rfl | exact absurd same (by decide)

theorem ResourceKind.typeUrl_of_ofTypeUrl? {typeUrl : String} {kind : ResourceKind}
    (found : ResourceKind.ofTypeUrl? typeUrl = some kind) : typeUrl = kind.typeUrl := by
  rw [ResourceKind.ofTypeUrl?] at found
  have same := List.find?_some found
  exact (of_decide_eq_true same).symm

@[simp] theorem ResourceKind.ofTypeUrl?_typeUrl (kind : ResourceKind) :
    ResourceKind.ofTypeUrl? kind.typeUrl = some kind := by
  cases kind <;> rfl

namespace Subscription

theorem isSubscribed_ack (subscription : Subscription) (response : Response) (node : Node) :
    (subscription.ack response node).2.isSubscribed = true := by
  have accepted (phase : Phase) : phase.accept ≠ .unsubscribed := by cases phase <;> nofun
  exact decide_eq_true (accepted _)

theorem isSubscribed_subscribe (subscription : Subscription) (names : NameSet) (node : Node) :
    (subscription.subscribe names node).2.isSubscribed = true := by
  simp only [subscribe, isSubscribed]
  split <;> simp_all

end Subscription

namespace Progress

/-- When a response of a kind leads to a subscription, and to which one. -/
inductive Leads (progress : Progress) (kind : ResourceKind) (resources : List Mesh.Packed) :
    ResourceKind → NameSet → Prop where
  | endpoints (isCluster : kind = .cluster)
      (needed : (kind.dependentNames resources).isEmpty = false)
      (new : progress.covers .endpoint (kind.dependentNames resources) = false) :
      Leads progress kind resources .endpoint (kind.dependentNames resources)
  | listeners (isDone : kind = .endpoint ∨
        kind = .cluster ∧ (kind.dependentNames resources).isEmpty = true)
      (new : progress.subscriptions.listener.isSubscribed = false) :
      Leads progress kind resources .listener .empty
  | routes (isListener : kind = .listener)
      (needed : (kind.dependentNames resources).isEmpty = false)
      (new : progress.covers .route (kind.dependentNames resources) = false) :
      Leads progress kind resources .route (kind.dependentNames resources)

theorem leads_of_followUp? {progress : Progress} {kind next : ResourceKind}
    {resources : List Mesh.Packed} {names : NameSet}
    (found : progress.followUp? kind resources = some (next, names)) :
    progress.Leads kind resources next names := by
  cases kind with
  | cluster =>
      simp only [followUp?] at found
      split at found
      · next none =>
          simp only [Option.ite_none_left_eq_some, Bool.not_eq_true, Option.some.injEq] at found
          obtain ⟨new, same⟩ := found
          cases same
          exact .listeners (.inr ⟨rfl, none⟩) new
      · next needed =>
          simp only [Option.ite_none_left_eq_some, Bool.not_eq_true, Option.some.injEq] at found
          obtain ⟨new, same⟩ := found
          cases same
          exact .endpoints rfl (eq_false_of_ne_true needed) new
  | endpoint =>
      simp only [followUp?, Option.ite_none_left_eq_some, Bool.not_eq_true,
        Option.some.injEq] at found
      obtain ⟨new, same⟩ := found
      cases same
      exact .listeners (.inl rfl) new
  | listener =>
      simp only [followUp?, Option.ite_none_left_eq_some, Bool.not_eq_true,
        Option.some.injEq] at found
      obtain ⟨needed, new, same⟩ := found
      cases same
      exact .routes rfl needed new
  | route => cases found

@[simp] theorem subscriptions_deliver (progress : Progress) (kind : ResourceKind)
    (resources : List Mesh.Packed) :
    (progress.deliver kind resources).subscriptions = progress.subscriptions := by
  rw [deliver]
  split <;> rfl

@[simp] theorem subscriptions_settle (progress : Progress) (kind : ResourceKind) :
    (progress.settle kind).subscriptions = progress.subscriptions := by
  rw [settle]
  split <;> rfl

/-- The reaction that polls some subscriptions. -/
def pollOf (progress : Progress) (node : Node) (subscriptions : List Subscription) : Reaction :=
  ⟨progress, subscriptions.map fun subscription => (subscription.poll node, progress)⟩

theorem poll_eq (progress : Progress) (node : Node) :
    progress.poll node = progress.pollOf node progress.subscriptions.subscribed := rfl

theorem ack_eq {progress acked : Progress} {kind : ResourceKind} {response : Response}
    {node : Node} {reply : Request} (acks : progress.ack kind response node = (reply, acked)) :
    reply = ((progress.subscriptions.get kind).ack response node).1 ∧
      acked.subscriptions = progress.subscriptions.set kind
        ((progress.subscriptions.get kind).ack response node).2 := by
  cases acks
  exact ⟨rfl, rfl⟩

theorem subscribe_eq {progress subscribed : Progress} {kind : ResourceKind} {names : NameSet}
    {node : Node} {request : Request}
    (subscribes : progress.subscribe kind names node = (request, subscribed)) :
    request = ((progress.subscriptions.get kind).subscribe names node).1 ∧
      subscribed.subscriptions = progress.subscriptions.set kind
        ((progress.subscriptions.get kind).subscribe names node).2 := by
  cases subscribes
  exact ⟨rfl, rfl⟩

/-- A response is acknowledged before anything else is asked for. -/
theorem accept_eq_of_none {progress acked : Progress} {kind : ResourceKind} {response : Response}
    {node : Node} {reply : Request}
    (acks : (progress.deliver kind response.resources).ack kind response node = (reply, acked))
    (done : (acked.settle kind).followUp? kind response.resources = none) :
    progress.accept kind response node = ⟨acked, [(reply, acked.settle kind)]⟩ := by
  simp only [accept, acks, done]

theorem accept_eq_of_some {progress acked subscribed : Progress} {kind next : ResourceKind}
    {response : Response} {node : Node} {reply request : Request} {names : NameSet}
    (acks : (progress.deliver kind response.resources).ack kind response node = (reply, acked))
    (leads : (acked.settle kind).followUp? kind response.resources = some (next, names))
    (subscribes : (acked.settle kind).subscribe next names node = (request, subscribed)) :
    progress.accept kind response node =
      ⟨acked, [(reply, subscribed), (request, subscribed)]⟩ := by
  simp only [accept, acks, leads, subscribes]

/-- What accepting a response consists of. -/
theorem accept_cases (progress : Progress) (kind : ResourceKind) (response : Response)
    (node : Node) :
    ∃ reply acked, (progress.deliver kind response.resources).ack kind response node =
        (reply, acked) ∧
      ((acked.settle kind).followUp? kind response.resources = none ∧
          progress.accept kind response node = ⟨acked, [(reply, acked.settle kind)]⟩ ∨
        ∃ next names request extended,
          (acked.settle kind).followUp? kind response.resources = some (next, names) ∧
          (acked.settle kind).subscribe next names node = (request, extended) ∧
          progress.accept kind response node =
            ⟨acked, [(reply, extended), (request, extended)]⟩) := by
  refine ⟨_, _, rfl, ?_⟩
  cases followed : (Progress.settle _ kind).followUp? kind response.resources with
  | none => exact .inl ⟨rfl, accept_eq_of_none rfl followed⟩
  | some lead =>
      obtain ⟨next, names⟩ := lead
      exact .inr ⟨next, names, _, _, rfl, rfl, accept_eq_of_some rfl followed rfl⟩

/-- A response is of a kind that is subscribed. -/
def Expects (progress : Progress) (kind : ResourceKind) (response : Response) : Prop :=
  response.typeUrl = kind.typeUrl ∧ (progress.subscriptions.get kind).isSubscribed = true

theorem Expects.kind_eq {progress : Progress} {kind other : ResourceKind} {response : Response}
    (expects : progress.Expects kind response) (typeUrl : response.typeUrl = other.typeUrl) :
    kind = other :=
  ResourceKind.typeUrl_injective (expects.1.symm.trans typeUrl)

theorem react_of_expects {progress : Progress} {kind : ResourceKind} {response : Response}
    (expects : progress.Expects kind response) (node : Node) :
    progress.react response node = progress.accept kind response node := by
  rw [Progress.react, expects.1, ResourceKind.ofTypeUrl?_typeUrl]
  exact if_pos expects.2

/-- A response that is not expected changes nothing, and is rejected. -/
theorem react_of_not_expects {progress : Progress} {response : Response}
    (refuses : ∀ kind, ¬progress.Expects kind response) (node : Node) :
    ∃ message, progress.react response node =
      ⟨progress, [(response.reject message node, progress)]⟩ := by
  rw [Progress.react]
  split
  · exact ⟨_, rfl⟩
  · next kind found =>
      rw [if_neg fun subscribed =>
        refuses kind ⟨ResourceKind.typeUrl_of_ofTypeUrl? found, subscribed⟩]
      exact ⟨_, rfl⟩

end Progress

end MeshAccess.Discovery
