import MeshAccess.Proofs.Discovery.Session

/-! This file says what the requests of a transcript are for. -/

namespace MeshAccess.Discovery

/-- What a request is for. -/
inductive Purpose where
  | acceptance (response : Response)
  | rejection (response : Response)
  | poll
  | subscription

namespace Transcript

/-- The response that a request answers. -/
def answered? (request : Request) : Transcript → Option Response
  | .received response :: _ =>
      if request.typeUrl = response.typeUrl ∧ request.nonce = response.nonce then some response
      else none
  | _ => none

/-- The client has only sent requests since the polling timer went off. -/
def isPolling : Transcript → Bool
  | .ticked :: _ => true
  | .sent _ :: earlier => isPolling earlier
  | _ => false

/-- What a request is for when it is sent after a transcript. -/
def purpose (request : Request) (earlier : Transcript) : Purpose :=
  match answered? request earlier with
  | some response => if request.error.isNone then .acceptance response else .rejection response
  | none => if isPolling earlier then .poll else .subscription

/-- Every request of a transcript has a property that depends on what comes before it. -/
def Each (property : Transcript → Request → Prop) (transcript : Transcript) : Prop :=
  ∀ (request : Request) (earlier : Transcript), .sent request :: earlier <:+ transcript →
    property earlier request

section Each

variable {property : Transcript → Request → Prop} {transcript : Transcript}

theorem Each.of_isSuffix {part : Transcript} (each : transcript.Each property)
    (isPart : part <:+ transcript) : part.Each property :=
  fun request earlier found => each request earlier (found.trans isPart)

theorem each_nil : Each property [] :=
  fun _ _ found => absurd (List.suffix_nil.mp found) (List.cons_ne_nil _ _)

theorem Each.send {request : Request} (each : transcript.Each property)
    (holds : property transcript request) : Each property (.sent request :: transcript) := by
  intro other earlier found
  rcases List.suffix_cons_iff.mp found with same | found
  · cases same
    exact holds
  · exact each other earlier found

theorem Each.observe {occurrence : Occurrence} (each : transcript.Each property)
    (unsent : ∀ request, occurrence ≠ .sent request) : Each property (occurrence :: transcript) := by
  intro other earlier found
  rcases List.suffix_cons_iff.mp found with same | found
  · cases same
    exact absurd rfl (unsent other)
  · exact each other earlier found

theorem Each.receive (each : transcript.Each property) (response : Response) :
    Each property (.received response :: transcript) := each.observe nofun

theorem Each.tick (each : transcript.Each property) : Each property (.ticked :: transcript) :=
  each.observe nofun

end Each

/-- The client has accepted a response of a kind with the given property. -/
def HasAccepted (transcript : Transcript) (kind : ResourceKind) (property : Response → Prop) :
    Prop :=
  ∃ request earlier response, .sent request :: earlier <:+ transcript ∧
    purpose request earlier = .acceptance response ∧ response.typeUrl = kind.typeUrl ∧
    property response

/-- The client has asked for a kind, neither in an answer nor in a poll. -/
def HasSubscribed (transcript : Transcript) (kind : ResourceKind) : Prop :=
  ∃ request earlier, .sent request :: earlier <:+ transcript ∧
    purpose request earlier = .subscription ∧ request.typeUrl = kind.typeUrl

theorem HasAccepted.mono {part whole : Transcript} {kind : ResourceKind}
    {property : Response → Prop} (accepted : part.HasAccepted kind property)
    (isPart : part <:+ whole) : whole.HasAccepted kind property := by
  obtain ⟨request, earlier, response, found, facts⟩ := accepted
  exact ⟨request, earlier, response, found.trans isPart, facts⟩

theorem HasSubscribed.mono {part whole : Transcript} {kind : ResourceKind}
    (subscribed : part.HasSubscribed kind) (isPart : part <:+ whole) :
    whole.HasSubscribed kind := by
  obtain ⟨request, earlier, found, facts⟩ := subscribed
  exact ⟨request, earlier, found.trans isPart, facts⟩

/-- A subscription stands at the end of the transcript or before. -/
theorem hasSubscribed_cons {occurrence : Occurrence} {transcript : Transcript} {kind : ResourceKind}
    (subscribed : HasSubscribed (occurrence :: transcript) kind) :
    (∃ request, occurrence = .sent request ∧ purpose request transcript = .subscription ∧
      request.typeUrl = kind.typeUrl) ∨ transcript.HasSubscribed kind := by
  obtain ⟨request, earlier, found, asks, typeUrl⟩ := subscribed
  rcases List.suffix_cons_iff.mp found with same | found
  · cases same
    exact .inl ⟨request, rfl, asks, typeUrl⟩
  · exact .inr ⟨request, earlier, found, asks, typeUrl⟩

/-- The answer to the latest response, with its type and nonce. -/
theorem answered?_received {request : Request} {response : Response} (earlier : Transcript)
    (typeUrl : request.typeUrl = response.typeUrl) (nonce : request.nonce = response.nonce) :
    answered? request (.received response :: earlier) = some response := by
  rw [answered?, if_pos ⟨typeUrl, nonce⟩]

theorem purpose_acceptance {request : Request} {response : Response} (earlier : Transcript)
    (typeUrl : request.typeUrl = response.typeUrl) (nonce : request.nonce = response.nonce)
    (error : request.error = none) :
    purpose request (.received response :: earlier) = .acceptance response := by
  rw [purpose, answered?_received earlier typeUrl nonce, error]
  rfl

theorem purpose_reject (response : Response) (message : String) (node : Node)
    (earlier : Transcript) :
    purpose (response.reject message node) (.received response :: earlier) =
      .rejection response := by
  rw [purpose, answered?_received earlier rfl rfl]
  rfl

theorem purpose_of_isPolling {earlier : Transcript} (request : Request)
    (polling : earlier.isPolling = true) : purpose request earlier = .poll := by
  have unanswered : answered? request earlier = none := by
    cases earlier with
    | nil => rfl
    | cons occurrence others => cases occurrence <;> first | rfl | cases polling
  rw [purpose, unanswered]
  exact if_pos polling

end Transcript

end MeshAccess.Discovery
