import MeshAccess.Proofs.Discovery.Purpose
import MeshAccess.Proofs.Discovery.Reaction

/-! This file says which responses of a stream count for a client. -/

namespace MeshAccess.Discovery.Transcript

/-- The client has asked for a kind. A rejection asks for nothing. -/
def asks (kind : ResourceKind) : Transcript → Bool
  | [] => false
  | .sent request :: earlier =>
      (request.typeUrl = kind.typeUrl && request.error.isNone) || asks kind earlier
  | _ :: earlier => asks kind earlier

/-- A response that comes now is of a kind which the client has asked for. -/
def Admits (transcript : Transcript) (kind : ResourceKind) (response : Response) : Prop :=
  response.typeUrl = kind.typeUrl ∧ transcript.asks kind = true

instance (transcript : Transcript) (kind : ResourceKind) (response : Response) :
    Decidable (transcript.Admits kind response) := inferInstanceAs (Decidable (_ ∧ _))

/-- The responses of a kind that came after the client had asked for it. The latest one comes
first. -/
def admitted (kind : ResourceKind) : Transcript → List Response
  | [] => []
  | .received response :: earlier =>
      if Admits earlier kind response then response :: admitted kind earlier
      else admitted kind earlier
  | _ :: earlier => admitted kind earlier

/-- The version of the latest response of a kind. It is empty before the first one. -/
def latestVersion (kind : ResourceKind) (transcript : Transcript) : String :=
  ((transcript.admitted kind).head?.map Response.version).getD ""

/-- The nonce of the latest response of a kind. It is empty before the first one. -/
def latestNonce (kind : ResourceKind) (transcript : Transcript) : String :=
  ((transcript.admitted kind).head?.map Response.nonce).getD ""

variable {kind other : ResourceKind} {transcript : Transcript} {request : Request}
  {response : Response}

@[simp] theorem asks_received (kind : ResourceKind) (response : Response)
    (transcript : Transcript) : asks kind (.received response :: transcript) = asks kind transcript :=
  rfl

theorem asks_sent_self (typeUrl : request.typeUrl = kind.typeUrl) (accepts : request.error = none) :
    asks kind (.sent request :: transcript) = true := by
  simp [asks, typeUrl, accepts]

theorem asks_sent_of_ne (typeUrl : request.typeUrl = kind.typeUrl) (different : other ≠ kind) :
    asks other (.sent request :: transcript) = asks other transcript := by
  have distinct : kind.typeUrl ≠ other.typeUrl := fun same =>
    different (ResourceKind.typeUrl_injective same).symm
  simp [asks, typeUrl, distinct]

theorem asks_sent_of_asks (asked : asks kind transcript = true) :
    asks kind (.sent request :: transcript) = true := by
  rw [asks, asked, Bool.or_true]

@[simp] theorem asks_reject (kind : ResourceKind) (response : Response) (message : String)
    (node : Node) (transcript : Transcript) :
    asks kind (.sent (response.reject message node) :: transcript) = asks kind transcript := by
  simp [asks, Response.reject]

@[simp] theorem admitted_sent (kind : ResourceKind) (request : Request) (transcript : Transcript) :
    admitted kind (.sent request :: transcript) = admitted kind transcript := rfl

@[simp] theorem admitted_ticked (kind : ResourceKind) (transcript : Transcript) :
    admitted kind (.ticked :: transcript) = admitted kind transcript := rfl

theorem admitted_received (kind : ResourceKind) (response : Response) (transcript : Transcript) :
    admitted kind (.received response :: transcript) =
      if transcript.Admits kind response then response :: admitted kind transcript
      else admitted kind transcript := rfl

theorem admitted_of_admits (admits : transcript.Admits kind response) :
    admitted kind (.received response :: transcript) = response :: admitted kind transcript :=
  if_pos admits

theorem admitted_of_not_admits (refuses : ¬transcript.Admits kind response) :
    admitted kind (.received response :: transcript) = admitted kind transcript :=
  if_neg refuses

/-- A response of one kind does not count for another one. -/
theorem not_admits_of_ne (typeUrl : response.typeUrl = kind.typeUrl) (different : other ≠ kind) :
    ¬transcript.Admits other response := fun admits =>
  different (ResourceKind.typeUrl_injective (admits.1.symm.trans typeUrl))

/-- What counts on a stream has come on this stream, and is of its kind. -/
theorem mem_of_mem_admitted (member : response ∈ transcript.admitted kind) :
    .received response ∈ transcript ∧ response.typeUrl = kind.typeUrl := by
  induction transcript with
  | nil => cases member
  | cons occurrence earlier inductionHypothesis =>
      cases occurrence with
      | received latest =>
          rw [admitted_received] at member
          split at member
          · next admits =>
              rcases List.mem_cons.mp member with rfl | member
              · exact ⟨List.mem_cons_self, admits.1⟩
              · exact (inductionHypothesis member).imp_left (List.mem_cons_of_mem _)
          · exact (inductionHypothesis member).imp_left (List.mem_cons_of_mem _)
      | _ => exact (inductionHypothesis member).imp_left (List.mem_cons_of_mem _)

end MeshAccess.Discovery.Transcript
