import MeshAccess.Discovery.Subscription
import Mathlib.Data.List.DropRight

/-! This file says what a subscription remembers of its history, and what its requests say. -/

namespace MeshAccess.Discovery

/-- The phase after a number of accepted responses, given whether something was asked for. -/
def Phase.ofHistory (hasAsked : Bool) : Nat → Phase
  | 0 => if hasAsked then .subscribing else .unsubscribed
  | others + 1 => .synced ⟨others % UInt64.size, Nat.mod_lt _ (by decide)⟩

namespace Phase

/-- Whoever asks has asked, and a synchronized subscription stays so. -/
theorem ask_ofHistory (hasAsked : Bool) (count : Nat) :
    (if ofHistory hasAsked count = .unsubscribed then subscribing else ofHistory hasAsked count) =
      ofHistory true count := by
  cases count with
  | zero => cases hasAsked <;> rfl
  | succ others => rfl

theorem accept_ofHistory (hasAsked : Bool) (count : Nat) :
    (ofHistory hasAsked count).accept = ofHistory hasAsked (count + 1) := by
  cases count with
  | zero => cases hasAsked <;> rfl
  | succ others =>
      refine congrArg synced (Fin.ext ?_)
      rw [Fin.val_add]
      exact Nat.mod_add_mod others UInt64.size 1

/-- The counter is one behind the number of accepted responses, as long as it has not run over. -/
theorem ofHistory_eq_synced_iff {hasAsked : Bool} {count : Nat} (few : count < UInt64.size)
    (updates : Fin UInt64.size) :
    ofHistory hasAsked count = .synced updates ↔ updates.val + 1 = count := by
  cases count with
  | zero => cases hasAsked <;> simp [ofHistory]
  | succ others =>
      rw [ofHistory, synced.injEq, Fin.ext_iff]
      change others % UInt64.size = updates.val ↔ _
      rw [Nat.mod_eq_of_lt (Nat.lt_of_succ_lt few), Nat.add_right_cancel_iff, eq_comm]

end Phase

namespace Subscription

/-- What a client does with a subscription. -/
inductive Operation where
  | subscribe (names : NameSet) (node : Node)
  | ack (response : Response) (node : Node)
  | nack (response : Response) (message : String) (node : Node)
  | poll (node : Node)
  | reset

namespace Operation

def isReset : Operation → Bool
  | .reset => true
  | _ => false

def isPoll : Operation → Bool
  | .poll _ => true
  | _ => false

/-- The names that an operation asks for. -/
def names? : Operation → Option NameSet
  | .subscribe names _ => some names
  | _ => none

/-- The response that an operation accepts. -/
def accepted? : Operation → Option Response
  | .ack response _ => some response
  | _ => none

/-- The response that an operation accepts or rejects. -/
def answered? : Operation → Option Response
  | .ack response _ => some response
  | .nack response _ _ => some response
  | _ => none

/-- The reason that an operation gives for a rejection. -/
def rejection? : Operation → Option String
  | .nack _ message _ => some message
  | _ => none

/-- The client as it presents itself in an operation. -/
def node? : Operation → Option Node
  | .subscribe _ node => some node
  | .ack _ node => some node
  | .nack _ _ node => some node
  | .poll node => some node
  | .reset => none

/-- The request that an operation makes, and the subscription after it. -/
def run (subscription : Subscription) : Operation → Option Request × Subscription
  | .subscribe names node => (subscription.subscribe names node).map some id
  | .ack response node => (subscription.ack response node).map some id
  | .nack response message node => (subscription.nack response message node).map some id
  | .poll node => (some (subscription.poll node), subscription)
  | .reset => (none, subscription.reset)

/-- The operations after the last reset. -/
def sinceReset (history : List Operation) : List Operation :=
  history.rtakeWhile fun operation => !operation.isReset

theorem sinceReset_concat {history : List Operation} {operation : Operation}
    (stays : operation.isReset = false) :
    sinceReset (history ++ [operation]) = sinceReset history ++ [operation] :=
  List.rtakeWhile_concat_pos _ _ _ (by rw [stays]; rfl)

theorem sinceReset_reset (history : List Operation) : sinceReset (history ++ [.reset]) = [] :=
  List.rtakeWhile_concat_neg _ _ _ (by decide)

end Operation

/-- A new subscription after a history of operations. -/
def after (kind : ResourceKind) (history : List Operation) : Subscription :=
  history.foldl (fun subscription operation => (operation.run subscription).2) (.start kind)

/-- The subscription that operations without a reset leave. -/
def ofRecent (kind : ResourceKind) (recent : List Operation) : Subscription where
  kind := kind
  names := (recent.filterMap Operation.names?).getLast?.getD .empty
  version := ((recent.filterMap Operation.accepted?).getLast?.map Response.version).getD ""
  nonce := ((recent.filterMap Operation.answered?).getLast?.map Response.nonce).getD ""
  phase := .ofHistory (recent.any fun operation => operation.names?.isSome)
    (recent.filterMap Operation.accepted?).length

variable {kind : ResourceKind} {recent history : List Operation} {operation : Operation}

theorem after_concat :
    after kind (history ++ [operation]) = (operation.run (after kind history)).2 := by
  rw [after, List.foldl_concat]
  rfl

/-- One more operation changes what the recent ones leave as it changes a subscription. -/
theorem run_ofRecent (stays : operation.isReset = false) :
    (operation.run (ofRecent kind recent)).2 = ofRecent kind (recent ++ [operation]) := by
  cases operation with
  | subscribe names node =>
      simp [Operation.run, subscribe, ofRecent, Operation.names?, Operation.accepted?,
        Operation.answered?, List.filterMap_cons, Phase.ask_ofHistory]
  | ack response node =>
      simp [Operation.run, ack, ofRecent, Operation.names?, Operation.accepted?,
        Operation.answered?, Phase.accept_ofHistory]
  | nack response message node =>
      simp [Operation.run, nack, ofRecent, Operation.names?, Operation.accepted?,
        Operation.answered?, List.filterMap_cons]
  | poll node =>
      simp [Operation.run, ofRecent, Operation.names?, Operation.accepted?, Operation.answered?,
        List.filterMap_cons]
  | reset => cases stays

/-- No operation changes the kind. -/
theorem kind_run (subscription : Subscription) (operation : Operation) :
    (operation.run subscription).2.kind = subscription.kind := by
  cases operation <;> rfl

/-- Only the operations since the last reset count. -/
theorem after_eq_ofRecent (kind : ResourceKind) (history : List Operation) :
    after kind history = ofRecent kind (Operation.sinceReset history) := by
  induction history using List.reverseRecOn with
  | nil => rfl
  | append_singleton history operation inductionHypothesis =>
      rw [after_concat, inductionHypothesis]
      cases resets : operation.isReset with
      | false => rw [run_ofRecent resets, Operation.sinceReset_concat resets]
      | true =>
          cases operation with
          | reset =>
              rw [Operation.sinceReset_reset]
              rfl
          | _ => cases resets

/-- What the request of an operation says, given the subscription after it. -/
structure Answers (operation : Operation) (subscription : Subscription) (request : Request) :
    Prop where
  typeUrl : request.typeUrl = subscription.kind.typeUrl
  names : request.names = subscription.names.toList
  ascending : request.names.Pairwise (· < ·)
  node : operation.node? = some request.node
  /-- A poll asks for everything again, so it names no version. -/
  version : request.version = if operation.isPoll then "" else subscription.version
  nonce : request.nonce = if operation.isPoll then "" else subscription.nonce
  /-- Only a rejection has an error. -/
  error : request.error =
    operation.rejection?.map fun message => ⟨ErrorDetail.invalidArgument, message⟩

theorem answers_run {subscription : Subscription} {request : Request}
    (makes : (operation.run subscription).1 = some request) :
    Answers operation (operation.run subscription).2 request := by
  cases operation with
  | subscribe names node =>
      cases makes
      exact ⟨rfl, rfl, names.sorted, rfl, rfl, rfl, rfl⟩
  | ack response node =>
      cases makes
      exact ⟨rfl, rfl, subscription.names.sorted, rfl, rfl, rfl, rfl⟩
  | nack response message node =>
      cases makes
      exact ⟨rfl, rfl, subscription.names.sorted, rfl, rfl, rfl, rfl⟩
  | poll node =>
      cases makes
      exact ⟨rfl, rfl, subscription.names.sorted, rfl, rfl, rfl, rfl⟩
  | reset => cases makes

/-- A subscription is determined by the operations since the last reset. Every operation but a reset
makes one request, which says what the subscription holds after it, and a poll changes nothing. -/
theorem determinedByHistory (kind : ResourceKind) (history : List Operation) :
    after kind history = ofRecent kind (Operation.sinceReset history) ∧
      (((Operation.sinceReset history).filterMap Operation.accepted?).length < UInt64.size →
        ∀ updates, (after kind history).phase = .synced updates ↔
          updates.val + 1 = ((Operation.sinceReset history).filterMap Operation.accepted?).length) ∧
      (∀ operation : Operation,
        (operation.run (after kind history)).1 = none ↔ operation.isReset) ∧
      (∀ (operation : Operation) (request : Request),
        (operation.run (after kind history)).1 = some request →
        request.typeUrl = kind.typeUrl ∧
          Answers operation (after kind (history ++ [operation])) request) ∧
      ∀ node, after kind (history ++ [.poll node]) = after kind history := by
  refine ⟨after_eq_ofRecent kind history, fun few updates => ?_, fun operation => ?_,
    fun operation request makes => ?_, fun node => after_concat⟩
  · rw [after_eq_ofRecent]
    exact Phase.ofHistory_eq_synced_iff few updates
  · cases operation <;> simp [Operation.run, Operation.isReset, Prod.map]
  · have answers := answers_run makes
    refine ⟨?_, after_concat ▸ answers⟩
    rw [answers.typeUrl, kind_run, after_eq_ofRecent]
    rfl

end Subscription

end MeshAccess.Discovery
