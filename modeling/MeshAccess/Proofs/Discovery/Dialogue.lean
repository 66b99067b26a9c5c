import MeshAccess.Proofs.Discovery.Invariant
import MeshAccess.Proofs.Discovery.Reaction

/-! This file derives the transcript of a stream from what has reached the client on it. -/

namespace MeshAccess.Discovery

/-- What reaches a client on a stream. -/
inductive Input where
  | answer (response : Response)
  | tick

def Input.occurrence : Input → Occurrence
  | .answer response => .received response
  | .tick => .ticked

/-- The input of an occurrence. -/
def Occurrence.input? : Occurrence → Option Input
  | .received response => some (.answer response)
  | .ticked => some .tick
  | .sent _ => none

@[simp] theorem Input.input?_occurrence (input : Input) : input.occurrence.input? = some input := by
  cases input <;> rfl

/-- The inputs of a transcript. The latest one comes first. -/
def Transcript.inputs (transcript : Transcript) : List Input :=
  transcript.filterMap Occurrence.input?

@[simp] theorem Transcript.inputs_cons (input : Input) (earlier : Transcript) :
    Transcript.inputs (input.occurrence :: earlier) = input :: earlier.inputs := by
  rw [inputs, List.filterMap_cons, Input.input?_occurrence]
  rfl

theorem Transcript.inputs_append (later : Transcript) (input : Input) (earlier : Transcript) :
    Transcript.inputs (later ++ input.occurrence :: earlier) =
      later.inputs ++ input :: earlier.inputs := by
  rw [← inputs_cons, inputs, List.filterMap_append]
  rfl

namespace Reaction

theorem transcribe_eq (reaction : Reaction) (earlier : Transcript) :
    reaction.transcribe earlier = (reaction.requests.map Occurrence.sent).reverse ++ earlier := by
  rw [transcribe]
  induction reaction.requests generalizing earlier with
  | nil => rfl
  | cons request rest inductionHypothesis =>
      rw [List.foldl_cons, inductionHypothesis]
      simp

theorem transcribe_append (reaction : Reaction) (later earlier : Transcript) :
    reaction.transcribe (later ++ earlier) = reaction.transcribe later ++ earlier := by
  rw [transcribe_eq, transcribe_eq, List.append_assoc]

/-- A reaction adds no input. -/
theorem inputs_transcribe (reaction : Reaction) (earlier : Transcript) :
    (reaction.transcribe earlier).inputs = earlier.inputs := by
  have silent : ((reaction.requests.map Occurrence.sent).reverse).filterMap Occurrence.input? = [] := by
    rw [List.filterMap_eq_nil_iff]
    intro occurrence member
    obtain ⟨request, _, rfl⟩ := List.mem_map.mp (List.mem_reverse.mp member)
    rfl
  rw [transcribe_eq, Transcript.inputs, List.filterMap_append, silent]
  rfl

/-- Two reactions send the same requests and leave the same subscriptions. -/
structure Matches (first second : Reaction) : Prop where
  requests : first.requests = second.requests
  subscriptions : first.finish.subscriptions = second.finish.subscriptions

theorem Matches.transcribe {first second : Reaction} (same : first.Matches second)
    (earlier : Transcript) : first.transcribe earlier = second.transcribe earlier := by
  rw [transcribe_eq, transcribe_eq, same.requests]

end Reaction

namespace Progress

variable {first second : Progress}

theorem greet_matches (first second : Progress) (node : Node) :
    (first.greet node).Matches (second.greet node) := ⟨rfl, rfl⟩

@[simp] theorem finish_pollOf (progress : Progress) (node : Node)
    (subscriptions : List Subscription) : (progress.pollOf node subscriptions).finish = progress := by
  rw [pollOf]
  induction subscriptions with
  | nil => rfl
  | cons subscription rest inductionHypothesis =>
      rw [List.map_cons, Reaction.finish_cons]
      exact inductionHypothesis

theorem poll_matches (same : first.subscriptions = second.subscriptions) (node : Node) :
    (first.poll node).Matches (second.poll node) where
  requests := by simp [Progress.poll, Reaction.requests, same]
  subscriptions := by rw [poll_eq, poll_eq, finish_pollOf, finish_pollOf, same]

theorem followUp?_congr (same : first.subscriptions = second.subscriptions) (kind : ResourceKind)
    (resources : List Mesh.Packed) : first.followUp? kind resources = second.followUp? kind resources := by
  obtain ⟨subscriptions, replica⟩ := first
  obtain ⟨others, otherReplica⟩ := second
  cases same
  rfl

theorem accept_matches (same : first.subscriptions = second.subscriptions) (kind : ResourceKind)
    (response : Response) (node : Node) :
    (first.accept kind response node).Matches (second.accept kind response node) := by
  obtain ⟨reply, acked, acks⟩ :
      ∃ reply acked, (first.deliver kind response.resources).ack kind response node =
        (reply, acked) := ⟨_, _, rfl⟩
  obtain ⟨otherReply, otherAcked, otherAcks⟩ :
      ∃ reply acked, (second.deliver kind response.resources).ack kind response node =
        (reply, acked) := ⟨_, _, rfl⟩
  have replied := ack_eq acks
  have otherReplied := ack_eq otherAcks
  simp only [subscriptions_deliver, same] at replied otherReplied
  have sameReply : reply = otherReply := replied.1.trans otherReplied.1.symm
  have sameSubscriptions : (acked.settle kind).subscriptions = (otherAcked.settle kind).subscriptions := by
    rw [subscriptions_settle, subscriptions_settle, replied.2, otherReplied.2]
  have followed := followUp?_congr sameSubscriptions kind response.resources
  cases lead : (acked.settle kind).followUp? kind response.resources with
  | none =>
      rw [accept_eq_of_none acks lead, accept_eq_of_none otherAcks (followed.symm.trans lead)]
      exact ⟨congrArg (fun request => [request]) sameReply, sameSubscriptions⟩
  | some next =>
      obtain ⟨next, names⟩ := next
      obtain ⟨request, subscribed, subscribes⟩ :
          ∃ request subscribed, (acked.settle kind).subscribe next names node =
            (request, subscribed) := ⟨_, _, rfl⟩
      obtain ⟨otherRequest, otherSubscribed, otherSubscribes⟩ :
          ∃ request subscribed, (otherAcked.settle kind).subscribe next names node =
            (request, subscribed) := ⟨_, _, rfl⟩
      rw [accept_eq_of_some acks lead subscribes,
        accept_eq_of_some otherAcks (followed.symm.trans lead) otherSubscribes]
      have asked := subscribe_eq subscribes
      have otherAsked := subscribe_eq otherSubscribes
      rw [sameSubscriptions] at asked
      have sameRequest : request = otherRequest := asked.1.trans otherAsked.1.symm
      exact ⟨by simp [Reaction.requests, sameReply, sameRequest], asked.2.trans otherAsked.2.symm⟩

theorem react_matches (same : first.subscriptions = second.subscriptions) (response : Response)
    (node : Node) : (first.react response node).Matches (second.react response node) := by
  rw [Progress.react, Progress.react]
  split
  · exact ⟨rfl, same⟩
  · next kind _ =>
      rw [same]
      split
      · exact accept_matches same kind response node
      · exact ⟨rfl, same⟩

def respond (progress : Progress) (node : Node) : Input → Reaction
  | .answer response => progress.react response node
  | .tick => progress.poll node

/-- What a client has come to, and the transcript of its stream, once it has handled the inputs of
the stream. The latest input comes first. -/
def converse (node : Node) : List Input → Progress × Transcript
  | [] => ((start.greet node).finish, (start.greet node).transcribe [])
  | input :: earlier =>
      let (progress, transcript) := converse node earlier
      let reaction := progress.respond node input
      (reaction.finish, reaction.transcribe (input.occurrence :: transcript))

theorem converse_cons (node : Node) (input : Input) (earlier : List Input) :
    converse node (input :: earlier) =
      (((converse node earlier).1.respond node input).finish,
        ((converse node earlier).1.respond node input).transcribe
          (input.occurrence :: (converse node earlier).2)) := rfl

theorem inputs_converse (node : Node) (inputs : List Input) :
    (converse node inputs).2.inputs = inputs := by
  induction inputs with
  | nil => rfl
  | cons input earlier inductionHypothesis =>
      rw [converse_cons, Reaction.inputs_transcribe, Transcript.inputs_cons, inductionHypothesis]

/-- A client writes an input down when it has handled the earlier ones. -/
theorem isSuffix_converse (node : Node) (later : List Input) (input : Input)
    (earlier : List Input) :
    input.occurrence :: (converse node earlier).2 <:+
      (converse node (later ++ input :: earlier)).2 := by
  induction later with
  | nil => exact Reaction.isSuffix_transcribe _ _
  | cons next rest inductionHypothesis =>
      rw [List.cons_append, converse_cons]
      exact inductionHypothesis.trans
        ((List.suffix_cons _ _).trans (Reaction.isSuffix_transcribe _ _))

/-- A response that is not expected adds itself and its rejection, and nothing else. -/
theorem converse_erase (node : Node) (later : List Input) {response : Response}
    {earlier : List Input} (refuses : ∀ kind, ¬(converse node earlier).1.Expects kind response) :
    (converse node (later ++ .answer response :: earlier)).1 =
        (converse node (later ++ earlier)).1 ∧
      ∃ rest message, (converse node (later ++ .answer response :: earlier)).2 =
          rest ++ .sent (response.reject message node) :: .received response ::
            (converse node earlier).2 ∧
        (converse node (later ++ earlier)).2 = rest ++ (converse node earlier).2 := by
  induction later with
  | nil =>
      obtain ⟨message, rejects⟩ := react_of_not_expects refuses node
      rw [List.nil_append, List.nil_append, converse_cons, respond, rejects]
      exact ⟨rfl, [], message, rfl, rfl⟩
  | cons input later inductionHypothesis =>
      obtain ⟨sameProgress, rest, message, whole, erased⟩ := inductionHypothesis
      rw [List.cons_append, List.cons_append, converse_cons, converse_cons, sameProgress, whole,
        erased]
      have moved (transcript : Transcript) :
          ((converse node (later ++ earlier)).1.respond node input).transcribe
              (input.occurrence :: (rest ++ transcript)) =
            ((converse node (later ++ earlier)).1.respond node input).transcribe
              (input.occurrence :: rest) ++ transcript :=
        Reaction.transcribe_append _ (input.occurrence :: rest) transcript
      exact ⟨rfl, _, message, moved _, moved _⟩

/-- The transcript is complete, and the subscriptions are those that it leads to. -/
structure Concludes (node : Node) (progress : Progress) (transcript : Transcript) : Prop where
  subscriptions : (converse node transcript.inputs).1.subscriptions = progress.subscriptions
  transcript : (converse node transcript.inputs).2 = transcript

namespace Concludes

variable {node : Node} {progress : Progress} {transcript : Transcript}

theorem of_converse (inputs : List Input)
    (subscriptions : (converse node inputs).1.subscriptions = progress.subscriptions)
    (whole : (converse node inputs).2 = transcript) : Concludes node progress transcript := by
  have same : transcript.inputs = inputs := by rw [← whole, inputs_converse]
  rw [← same] at subscriptions whole
  exact ⟨subscriptions, whole⟩

theorem respond (concludes : Concludes node progress transcript) (input : Input)
    {reaction : Reaction}
    (alike : ((converse node transcript.inputs).1.respond node input).Matches reaction) :
    Concludes node reaction.finish (reaction.transcribe (input.occurrence :: transcript)) := by
  refine of_converse (input :: transcript.inputs) alike.subscriptions ?_
  rw [converse_cons, concludes.transcript]
  exact alike.transcribe _

theorem isInvariant : Session.IsInvariant node (Concludes node) where
  greet progress :=
    have alike := greet_matches start progress node
    of_converse [] alike.subscriptions (alike.transcribe [])
  react _ _ response concludes :=
    concludes.respond (.answer response) (react_matches concludes.subscriptions response node)
  poll _ _ concludes := concludes.respond .tick (poll_matches concludes.subscriptions node)

end Concludes

end Progress

namespace Transcript

open Progress

/-- A client writes this transcript for its inputs. It may still have something to send. -/
def IsGenuine (node : Node) (transcript : Transcript) : Prop :=
  transcript <:+ (converse node transcript.inputs).2

/-- What is left of a complete transcript after its latest occurrences is what the client has
written for the inputs that are left. -/
theorem isGenuine_of_isSuffix {node : Node} {inputs : List Input} {transcript : Transcript}
    (isPart : transcript <:+ (converse node inputs).2) : transcript.IsGenuine node := by
  induction inputs with
  | nil =>
      have none : transcript.inputs = [] := List.suffix_nil.mp (isPart.filterMap Occurrence.input?)
      rw [IsGenuine, none]
      exact isPart
  | cons input earlier inductionHypothesis =>
      have begins : input.occurrence :: (converse node earlier).2 <:+
          (converse node (input :: earlier)).2 := Reaction.isSuffix_transcribe _ _
      have reaches (beyond : input.occurrence :: (converse node earlier).2 <:+ transcript) :
          transcript.IsGenuine node := by
        have more : input :: earlier <:+ transcript.inputs := by
          rw [← inputs_converse node (input :: earlier), converse_cons, Reaction.inputs_transcribe]
          exact beyond.filterMap Occurrence.input?
        have fewer : transcript.inputs <:+ input :: earlier := by
          have within := isPart.filterMap Occurrence.input?
          rwa [← Transcript.inputs, ← Transcript.inputs, inputs_converse] at within
        have same := fewer.eq_of_length (Nat.le_antisymm fewer.length_le more.length_le)
        rw [IsGenuine, same]
        exact isPart
      -- The part either ends before the latest input, or has all inputs.
      rcases List.suffix_or_suffix_of_suffix isPart begins with within | beyond
      · rcases List.suffix_cons_iff.mp within with same | within
        · exact reaches (same ▸ List.suffix_refl _)
        · exact inductionHypothesis within
      · exact reaches beyond

/-- A transcript that begins with an input, and has no fewer inputs, is the whole. -/
theorem eq_of_isSuffix_of_inputs {input : Input} {part earlier : Transcript}
    (isPart : part <:+ input.occurrence :: earlier) (inputs : part.inputs = input :: earlier.inputs) :
    part = input.occurrence :: earlier := by
  rcases List.suffix_cons_iff.mp isPart with same | within
  · exact same
  · have fewer : part.inputs.length ≤ earlier.inputs.length :=
      (within.filterMap Occurrence.input?).length_le
    rw [inputs, List.length_cons] at fewer
    exact absurd fewer (Nat.not_succ_le_self _)

/-- A client handles an input only when it has written everything about the earlier ones. -/
theorem IsGenuine.before_input {node : Node} {rest earlier : Transcript} {input : Input}
    (genuine : (rest ++ input.occurrence :: earlier).IsGenuine node) :
    (converse node earlier.inputs).2 = earlier := by
  have isPart : input.occurrence :: earlier <:+
      (converse node (rest.inputs ++ input :: earlier.inputs)).2 := by
    rw [← inputs_append]
    exact (List.suffix_append _ _).trans genuine
  have begins := isSuffix_converse node rest.inputs input earlier.inputs
  have whole := inputs_converse node earlier.inputs
  rcases List.suffix_or_suffix_of_suffix begins isPart with within | beyond
  · refine List.tail_eq_of_cons_eq (eq_of_isSuffix_of_inputs within ?_)
    rw [inputs_cons, whole]
  · refine (List.tail_eq_of_cons_eq (eq_of_isSuffix_of_inputs beyond ?_)).symm
    rw [inputs_cons, whole]

end Transcript

namespace Session

variable {config : Config} {listenerConsumers routeConsumers : Nat} {moves : List Move}
  {session : Session}

/-- Every run of a client is one of a session. -/
theorem exists_run? {before client : Client} (run : before.run? moves = some client) :
    ∃ session, (start before).run? moves = some session ∧ session.client = client := by
  have recorded : ((start before).run? moves).map Session.client = some client := by
    rw [map_client_run?]
    exact run
  exact Option.map_eq_some_iff.mp recorded

theorem agrees_of_run
    (run : (start (.prepare config listenerConsumers routeConsumers)).run? moves = some session) :
    session.Agrees (Progress.Concludes config.node) :=
  have begun : (start (.prepare config listenerConsumers routeConsumers)).Agrees
      (Progress.Concludes config.node) := .start rfl
  begun.of_run Progress.Concludes.isInvariant run

theorem carries_of_run
    (run : (start (.prepare config listenerConsumers routeConsumers)).run? moves = some session) :
    session.Carries :=
  have begun : (start (.prepare config listenerConsumers routeConsumers)).Carries :=
    fun _ found => by cases found
  begun.of_run run

/-- On every stream of every run, the transcript follows from the inputs of this stream. -/
theorem isGenuine_of_run
    (run : (start (.prepare config listenerConsumers routeConsumers)).run? moves = some session)
    {transcript : Transcript} (member : transcript ∈ session.transcripts) :
    transcript.IsGenuine config.node := by
  rcases (agrees_of_run run).parts transcript member with empty | ⟨progress, whole, isPart, concludes⟩
  · rw [empty]
    exact List.nil_suffix
  · rw [← concludes.transcript] at isPart
    exact Transcript.isGenuine_of_isSuffix isPart

/-- A client that waits has written everything about the inputs of its stream. -/
theorem concludes_of_isWaiting
    (run : (start (.prepare config listenerConsumers routeConsumers)).run? moves = some session)
    (waits : session.client.isWaiting = true) :
    Progress.Concludes config.node session.client.progress session.current :=
  (agrees_of_run run).current _ (Client.reaction?_of_isWaiting waits)

end Session

end MeshAccess.Discovery
