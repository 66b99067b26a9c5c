import MeshAccess.Proofs.Discovery.Moves

/-! This file follows a client over all of its streams, and keeps a transcript of each of them. -/

namespace MeshAccess.Discovery

/-- What happens on a stream, as the client sees it. -/
inductive Occurrence where
  | received (response : Response)
  | ticked
  | sent (request : Request)

/-- The request of an occurrence. -/
def Occurrence.request? : Occurrence → Option Request
  | .sent request => some request
  | _ => none

/-- What has happened on a stream. The latest occurrence comes first. -/
abbrev Transcript := List Occurrence

namespace Client

/-- What a client has still to do about the latest event on its stream. There is nothing without a
stream. -/
def reaction? (client : Client) : Option Reaction :=
  match client.activity with
  | .opening sends => some ⟨client.progress, sends⟩
  | .serving sends _ => some ⟨client.progress, sends⟩
  | _ => none

/-- The client may still open a stream, and has none now. -/
def isBetweenStreams (client : Client) : Bool :=
  match client.activity with
  | .idle => true
  | .ready => true
  | .sleeping _ => true
  | _ => false

/-- What a move adds to the transcript of the stream. -/
def occurrence? (client : Client) : Move → Option Occurrence
  | .send => client.outgoing?.map .sent
  | .receive =>
      match client.stream with
      | some ⟨_, _, .ok response :: _, _⟩ => some (.received response)
      | _ => none
  | .poll => some .ticked
  | _ => none

theorem isBetweenStreams_of_reaction? {client : Client} {reaction : Reaction}
    (reacts : client.reaction? = some reaction) : client.isBetweenStreams = false := by
  rw [reaction?] at reacts
  rw [isBetweenStreams]
  split at reacts
  · next opening => rw [opening]
  · next serving => rw [serving]
  · cases reacts

/-- A client that serves has nothing more to send, or its clock has ended. -/
theorem reaction?_serve (client : Client) :
    (∀ reaction, client.serve.reaction? = some reaction → reaction = ⟨client.progress, []⟩) ∧
      client.serve.isBetweenStreams = false := by
  unfold serve
  split
  · exact ⟨fun _ same => (Option.some.inj same).symm, rfl⟩
  · split
    · exact ⟨fun _ same => (Option.some.inj same).symm, rfl⟩
    · refine ⟨fun reaction impossible => ?_, rfl⟩
      exact absurd impossible (Option.some_ne_none reaction).symm

/-- The client goes on with the rest of its reaction. -/
theorem reaction?_advance {client : Client} {send : Request × Progress}
    {rest : List (Request × Progress)}
    (due : client.reaction? = some ⟨client.progress, send :: rest⟩) :
    (∀ reaction, client.advance.reaction? = some reaction → reaction = ⟨send.2, rest⟩) ∧
      client.advance.isBetweenStreams = false := by
  rw [reaction?] at due
  split at due
  · next sends opening =>
      cases due
      simp only [advance, opening]
      cases rest with
      | nil => exact reaction?_serve { client with progress := send.2 }
      | cons next others => exact ⟨fun _ same => (Option.some.inj same).symm, rfl⟩
  · next sends nextPoll serving =>
      cases due
      simp only [advance, serving]
      exact ⟨fun _ same => (Option.some.inj same).symm, rfl⟩
  · cases due

@[simp] theorem progress_serve (client : Client) : client.serve.progress = client.progress := by
  unfold serve
  split
  · rfl
  · split <;> rfl

theorem progress_advance {client : Client} {send : Request × Progress}
    {rest : List (Request × Progress)}
    (due : client.reaction? = some ⟨client.progress, send :: rest⟩) :
    client.advance.progress = send.2 := by
  rw [reaction?] at due
  split at due
  · next sends opening =>
      cases due
      simp only [advance, opening]
      split
      · exact progress_serve _
      · rfl
  · next sends nextPoll serving =>
      cases due
      simp only [advance, serving]
  · cases due

/-- A client that waits has nothing more to send. -/
theorem reaction?_of_isWaiting {client : Client} (waits : client.isWaiting = true) :
    client.reaction? = some ⟨client.progress, []⟩ := by
  rw [isWaiting] at waits
  split at waits
  · next serving => rw [reaction?, serving]
  · cases waits

/-- A reaction begins with the progress of the client. -/
theorem progress_of_reaction? {client : Client} {reaction : Reaction}
    (reacts : client.reaction? = some reaction) : client.progress = reaction.start := by
  rw [reaction?] at reacts
  split at reacts
  · cases reacts
    rfl
  · cases reacts
    rfl
  · cases reacts

theorem stream_advance (client : Client) :
    client.advance.stream = client.stream ∨ client.advance.stream = none := by
  unfold advance
  split
  · next request progress rest _ =>
      cases rest with
      | nil =>
          simp only [List.isEmpty_nil, if_true, serve]
          split
          · exact .inl rfl
          · split
            · exact .inl rfl
            · exact .inr rfl
      | cons next others => exact .inl rfl
  · exact .inl rfl
  · exact .inl rfl

/-- The request that a client wants to send is the next one of its reaction. -/
theorem exists_reaction?_of_outgoing? {client : Client} {request : Request}
    (outgoing : client.outgoing? = some request) :
    ∃ progress rest, client.reaction? = some ⟨client.progress, (request, progress) :: rest⟩ := by
  rw [outgoing?] at outgoing
  split at outgoing
  · next progress rest opening =>
      cases outgoing
      exact ⟨progress, rest, by rw [reaction?, opening]⟩
  · next progress rest nextPoll serving =>
      cases outgoing
      exact ⟨progress, rest, by rw [reaction?, serving]⟩
  · cases outgoing

end Client

/-- A client with the transcripts of its streams. The latest of the earlier ones comes first. -/
structure Session where
  client : Client
  current : Transcript
  earlier : List Transcript

namespace Session

/-- A client that has seen no stream. -/
def start (client : Client) : Session := ⟨client, [], []⟩

/-- A client that has not started, and has seen no stream. -/
def create (config : Config) : Session := ⟨.create config, [], []⟩

def transcripts (session : Session) : List Transcript := session.current :: session.earlier

/-- The session after a move of the client. A connection begins a transcript. -/
def follow (session : Session) (move : Move) (client : Client) : Session :=
  match move with
  | .connect => ⟨client, [], session.transcripts⟩
  | _ => ⟨client, (session.client.occurrence? move).toList ++ session.current, session.earlier⟩

/-- The session after a move, if the move is possible. -/
def move? (session : Session) (move : Move) : Option Session :=
  (session.client.move? move).map (session.follow move)

/-- The session after a sequence of moves, if all of them are possible. -/
def run? (session : Session) : List Move → Option Session
  | [] => some session
  | move :: rest => do (← session.move? move).run? rest

theorem client_follow (session : Session) (move : Move) (client : Client) :
    (session.follow move client).client = client := by
  cases move <;> rfl

/-- The transcripts change nothing about the client. -/
theorem map_client_run? (session : Session) (moves : List Move) :
    (session.run? moves).map client = session.client.run? moves := by
  induction moves generalizing session with
  | nil => rfl
  | cons move rest inductionHypothesis =>
      rw [run?, Client.run?, move?]
      cases moved : session.client.move? move with
      | none => rfl
      | some after =>
          show ((session.follow move after).run? rest).map client = after.run? rest
          rw [inductionHypothesis, client_follow]

/-- What a move can do. -/
inductive Step (before after : Session) : Prop where
  | connects
      (reaction : after.client.reaction? = some (before.client.progress.greet before.client.node))
      (current : after.current = []) (earlier : after.earlier = before.transcripts)
  | sends (request : Request) (progress : Progress) (rest : List (Request × Progress))
      (due : before.client.reaction? = some ⟨before.client.progress, (request, progress) :: rest⟩)
      (reaction : ∀ reaction, after.client.reaction? = some reaction → reaction = ⟨progress, rest⟩)
      (next : after.client.progress = progress)
      (connected : after.client.isBetweenStreams = false)
      (current : after.current = .sent request :: before.current)
      (earlier : after.earlier = before.earlier)
  | receives (response : Response)
      (idle : before.client.reaction? = some ⟨before.client.progress, []⟩)
      (reaction : after.client.reaction? =
        some (before.client.progress.react response before.client.node))
      (current : after.current = .received response :: before.current)
      (earlier : after.earlier = before.earlier)
  | polls
      (idle : before.client.reaction? = some ⟨before.client.progress, []⟩)
      (reaction : after.client.reaction? = some (before.client.progress.poll before.client.node))
      (current : after.current = .ticked :: before.current)
      (earlier : after.earlier = before.earlier)
  | givesUp (client : after.client = before.client.giveUp)
      (current : after.current = before.current) (earlier : after.earlier = before.earlier)
  | stops (reaction : after.client.reaction? = none)
      (progress : after.client.progress = before.client.progress)
      (connected : after.client.isBetweenStreams = false)
      (current : after.current = before.current) (earlier : after.earlier = before.earlier)
  | stays (reaction : after.client.reaction? = before.client.reaction?)
      (progress : after.client.progress = before.client.progress)
      (connected : after.client.isBetweenStreams = before.client.isBetweenStreams)
      (current : after.current = before.current) (earlier : after.earlier = before.earlier)

/-- Every move of a session is one of the steps. -/
theorem step_of_moves {session : Session} {move : Move} {client : Client}
    (moves : session.client.Moves move client) : session.Step (session.follow move client) := by
  cases moves with
  | start idle =>
      refine .stays ?_ rfl ?_ rfl rfl
      · simp [follow, Client.reaction?, idle]
      · simp [follow, Client.isBetweenStreams, idle]
  | connect wants => exact .connects rfl rfl rfl
  | refuse wants => exact .givesUp rfl rfl rfl
  | @send stream request held outgoing room =>
      obtain ⟨progress, rest, due⟩ := Client.exists_reaction?_of_outgoing? outgoing
      have stillDue : (session.client.withStream (stream.addRequest request)).reaction? =
          some ⟨session.client.progress, (request, progress) :: rest⟩ := due
      have advanced := Client.reaction?_advance stillDue
      have next := Client.progress_advance stillDue
      refine .sends request progress rest due advanced.1 next advanced.2 ?_ rfl
      simp [follow, Client.occurrence?, outgoing]
  | @receive stream response rest nextPoll waits held next =>
      refine .receives response ?_ rfl ?_ rfl
      · rw [Client.reaction?, waits]
      · obtain ⟨requests, takesRequests, responses, givesResponses⟩ := stream
        subst next
        simp [follow, Client.occurrence?, held]
  | fail held broken => exact .givesUp rfl rfl rfl
  | poll waits polls due =>
      refine .polls ?_ rfl rfl rfl
      rw [Client.reaction?, waits]
  | wake sleeps due =>
      refine .stays ?_ rfl ?_ rfl rfl
      · simp [follow, Client.reaction?, sleeps]
      · simp [follow, Client.isBetweenStreams, sleeps]
  | stop stopping heeds => exact .stops rfl rfl rfl rfl rfl
  | _ => exact .stays rfl rfl rfl rfl rfl

theorem step_of_move? {session after : Session} {move : Move}
    (moved : session.move? move = some after) : session.Step after := by
  obtain ⟨client, clientMoved, rfl⟩ := Option.map_eq_some_iff.mp moved
  exact step_of_moves (Client.move?_eq_some_iff.mp clientMoved)

/-- What every move preserves holds after every run. -/
theorem run?_induction {holds : Session → Prop}
    (preserved : ∀ before move after, holds before → before.move? move = some after → holds after)
    {session after : Session} {moves : List Move} (initially : holds session)
    (run : session.run? moves = some after) : holds after := by
  induction moves generalizing session with
  | nil =>
      cases run
      exact initially
  | cons move rest inductionHypothesis =>
      obtain ⟨next, moved, run⟩ := Option.bind_eq_some_iff.mp run
      exact inductionHypothesis (preserved session move next initially moved) run

theorem requests_follow {session : Session} {move : Move} {client : Client}
    (noGreeting : move ≠ .connect) (unsent : move ≠ .send) :
    (session.follow move client).current.filterMap Occurrence.request? =
      session.current.filterMap Occurrence.request? := by
  cases move with
  | connect => exact absurd rfl noGreeting
  | send => exact absurd rfl unsent
  | receive =>
      simp only [follow, Client.occurrence?]
      split <;> rfl
  | _ => rfl

/-- The requests that the control plane has not read are the latest ones of the transcript. -/
def Carries (session : Session) : Prop :=
  ∀ stream, session.client.stream = some stream →
    stream.requests.reverse <+: session.current.filterMap Occurrence.request?

/-- A move that sends nothing can only take requests from the stream. -/
theorem isSuffix_requests {client after : Client} {move : Move} (moves : client.Moves move after)
    (noGreeting : move ≠ .connect) (unsent : move ≠ .send) {stream : Stream}
    (found : after.stream = some stream) :
    ∃ old, client.stream = some old ∧ stream.requests <:+ old.requests := by
  cases moves with
  | connect wants => exact absurd rfl noGreeting
  | send held due room => exact absurd rfl unsent
  | refuse wants => cases found
  | fail held broken => cases found
  | stop stopping heeds => cases found
  | receive waits held next =>
      cases found
      exact ⟨_, held, List.suffix_refl _⟩
  | answer message held room =>
      cases found
      exact ⟨_, held, List.suffix_refl _⟩
  | @read old request rest held next =>
      cases found
      refine ⟨old, held, ?_⟩
      rw [next]
      exact List.suffix_cons request rest
  | refuseRequests held =>
      cases found
      exact ⟨_, held, List.nil_suffix⟩
  | finish held =>
      cases found
      exact ⟨_, held, List.nil_suffix⟩
  | _ => exact ⟨stream, found, List.suffix_refl _⟩

theorem Carries.move {before after : Session} {move : Move} (carries : before.Carries)
    (moved : before.move? move = some after) : after.Carries := by
  obtain ⟨client, clientMoved, rfl⟩ := Option.map_eq_some_iff.mp moved
  have moves := Client.move?_eq_some_iff.mp clientMoved
  intro stream found
  rw [client_follow] at found
  by_cases greets : move = .connect
  · subst greets
    cases moves
    cases found
    exact List.nil_prefix
  by_cases sends : move = .send
  · subst sends
    cases moves with
    | @send old request held outgoing room =>
        rcases Client.stream_advance (before.client.withStream (old.addRequest request)) with
          same | none
        · rw [same] at found
          cases found
          have extended : request :: old.requests.reverse <+:
              request :: before.current.filterMap Occurrence.request? :=
            List.cons_prefix_cons.mpr ⟨rfl, carries old held⟩
          simpa [follow, Client.occurrence?, outgoing, Stream.addRequest, Occurrence.request?] using
            extended
        · rw [none] at found
          cases found
  obtain ⟨old, held, isPart⟩ := isSuffix_requests moves greets sends found
  rw [requests_follow greets sends]
  exact (List.reverse_prefix.mpr isPart).trans (carries old held)

theorem Carries.of_run {before after : Session} {moves : List Move} (carries : before.Carries)
    (run : before.run? moves = some after) : after.Carries :=
  run?_induction (fun _ _ _ carries moved => carries.move moved) carries run

theorem Carries.run {config : Config} {moves : List Move} {session : Session}
    (run : (create config).run? moves = some session) : session.Carries :=
  Carries.of_run (fun _ found => by cases found) run

theorem node_of_move? {before after : Session} {move : Move}
    (moved : before.move? move = some after) : after.client.node = before.client.node := by
  obtain ⟨client, clientMoved, rfl⟩ := Option.map_eq_some_iff.mp moved
  rw [client_follow]
  exact congrArg Config.node (Client.move?_eq_some_iff.mp clientMoved).config_eq

theorem node_of_run {before after : Session} {moves : List Move}
    (run : before.run? moves = some after) : after.client.node = before.client.node := by
  induction moves generalizing before with
  | nil =>
      cases run
      rfl
  | cons move rest inductionHypothesis =>
      obtain ⟨next, moved, run⟩ := Option.bind_eq_some_iff.mp run
      rw [inductionHypothesis run, node_of_move? moved]

end Session

end MeshAccess.Discovery
