import MeshAccess.Discovery.Client

/-! This file says what each move of a client needs and what it does. -/

namespace MeshAccess.Discovery.Client

/-- A move is possible, and leads from one client to another. -/
inductive Moves (client : Client) : Move → Client → Prop where
  | start (idle : client.activity = .idle) : Moves client .start { client with activity := .ready }
  | connect (wants : client.wantsStream = true) :
      Moves client .connect
        { client with
          progress := (client.progress.greet client.node).start
          activity := .opening (client.progress.greet client.node).sends
          stream := some .fresh }
  | refuse (wants : client.wantsStream = true) : Moves client .refuse client.giveUp
  | send {stream : Stream} {request : Request} (held : client.stream = some stream)
      (due : client.outgoing? = some request) (room : stream.hasRoom = true) :
      Moves client .send (client.withStream (stream.addRequest request)).advance
  | receive {stream : Stream} {response : Response} {rest : List (Except Failure Response)}
      {nextPoll : Option Nat} (waits : client.activity = .serving [] nextPoll)
      (held : client.stream = some stream) (next : stream.responses = .ok response :: rest) :
      Moves client .receive
        ((client.withStream { stream with responses := rest }).begin
          (client.progress.react response client.node) nextPoll)
  | fail {stream : Stream} (held : client.stream = some stream)
      (broken : client.findsFailure stream = true) : Moves client .fail client.giveUp
  | poll {time : Nat} {period : Duration} (waits : client.activity = .serving [] (some time))
      (polls : client.config.pollingInterval? = some period) (due : time ≤ client.clock) :
      Moves client .poll
        (client.begin (client.progress.poll client.node) (some (Clock.deadline time period)))
  | wake {time : Nat} (sleeps : client.activity = .sleeping time) (due : time ≤ client.clock) :
      Moves client .wake { client with activity := .ready }
  | stop (stopping : client.isStopping = true) (heeds : client.heedsSignal = true) :
      Moves client .stop { client with activity := .stopped, stream := none }
  | answer {stream : Stream} (message : Except Failure Response)
      (held : client.stream = some stream) (room : stream.canAnswer = true) :
      Moves client (.answer message) (client.withStream (stream.addResponse message))
  | read {stream : Stream} {request : Request} {rest : List Request}
      (held : client.stream = some stream) (next : stream.requests = request :: rest) :
      Moves client .read (client.withStream { stream with requests := rest })
  | refuseRequests {stream : Stream} (held : client.stream = some stream) :
      Moves client .refuseRequests (client.withStream stream.refuseRequests)
  | finish {stream : Stream} (held : client.stream = some stream) :
      Moves client .finish (client.withStream stream.finish)
  | pass (milliseconds : Nat) :
      Moves client (.pass milliseconds) { client with clock := client.clock + milliseconds }
  | signal : Moves client .signal { client with isStopping := true }

variable {client after : Client} {move : Move}

theorem moves_of_act? (acted : client.act? move = some after) : client.Moves move after := by
  cases move with
  | connect =>
      simp only [act?, Option.ite_none_right_eq_some, Option.some.injEq] at acted
      obtain ⟨wants, rfl⟩ := acted
      exact .connect wants
  | refuse =>
      simp only [act?, Option.ite_none_right_eq_some, Option.some.injEq] at acted
      obtain ⟨wants, rfl⟩ := acted
      exact .refuse wants
  | send =>
      simp only [act?, Option.bind_eq_bind, Option.bind_eq_some_iff,
        Option.ite_none_right_eq_some, Option.some.injEq] at acted
      obtain ⟨stream, held, request, due, room, rfl⟩ := acted
      exact .send held due room
  | receive =>
      simp only [act?] at acted
      split at acted
      · next nextPoll requests takesRequests response rest givesResponses waits held =>
          cases acted
          exact .receive waits held rfl
      · cases acted
  | fail =>
      simp only [act?, Option.bind_eq_bind, Option.bind_eq_some_iff,
        Option.ite_none_right_eq_some, Option.some.injEq] at acted
      obtain ⟨stream, held, broken, rfl⟩ := acted
      exact .fail held broken
  | poll =>
      simp only [act?] at acted
      split at acted
      · next time period waits polls =>
          simp only [Option.ite_none_right_eq_some, Option.some.injEq] at acted
          obtain ⟨due, rfl⟩ := acted
          exact .poll waits polls due
      · cases acted
  | wake =>
      simp only [act?] at acted
      split at acted
      · next time sleeps =>
          simp only [Option.ite_none_right_eq_some, Option.some.injEq] at acted
          obtain ⟨due, rfl⟩ := acted
          exact .wake sleeps due
      · cases acted
  | stop =>
      simp only [act?, Option.ite_none_right_eq_some, Bool.and_eq_true, Option.some.injEq] at acted
      obtain ⟨⟨stopping, heeds⟩, rfl⟩ := acted
      exact .stop stopping heeds
  | _ => cases acted

theorem moves_of_undergo? (undergone : client.undergo? move = some after) :
    client.Moves move after := by
  cases move with
  | start =>
      simp only [undergo?] at undergone
      split at undergone
      · next idle =>
          cases undergone
          exact .start idle
      · cases undergone
  | answer message =>
      simp only [undergo?, Option.bind_eq_bind, Option.bind_eq_some_iff,
        Option.ite_none_right_eq_some, Option.some.injEq] at undergone
      obtain ⟨stream, held, room, rfl⟩ := undergone
      exact .answer message held room
  | read =>
      simp only [undergo?] at undergone
      split at undergone
      · next request rest takesRequests responses givesResponses held =>
          cases undergone
          exact .read held rfl
      · cases undergone
  | refuseRequests =>
      obtain ⟨stream, held, rfl⟩ := Option.map_eq_some_iff.mp undergone
      exact .refuseRequests held
  | finish =>
      obtain ⟨stream, held, rfl⟩ := Option.map_eq_some_iff.mp undergone
      exact .finish held
  | pass milliseconds =>
      cases undergone
      exact .pass milliseconds
  | signal =>
      cases undergone
      exact .signal
  | _ => cases undergone

/-- The moves are exactly the possible ones. -/
theorem move?_eq_some_iff : client.move? move = some after ↔ client.Moves move after := by
  constructor
  · intro moved
    rw [move?] at moved
    split at moved
    · exact moves_of_act? moved
    · exact moves_of_undergo? moved
  · intro moves
    cases moves with
    | @receive stream response rest nextPoll waits held next =>
        obtain ⟨requests, takesRequests, responses, givesResponses⟩ := stream
        subst next
        simp only [move?, Move.isOwn, act?, waits, held, if_true]
    | @read stream request rest held next =>
        obtain ⟨requests, takesRequests, responses, givesResponses⟩ := stream
        subst next
        simp only [move?, Move.isOwn, undergo?, held, Bool.false_eq_true, if_false]
    | _ => simp_all [move?, Move.isOwn, act?, undergo?]

/-- A client keeps its configuration. -/
theorem Moves.config_eq (moves : client.Moves move after) : after.config = client.config := by
  cases moves with
  | send held due room =>
      unfold advance
      split
      · next request progress rest _ =>
          cases rest with
          | nil =>
              simp only [List.isEmpty_nil, if_true, serve]
              split
              · rfl
              · split <;> rfl
          | cons next others => rfl
      · rfl
      · rfl
  | _ => rfl

/-- What every move of a client preserves holds after every run. -/
theorem run?_induction {holds : Client → Prop}
    (preserved : ∀ before move after, holds before → before.Moves move after → holds after)
    {moves : List Move} (initially : holds client) (run : client.run? moves = some after) :
    holds after := by
  induction moves generalizing client with
  | nil =>
      cases run
      exact initially
  | cons move rest inductionHypothesis =>
      obtain ⟨next, moved, run⟩ := Option.bind_eq_some_iff.mp run
      exact inductionHypothesis (preserved client move next initially (move?_eq_some_iff.mp moved)) run

end MeshAccess.Discovery.Client
