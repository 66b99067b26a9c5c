import MeshAccess.Discovery.Config
import MeshAccess.Discovery.Reaction

/-!
This file holds the task that keeps a client up to date, as a machine with small moves.

The machine does not say which move comes next. A run is any sequence of possible moves of the
client, of its control plane and of the clock.
-/

namespace MeshAccess.Discovery

/-- A stream, as both of its ends see it. The oldest message comes first. -/
structure Stream where
  requests : List Request
  takesRequests : Bool
  responses : List (Except Failure Response)
  givesResponses : Bool

namespace Stream

/-- The number of messages that a stream holds in each direction. -/
def capacity : Nat := 32

def fresh : Stream := ⟨[], true, [], true⟩

/-- The client can put a request into the stream now. -/
def hasRoom (stream : Stream) : Bool :=
  stream.takesRequests && stream.requests.length < capacity

/-- The control plane can put a message into the stream now. -/
def canAnswer (stream : Stream) : Bool :=
  stream.givesResponses && stream.responses.length < capacity

def addRequest (stream : Stream) (request : Request) : Stream :=
  { stream with requests := stream.requests ++ [request] }

def addResponse (stream : Stream) (message : Except Failure Response) : Stream :=
  { stream with responses := stream.responses ++ [message] }

/-- The control plane takes no more requests, and forgets those that it has not read. -/
def refuseRequests (stream : Stream) : Stream :=
  { stream with requests := [], takesRequests := false }

/-- The control plane leaves the stream. -/
def finish (stream : Stream) : Stream := { stream.refuseRequests with givesResponses := false }

end Stream

namespace Clock

/-- The first millisecond that an instant cannot hold. Its seconds have 63 bits. -/
def bound : Nat := 1000 * Nat.pow 2 63

/-- A time so far away that it stands for never: thirty years. -/
def farAway : Nat := 1000 * 60 * 60 * 24 * 365 * 30

/-- The instant after a span, if there is one. -/
def after? (now : Nat) (span : Duration) : Option Nat :=
  if now + span.milliseconds < bound then some (now + span.milliseconds) else none

/-- The end of a span. A span that is too long ends far away. -/
def deadline (now : Nat) (span : Duration) : Nat := (after? now span).getD (now + farAway)

end Clock

/-- What the task of a client is about. The requests of a reaction are still to be sent. -/
inductive Activity where
  | idle
  | ready
  | opening (sends : List (Request × Progress))
  | serving (sends : List (Request × Progress)) (nextPoll : Option Nat)
  | sleeping (wake : Nat)
  | stopped
  | crashed

/-- A client with the stream that it holds. The clock counts milliseconds. -/
structure Client where
  config : Config
  progress : Progress
  activity : Activity
  stream : Option Stream
  clock : Nat
  isStopping : Bool

/-- What can happen to a client. -/
inductive Move where
  /-- The client starts its task. -/
  | start
  /-- The client opens a stream. -/
  | connect
  /-- The client finds no control plane. -/
  | refuse
  /-- The client sends the next request. -/
  | send
  /-- The client reads a response. -/
  | receive
  /-- The client finds its stream broken. -/
  | fail
  /-- The polling timer of the client goes off. -/
  | poll
  /-- The client wakes up for another stream. -/
  | wake
  /-- The client stops its task. -/
  | stop
  /-- The control plane sends a response or a failure. -/
  | answer (message : Except Failure Response)
  /-- The control plane reads a request. -/
  | read
  /-- The control plane takes no more requests. -/
  | refuseRequests
  /-- The control plane leaves the stream. -/
  | finish
  /-- Time passes. -/
  | pass (milliseconds : Nat)
  /-- Someone asks the client to stop. -/
  | signal

/-- The task of the client makes this move by itself. -/
def Move.isOwn : Move → Bool
  | .connect | .refuse | .send | .receive | .fail | .poll | .wake | .stop => true
  | _ => false

namespace Client

/-- A client that has not started. -/
def create (config : Config) : Client := ⟨config, .start, .idle, none, 0, false⟩

/-- A client that has not started, with the given numbers of further consumers. -/
def prepare (config : Config) (listenerConsumers routeConsumers : Nat) : Client :=
  { create config with progress := ⟨.start, .start listenerConsumers routeConsumers⟩ }

/-- The client, as it presents itself. -/
def node (client : Client) : Node := client.config.node

/-- The client without a stream. It sleeps before it tries again. -/
def giveUp (client : Client) : Client :=
  { client with
    progress := client.progress.reset
    activity := .sleeping (Clock.deadline client.clock client.config.reconnectDelay)
    stream := none }

/-- The client after its first request on a stream. The polling timer starts now. -/
def serve (client : Client) : Client :=
  match client.config.pollingInterval? with
  | none => { client with activity := .serving [] none }
  | some period =>
      match Clock.after? client.clock period with
      | some time => { client with activity := .serving [] (some time) }
      | none => { client with activity := .crashed, stream := none }

/-- The client with the first of its requests sent. -/
def advance (client : Client) : Client :=
  match client.activity with
  | .opening ((_, progress) :: rest) =>
      let next := { client with progress := progress }
      if rest.isEmpty then next.serve else { next with activity := .opening rest }
  | .serving ((_, progress) :: rest) nextPoll =>
      { client with progress := progress, activity := .serving rest nextPoll }
  | _ => client

/-- The request that the client wants to send. -/
def outgoing? (client : Client) : Option Request :=
  match client.activity with
  | .opening ((request, _) :: _) => some request
  | .serving ((request, _) :: _) _ => some request
  | _ => none

/-- The client waits for the next event on its stream. -/
def isWaiting (client : Client) : Bool :=
  match client.activity with
  | .serving [] _ => true
  | _ => false

/-- The client looks at the signal to stop. It does not do so while it sends. -/
def heedsSignal (client : Client) : Bool :=
  match client.activity with
  | .ready => true
  | .serving [] _ => true
  | .sleeping _ => true
  | _ => false

/-- The client would open a stream. -/
def wantsStream (client : Client) : Bool :=
  match client.activity with
  | .ready => !client.isStopping
  | _ => false

/-- The stream cannot be used any more. A client that sends finds this when its requests are not
taken. A client that waits finds it when it comes to a failure or to the end. -/
def findsFailure (client : Client) (stream : Stream) : Bool :=
  if client.outgoing?.isSome then !stream.takesRequests
  else client.isWaiting &&
    match stream.responses with
    | .error _ :: _ => true
    | .ok _ :: _ => false
    | [] => !stream.givesResponses

/-- The client starts to react. -/
def begin (client : Client) (reaction : Reaction) (nextPoll : Option Nat) : Client :=
  { client with progress := reaction.start, activity := .serving reaction.sends nextPoll }

def withStream (client : Client) (stream : Stream) : Client :=
  { client with stream := some stream }

/-- The client after one of its own moves, if the move is possible. -/
def act? (client : Client) (move : Move) : Option Client :=
  match move with
  | .connect =>
      if client.wantsStream then
        let reaction := client.progress.greet client.node
        some { client with
          progress := reaction.start
          activity := .opening reaction.sends
          stream := some .fresh }
      else none
  | .refuse => if client.wantsStream then some client.giveUp else none
  | .send => do
      let stream ← client.stream
      let request ← client.outgoing?
      if stream.hasRoom then some (client.withStream (stream.addRequest request)).advance else none
  | .receive =>
      match client.activity, client.stream with
      | .serving [] nextPoll, some ⟨requests, takesRequests, .ok response :: rest, givesResponses⟩ =>
          let next := client.withStream ⟨requests, takesRequests, rest, givesResponses⟩
          some (next.begin (client.progress.react response client.node) nextPoll)
      | _, _ => none
  | .fail => do
      let stream ← client.stream
      if client.findsFailure stream then some client.giveUp else none
  | .poll =>
      match client.activity, client.config.pollingInterval? with
      | .serving [] (some time), some period =>
          if time ≤ client.clock then
            some (client.begin (client.progress.poll client.node) (some (Clock.deadline time period)))
          else none
      | _, _ => none
  | .wake =>
      match client.activity with
      | .sleeping wake =>
          if wake ≤ client.clock then some { client with activity := .ready } else none
      | _ => none
  | .stop =>
      if client.isStopping && client.heedsSignal then
        some { client with activity := .stopped, stream := none }
      else none
  | _ => none

/-- The client after a move of its surroundings, if the move is possible. -/
def undergo? (client : Client) (move : Move) : Option Client :=
  match move with
  | .start =>
      match client.activity with
      | .idle => some { client with activity := .ready }
      | _ => none
  | .answer message => do
      let stream ← client.stream
      if stream.canAnswer then some (client.withStream (stream.addResponse message)) else none
  | .read =>
      match client.stream with
      | some ⟨_ :: rest, takesRequests, responses, givesResponses⟩ =>
          some (client.withStream ⟨rest, takesRequests, responses, givesResponses⟩)
      | _ => none
  | .refuseRequests => client.stream.map fun stream => client.withStream stream.refuseRequests
  | .finish => client.stream.map fun stream => client.withStream stream.finish
  | .pass milliseconds => some { client with clock := client.clock + milliseconds }
  | .signal => some { client with isStopping := true }
  | _ => none

/-- The client after a move, if the move is possible. -/
def move? (client : Client) (move : Move) : Option Client :=
  if move.isOwn then client.act? move else client.undergo? move

/-- The client after a sequence of moves, if all of them are possible. -/
def run? (client : Client) : List Move → Option Client
  | [] => some client
  | move :: rest => do (← client.move? move).run? rest

/-- The next time at which a timer of the client goes off. -/
def nextTimer? (client : Client) : Option Nat :=
  match client.activity with
  | .serving [] nextPoll => nextPoll
  | .sleeping wake => some wake
  | _ => none

end Client

end MeshAccess.Discovery
