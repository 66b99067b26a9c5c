import MeshAccess.Discovery.Client

/-!
This file runs a client against a control plane that reads every request at once.

The client makes all moves that it can. Time passes only on command, and stops at each timer.
-/

namespace MeshAccess.Discovery

/-- What can be seen of a client from the outside. -/
inductive Event where
  | connected
  | refused
  | delivered (delivery : Delivery)
  | observed (outcome : Except Failure Unit)
  | requested (request : Request)
  | closed

/-- The place of an event among those of the same time. -/
def Event.rank : Event → Nat
  | .connected | .refused => 0
  | .delivered _ => 1
  | .observed _ => 2
  | .requested _ | .closed => 3

/-- An event with its time. -/
structure Record where
  time : Nat
  event : Event

/-- A record may stand before another one. -/
def Record.precedes (first second : Record) : Bool :=
  first.time < second.time ||
    first.time = second.time && first.event.rank ≤ second.event.rank

/-- What is done to a client. -/
inductive Command where
  /-- The client starts. -/
  | start
  /-- The client stops. -/
  | stop
  /-- Someone waits for the first synchronization. -/
  | observe
  /-- The next connections are refused. -/
  | refuseNext (count : Nat)
  /-- The control plane sends a response or a failure. -/
  | answer (message : Except Failure Response)
  /-- The control plane takes no more requests. -/
  | refuseRequests
  /-- The control plane leaves the stream. -/
  | finish
  /-- Time passes. -/
  | pass (milliseconds : Nat)

/-- A client with its surroundings. Observers wait until their deadlines. The records are those of
the last command in the order in which they happened. -/
structure Simulation where
  client : Client
  refusals : Nat
  deadlines : List Nat
  records : List Record

namespace Simulation

def create (config : Config) : Simulation := ⟨.create config, 0, [], []⟩

def replica (simulation : Simulation) : Replica := simulation.client.progress.replica

def isSynced (simulation : Simulation) : Bool := simulation.replica.isSynced

/-- The control plane has a stream on which it can answer. -/
def hasStream (simulation : Simulation) : Bool :=
  simulation.client.stream.any Stream.givesResponses

def record (simulation : Simulation) (events : List Event) : Simulation :=
  { simulation with
    records := simulation.records ++ events.map fun event => ⟨simulation.client.clock, event⟩ }

/-- The control plane takes requests on the stream of a client. -/
def isHeard (client : Client) : Bool := client.stream.any Stream.takesRequests

/-- The events of a move of the client. -/
def events (move : Move) (before after : Client) : List Event :=
  let own : List Event := match move with
    | .connect => [.connected]
    | .refuse => [.refused]
    | .send => before.outgoing?.toList.map .requested
    | _ => []
  let deliveries :=
    after.progress.replica.deliveries.drop before.progress.replica.deliveries.length
  own ++ deliveries.map .delivered ++ if isHeard before && after.stream.isNone then [.closed] else []

/-- The observers learn that the client is synchronized. -/
def notify (simulation : Simulation) : Simulation :=
  if simulation.isSynced then
    { simulation.record (simulation.deadlines.map fun _ => .observed (.ok ())) with deadlines := [] }
  else simulation

/-- The simulation after a move of the client. The control plane reads what the client sends. -/
def follow (simulation : Simulation) (move : Move) (after : Client) : Simulation :=
  let read := (after.undergo? .read).getD after
  let refusals := match move with
    | .refuse => simulation.refusals - 1
    | _ => simulation.refusals
  let next := { simulation with client := read, refusals := refusals }
  (next.record (events move simulation.client after)).notify

/-- The moves of a client in the order in which they are tried. -/
def candidates (simulation : Simulation) : List Move :=
  [.stop, if simulation.refusals = 0 then .connect else .refuse, .send, .receive, .fail, .poll, .wake]

/-- The simulation after the next move of the client, if there is one. -/
def step? (simulation : Simulation) : Option Simulation :=
  simulation.candidates.findSome? fun move =>
    (simulation.client.act? move).map (simulation.follow move)

/-- The simulation after at most the given number of moves. -/
def stepWithin : Nat → Simulation → Simulation
  | 0, simulation => simulation
  | count + 1, simulation =>
      match simulation.step? with
      | some next => next.stepWithin count
      | none => simulation

/-- The moves that a client can make before something else happens. Each refusal costs two, and a
client reads, sends, gives up and greets in a few. -/
def moveBound (simulation : Simulation) : Nat :=
  let unread := (simulation.client.stream.map fun stream => stream.responses.length).getD 0
  2 * simulation.refusals + 8 * (unread + 2)

/-- The simulation once the client has nothing to do. -/
def settle (simulation : Simulation) : Simulation := simulation.stepWithin simulation.moveBound

/-- The observers whose deadline has come give up. -/
def expire (simulation : Simulation) : Simulation :=
  let (due, later) := simulation.deadlines.partition (· ≤ simulation.client.clock)
  let failure := Failure.bootstrapTimeout simulation.client.config.bootstrapTimeout
  { simulation.record (due.map fun _ => .observed (.error failure)) with deadlines := later }

/-- The simulation after a move of the surroundings. Nothing happens if the move is impossible. -/
def disturb (simulation : Simulation) (move : Move) : Simulation :=
  { simulation with client := (simulation.client.undergo? move).getD simulation.client }.settle

/-- The simulation at a later time, with what the timers of this time bring. -/
def moveTo (simulation : Simulation) (time : Nat) : Simulation :=
  (simulation.disturb (.pass (time - simulation.client.clock))).expire

/-- The next time at which a timer goes off. -/
def nextTimer? (simulation : Simulation) : Option Nat :=
  (simulation.client.nextTimer?.toList ++ simulation.deadlines).min?

/-- The simulation at a later time, after at most the given number of timers. -/
def passWithin : Nat → Nat → Simulation → Simulation
  | 0, time, simulation => simulation.moveTo time
  | count + 1, time, simulation =>
      match simulation.nextTimer? with
      | some next =>
          if next ≤ time then (simulation.moveTo next).passWithin count time
          else simulation.moveTo time
      | none => simulation.moveTo time

/-- The simulation after a time. The timer of the client goes off once in a millisecond at most. -/
def pass (simulation : Simulation) (milliseconds : Nat) : Simulation :=
  simulation.passWithin (milliseconds + simulation.deadlines.length + 1)
    (simulation.client.clock + milliseconds)

/-- The simulation after someone begins to wait for the first synchronization. -/
def observe (simulation : Simulation) : Simulation :=
  let started := simulation.disturb .start
  let deadline :=
    Clock.deadline started.client.clock started.client.config.bootstrapTimeout
  { started with deadlines := started.deadlines ++ [deadline] }.notify.expire

def obey (simulation : Simulation) : Command → Simulation
  | .start => simulation.disturb .start
  | .stop => simulation.disturb .signal
  | .observe => simulation.observe
  | .refuseNext count => { simulation with refusals := count }
  | .answer message => simulation.disturb (.answer message)
  | .refuseRequests => simulation.disturb .refuseRequests
  | .finish => simulation.disturb .finish
  | .pass milliseconds => simulation.pass milliseconds

/-- The simulation after a command, with the records of this command. -/
def perform (simulation : Simulation) (command : Command) : Simulation :=
  { simulation with records := [] }.obey command

/-- The records in their order. -/
def report (simulation : Simulation) : List Record :=
  simulation.records.mergeSort Record.precedes

end Simulation

end MeshAccess.Discovery
