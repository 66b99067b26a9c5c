import MeshAccess.Discovery.Simulation
import MeshAccess.Proofs.Discovery.Replication

/-! This file says when someone learns that a client is synchronized. -/

namespace MeshAccess.Discovery

namespace Client

/-- A client becomes another one in some moves. -/
def Reaches (client later : Client) : Prop := ∃ moves, client.run? moves = some later

theorem run?_append (client : Client) (first second : List Move) :
    client.run? (first ++ second) = (client.run? first).bind fun later => later.run? second := by
  induction first generalizing client with
  | nil => rfl
  | cons move rest inductionHypothesis =>
      rw [List.cons_append, run?, run?]
      cases client.move? move with
      | none => rfl
      | some next => exact inductionHypothesis next

namespace Reaches

variable {client later last : Client}

theorem refl (client : Client) : client.Reaches client := ⟨[], rfl⟩

theorem trans (first : client.Reaches later) (second : later.Reaches last) :
    client.Reaches last := by
  obtain ⟨moves, run⟩ := first
  obtain ⟨others, otherRun⟩ := second
  refine ⟨moves ++ others, ?_⟩
  rw [run?_append, run]
  exact otherRun

theorem of_moves {move : Move} (moves : client.Moves move later) : client.Reaches later := by
  refine ⟨[move], ?_⟩
  rw [run?, move?_eq_some_iff.mpr moves]
  rfl

/-- Nothing happens if a move of the surroundings is impossible. -/
theorem undergo (client : Client) (move : Move) :
    client.Reaches ((client.undergo? move).getD client) := by
  cases undergone : client.undergo? move with
  | none => exact refl client
  | some after => exact of_moves (moves_of_undergo? undergone)

end Reaches

end Client

/-- The event tells an observer that the client is synchronized. -/
def Event.isGoodNews : Event → Bool
  | .observed (.ok _) => true
  | _ => false

namespace Simulation

/-- The moves of a client are no good news by themselves. -/
theorem silent_events (move : Move) (before after : Client) :
    ∀ event ∈ events move before after, event.isGoodNews = false := by
  intro event happened
  simp only [events, List.mem_append] at happened
  rcases happened with (own | delivered) | closed
  · cases move with
    | send =>
        obtain ⟨request, _, rfl⟩ := List.mem_map.mp own
        rfl
    | connect =>
        rw [List.mem_singleton.mp own]
        rfl
    | refuse =>
        rw [List.mem_singleton.mp own]
        rfl
    | _ => cases own
  · obtain ⟨delivery, _, rfl⟩ := List.mem_map.mp delivered
    rfl
  · split at closed
    · rw [List.mem_singleton.mp closed]
      rfl
    · cases closed

/-- The client makes a run from one simulation to the other. All good news in between is true. -/
structure Leads (before after : Simulation) : Prop where
  reaches : before.client.Reaches after.client
  isTrue : ∀ record ∈ after.records, record.event.isGoodNews = true → record ∈ before.records ∨
    ∃ client, before.client.Reaches client ∧ client.Reaches after.client ∧
      client.progress.replica.isSynced = true ∧ client.clock = record.time

variable {before middle after simulation : Simulation}

namespace Leads

/-- A run without any news. -/
theorem of_reaches (reaches : before.client.Reaches after.client)
    (records : after.records = before.records) : before.Leads after where
  reaches := reaches
  isTrue _ member _ := .inl (records ▸ member)

theorem of_same (client : after.client = before.client)
    (records : after.records = before.records) : before.Leads after :=
  .of_reaches (client ▸ .refl _) records

theorem refl (simulation : Simulation) : simulation.Leads simulation := .of_same rfl rfl

theorem trans (first : before.Leads middle) (second : middle.Leads after) :
    before.Leads after where
  reaches := first.reaches.trans second.reaches
  isTrue record member good := by
    rcases second.isTrue record member good with known | ⟨client, reached, leaves, facts⟩
    · rcases first.isTrue record known good with known | ⟨client, reached, leaves, facts⟩
      · exact .inl known
      · exact .inr ⟨client, reached, leaves.trans second.reaches, facts⟩
    · exact .inr ⟨client, first.reaches.trans reached, leaves, facts⟩

/-- News without good news. -/
theorem record (simulation : Simulation) {events : List Event}
    (silent : ∀ event ∈ events, event.isGoodNews = false) :
    simulation.Leads (simulation.record events) where
  reaches := .refl _
  isTrue record member good := by
    rcases List.mem_append.mp member with known | new
    · exact .inl known
    · obtain ⟨event, happened, rfl⟩ := List.mem_map.mp new
      exact absurd good (ne_true_of_eq_false (silent event happened))

/-- Only those who wait for a synchronized client get good news. -/
theorem notify (simulation : Simulation) : simulation.Leads simulation.notify := by
  rw [Simulation.notify]
  split
  · next synced =>
      refine ⟨.refl _, fun record member _ => ?_⟩
      rcases List.mem_append.mp member with known | new
      · exact .inl known
      · obtain ⟨event, _, rfl⟩ := List.mem_map.mp new
        exact .inr ⟨simulation.client, .refl _, .refl _, synced, rfl⟩
  · exact .refl simulation

theorem expire (simulation : Simulation) : simulation.Leads simulation.expire := by
  have silent : ∀ event ∈ (simulation.deadlines.partition (· ≤ simulation.client.clock)).1.map
      fun _ => Event.observed (.error
        (.bootstrapTimeout simulation.client.config.bootstrapTimeout)),
      event.isGoodNews = false := by
    intro event happened
    obtain ⟨_, _, rfl⟩ := List.mem_map.mp happened
    rfl
  exact (record simulation silent).trans (.of_same rfl rfl)

theorem follow {move : Move} {client : Client} (moves : simulation.client.Moves move client) :
    simulation.Leads (simulation.follow move client) := by
  have reaches : simulation.client.Reaches ((client.undergo? .read).getD client) :=
    (Client.Reaches.of_moves moves).trans (.undergo client .read)
  unfold Simulation.follow
  refine Leads.trans ?_ (notify _)
  refine Leads.trans ?_ (record _ (silent_events _ _ _))
  exact of_reaches reaches rfl

theorem step (stepped : before.step? = some after) : before.Leads after := by
  obtain ⟨move, _, found⟩ := List.exists_of_findSome?_eq_some stepped
  obtain ⟨client, acted, rfl⟩ := Option.map_eq_some_iff.mp found
  exact follow (Client.moves_of_act? acted)

theorem stepWithin (count : Nat) (simulation : Simulation) :
    simulation.Leads (simulation.stepWithin count) := by
  induction count generalizing simulation with
  | zero => exact refl simulation
  | succ count inductionHypothesis =>
      rw [Simulation.stepWithin]
      split
      · next following stepped => exact (step stepped).trans (inductionHypothesis following)
      · exact refl simulation

theorem settle (simulation : Simulation) : simulation.Leads simulation.settle :=
  stepWithin simulation.moveBound simulation

theorem disturb (simulation : Simulation) (move : Move) :
    simulation.Leads (simulation.disturb move) := by
  rw [Simulation.disturb]
  refine Leads.trans ?_ (settle _)
  exact of_reaches (.undergo simulation.client move) rfl

theorem moveTo (simulation : Simulation) (time : Nat) :
    simulation.Leads (simulation.moveTo time) := (disturb simulation _).trans (expire _)

theorem passWithin (count time : Nat) (simulation : Simulation) :
    simulation.Leads (simulation.passWithin count time) := by
  induction count generalizing simulation with
  | zero => exact moveTo simulation time
  | succ count inductionHypothesis =>
      rw [Simulation.passWithin]
      split
      · split
        · next timer _ _ => exact (moveTo simulation timer).trans (inductionHypothesis _)
        · exact moveTo simulation time
      · exact moveTo simulation time

theorem observe (simulation : Simulation) : simulation.Leads simulation.observe := by
  have waiting : simulation.Leads { simulation.disturb .start with
      deadlines := (simulation.disturb .start).deadlines ++
        [Clock.deadline (simulation.disturb .start).client.clock
          (simulation.disturb .start).client.config.bootstrapTimeout] } :=
    (disturb simulation .start).trans (.of_same rfl rfl)
  exact (waiting.trans (notify _)).trans (expire _)

theorem obey (simulation : Simulation) (command : Command) :
    simulation.Leads (simulation.obey command) := by
  cases command with
  | observe => exact observe simulation
  | refuseNext count => exact .of_same rfl rfl
  | pass milliseconds => exact passWithin _ _ simulation
  | _ => exact disturb simulation _

end Leads

/-- All good news after a command is about a synchronized client on the run that the command makes. -/
theorem isSynced_of_perform (simulation : Simulation) (command : Command) {record : Record}
    (member : record ∈ (simulation.perform command).report) (good : record.event.isGoodNews = true) :
    ∃ client, simulation.client.Reaches client ∧
      client.Reaches (simulation.perform command).client ∧
      client.progress.replica.isSynced = true ∧ client.clock = record.time := by
  have leads := Leads.obey { simulation with records := [] } command
  rcases leads.isTrue record (List.mem_mergeSort.mp member) good with known | found
  · cases known
  · exact found

end Simulation

/-- In every run, the replica of a client follows the responses that count, and every observer who gets
good news gets it about a synchronized client. -/
theorem Client.replicates_pushes :
    (∀ (config : Config) (listenerConsumers routeConsumers : Nat) (moves : List Move)
      (client : Client),
      (prepare config listenerConsumers routeConsumers).run? moves = some client →
        ∃ session,
          (Session.start (prepare config listenerConsumers routeConsumers)).run? moves =
            some session ∧
          session.client = client ∧ session.Replicates listenerConsumers routeConsumers) ∧
    ∀ (simulation : Simulation) (command : Command) (record : Record),
      record ∈ (simulation.perform command).report → record.event.isGoodNews = true →
        ∃ client, simulation.client.Reaches client ∧
          client.Reaches (simulation.perform command).client ∧
          client.progress.replica.isSynced = true ∧ client.clock = record.time := by
  refine ⟨fun config listenerConsumers routeConsumers moves client run => ?_,
    fun simulation command record => simulation.isSynced_of_perform command⟩
  obtain ⟨session, sessionRun, same⟩ := Session.exists_run? run
  exact ⟨session, sessionRun, same, Session.replicates_of_run sessionRun⟩

namespace Client

def noClusters : Response := ⟨"1", [], ResourceKind.cluster.typeUrl, "a"⟩

def noListeners : Response := ⟨"2", [], ResourceKind.listener.typeUrl, "b"⟩

/-- A client finds no clusters, and no listeners either. It loses its stream, and opens another one on
which listeners come too early. -/
def earlyListeners : List Move :=
  [.start, .connect, .send, .answer (.ok noClusters), .receive, .send, .send,
    .answer (.ok noListeners), .receive, .send, .finish, .fail, .pass 3000, .wake, .connect, .send,
    .answer (.ok noListeners), .receive, .send]

/-- Someone waits for a client that has found no clusters. -/
def awaitingListeners : Simulation :=
  [.observe, .answer (.ok noClusters)].foldl Simulation.perform (.create {})

theorem replicates_earlyListeners :
    (∃ client, (prepare {} 2 1).run? earlyListeners = some client ∧
      client.progress.replica.isSynced = true ∧
      ∃ session, (Session.start (prepare {} 2 1)).run? earlyListeners = some session ∧
        session.client = client ∧ session.Replicates 2 1) ∧
    ∃ record ∈ (awaitingListeners.perform (.answer (.ok noListeners))).report,
      record.event.isGoodNews = true ∧
      ∃ client, awaitingListeners.client.Reaches client ∧
        client.Reaches (awaitingListeners.perform (.answer (.ok noListeners))).client ∧
        client.progress.replica.isSynced = true ∧ client.clock = record.time := by
  refine ⟨⟨_, rfl, rfl, replicates_pushes.1 {} 2 1 earlyListeners _ rfl⟩, ?_⟩
  have told : (awaitingListeners.perform (.answer (.ok noListeners))).records.any
      (fun record => record.event.isGoodNews) = true := by decide +kernel
  obtain ⟨record, member, good⟩ := List.any_eq_true.mp told
  have reported : record ∈ (awaitingListeners.perform (.answer (.ok noListeners))).report :=
    List.mem_mergeSort.mpr member
  exact ⟨record, reported, good, replicates_pushes.2 _ _ record reported good⟩

end Client

end MeshAccess.Discovery
