import MeshAccess.Discovery.ConfigFile
import MeshAccess.Proofs.Discovery.Moves

/-! This file says when a client can set its polling timer. -/

namespace MeshAccess.Discovery

namespace Config

/-- A polling timer that is set now would go off after the last instant. -/
def OverflowsAt (config : Config) (now : Nat) : Prop :=
  0 < config.pollingSeconds ∧ Clock.bound ≤ now + 1000 * config.pollingSeconds

instance (config : Config) (now : Nat) : Decidable (config.OverflowsAt now) :=
  inferInstanceAs (Decidable (_ ∧ _))

/-- The first deadline of a polling timer that is set now. There is none without polling. -/
def firstPoll? (config : Config) (now : Nat) : Option Nat :=
  if config.pollingSeconds = 0 then none else some (now + 1000 * config.pollingSeconds)

theorem milliseconds_ofSeconds (seconds : Nat) :
    (Duration.ofSeconds seconds).milliseconds = 1000 * seconds := by
  simp [Duration.ofSeconds, Duration.milliseconds]

theorem milliseconds_pos_of_pollingInterval? {config : Config} {period : Duration}
    (polls : config.pollingInterval? = some period) : 0 < period.milliseconds := by
  rw [pollingInterval?, Option.ite_none_left_eq_some] at polls
  obtain ⟨positive, same⟩ := polls
  cases same
  rw [milliseconds_ofSeconds]
  omega

end Config

namespace Client

/-- The client is about to send the first request of a stream. -/
def IsGreeting (client : Client) : Prop := ∃ send, client.activity = .opening [send]

/-- The timer is set, unless its deadline is too far away. -/
theorem serve_eq (client : Client) :
    client.serve =
      if client.config.OverflowsAt client.clock then
        { client with activity := .crashed, stream := none }
      else { client with activity := .serving [] (client.config.firstPoll? client.clock) } := by
  by_cases silent : client.config.pollingSeconds = 0
  · have never : ¬ client.config.OverflowsAt client.clock := fun overflows =>
      absurd overflows.1 (by omega)
    rw [serve, Config.pollingInterval?, if_pos silent, if_neg never, Config.firstPoll?,
      if_pos silent]
  · rw [serve, Config.pollingInterval?, if_neg silent, Config.firstPoll?, if_neg silent]
    dsimp only
    rw [Clock.after?, Config.milliseconds_ofSeconds]
    by_cases fits : client.clock + 1000 * client.config.pollingSeconds < Clock.bound
    · have reached : ¬ client.config.OverflowsAt client.clock := fun overflows =>
        absurd overflows.2 (Nat.not_le.mpr fits)
      rw [if_pos fits, if_neg reached]
    · have overflows : client.config.OverflowsAt client.clock :=
        ⟨Nat.pos_of_ne_zero silent, Nat.not_lt.mp fits⟩
      rw [if_neg fits, if_pos overflows]

theorem activity_advance {client : Client} {send : Request × Progress}
    (greets : client.activity = .opening [send]) :
    client.advance.activity =
      if client.config.OverflowsAt client.clock then .crashed
      else .serving [] (client.config.firstPoll? client.clock) := by
  have served : client.advance = serve { client with progress := send.2 } := by
    rw [advance, greets]
    rfl
  rw [served, serve_eq]
  dsimp only
  split <;> rfl

variable {client after : Client} {move : Move}

/-- A client with something to send sets a timer only after the last request of its greeting. -/
theorem advance_crashed_iff {request : Request} (due : client.outgoing? = some request) :
    client.advance.activity = .crashed ↔
      client.IsGreeting ∧ client.config.OverflowsAt client.clock := by
  rw [outgoing?] at due
  split at due
  next progress rest opening =>
    cases rest with
    | nil =>
        have greets : client.IsGreeting := ⟨_, opening⟩
        rw [activity_advance opening]
        split <;> simp [*]
    | cons next others => simp [advance, opening, IsGreeting]
  next progress rest nextPoll serving => simp [advance, serving, IsGreeting]
  next => cases due

/-- A client crashes when it sets a timer that overflows, and by nothing else. -/
theorem Moves.crashed_iff (moves : client.Moves move after) :
    after.activity = .crashed ↔ client.activity = .crashed ∨
      move = .send ∧ client.IsGreeting ∧ client.config.OverflowsAt client.clock := by
  cases moves with
  | start idle => simp [idle]
  | connect wants =>
      rw [wantsStream] at wants
      grind
  | refuse wants =>
      rw [wantsStream] at wants
      grind [giveUp]
  | @send stream request held due room =>
      have alive : client.activity ≠ .crashed := by
        rw [outgoing?] at due
        grind
      have stillDue : (client.withStream (stream.addRequest request)).outgoing? = some request := due
      rw [advance_crashed_iff stillDue]
      simp only [alive, false_or, true_and]
      rfl
  | receive waits held next => simp [begin, waits]
  | fail held broken =>
      rw [findsFailure, outgoing?, isWaiting] at broken
      grind [giveUp]
  | poll waits polls due => simp [begin, waits]
  | wake sleeps due => simp [sleeps]
  | stop stopping heeds =>
      rw [heedsSignal] at heeds
      grind
  | _ => simp [withStream]

theorem run?_crashed_iff {moves : List Move} (run : client.run? moves = some after) :
    after.activity = .crashed ↔ client.activity = .crashed ∨
      ∃ before later greeting, moves = before ++ .send :: later ∧
        client.run? before = some greeting ∧ greeting.IsGreeting ∧
          client.config.OverflowsAt greeting.clock := by
  induction moves generalizing client with
  | nil =>
      cases run
      simp
  | cons move rest inductionHypothesis =>
      obtain ⟨next, moved, run⟩ := Option.bind_eq_some_iff.mp run
      have moves := move?_eq_some_iff.mp moved
      rw [inductionHypothesis run, moves.crashed_iff, moves.config_eq, or_assoc]
      refine or_congr_right ⟨?_, ?_⟩
      · rintro (⟨rfl, greets, overflows⟩ | ⟨before, later, greeting, rfl, reached, facts⟩)
        · exact ⟨[], rest, client, rfl, rfl, greets, overflows⟩
        · refine ⟨move :: before, later, greeting, rfl, ?_, facts⟩
          rw [run?, moved]
          exact reached
      · rintro ⟨before, later, greeting, same, reached, greets, overflows⟩
        cases before with
        | nil =>
            cases reached
            exact .inl ⟨(List.cons.inj same).1, greets, overflows⟩
        | cons first others =>
            obtain ⟨rfl, rfl⟩ := List.cons.inj same
            rw [run?, moved] at reached
            exact .inr ⟨others, later, greeting, rfl, reached, greets, overflows⟩

/-- When a client sets its polling timers on a run, and what becomes of them. -/
structure TimesPolls (start : Client) (moves : List Move) (client : Client) : Prop where
  /-- The period of a timer is not zero. -/
  positive : ∀ period, client.config.pollingInterval? = some period → 0 < period.milliseconds
  /-- The timer of a stream is set right after its first request, if its deadline is an instant. -/
  deadline : ∀ next, client.IsGreeting → ¬ client.config.OverflowsAt client.clock →
    client.move? .send = some next →
      next.activity = .serving [] (client.config.firstPoll? client.clock)
  /-- The client crashes exactly when a timer that overflows is set. -/
  crashed_iff : client.activity = .crashed ↔
    ∃ before later greeting, moves = before ++ .send :: later ∧
      start.run? before = some greeting ∧ greeting.IsGreeting ∧
        start.config.OverflowsAt greeting.clock

/-- On every run, a client sets its polling timers without a crash until one of them overflows. -/
theorem timesPolls_of_run {config : Config} {listenerConsumers routeConsumers : Nat}
    {moves : List Move} {client : Client}
    (run : (prepare config listenerConsumers routeConsumers).run? moves = some client) :
    TimesPolls (prepare config listenerConsumers routeConsumers) moves client where
  positive _ polls := Config.milliseconds_pos_of_pollingInterval? polls
  deadline next greets fits moved := by
    obtain ⟨send, opening⟩ := greets
    cases move?_eq_some_iff.mp moved with
    | @send stream request held due room =>
        have greets : (client.withStream (stream.addRequest request)).activity = .opening [send] :=
          opening
        rw [activity_advance greets]
        exact if_neg fits
  crashed_iff := by
    rw [run?_crashed_iff run]
    exact or_iff_right nofun

/-- The configuration with the longest polling interval. -/
def slowest : Config := { pollingSeconds := Config.maxSeconds }

theorem timesPolls_slowest :
    ∃ client, (prepare slowest 0 0).run? [.start, .connect, .send] = some client ∧
      client.activity = .crashed ∧
      TimesPolls (prepare slowest 0 0) [.start, .connect, .send] client :=
  ⟨_, rfl, rfl, timesPolls_of_run rfl⟩

/-- A valid configuration does not keep a client from a crash, not even one that is read from a
file. -/
theorem not_spared_of_load :
    ¬ ∀ (files : Files) (path : String) (config : Config) (moves : List Move) (client : Client),
      Config.load files path = .ok config → (create config).run? moves = some client →
        client.activity ≠ .crashed := by
  intro spared
  have loaded : Config.load
      [("mesh.json", Text.Utf8.bytes "\x7b\"polling_interval_secs\":18446744073709551615\x7d")]
      "mesh.json" = .ok slowest := rfl
  exact spared _ _ _ [.start, .connect, .send] _ loaded rfl rfl

end Client

end MeshAccess.Discovery
