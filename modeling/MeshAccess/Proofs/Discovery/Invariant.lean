import MeshAccess.Proofs.Discovery.Session

/-! This file says how invariants of reactions become invariants of runs. -/

namespace MeshAccess.Discovery

namespace Reaction

/-- The transcript after all requests of a reaction. -/
def transcribe (reaction : Reaction) (earlier : Transcript) : Transcript :=
  reaction.requests.foldl (fun transcript request => .sent request :: transcript) earlier

@[simp] theorem transcribe_cons (start : Progress) (send : Request × Progress)
    (rest : List (Request × Progress)) (earlier : Transcript) :
    (Reaction.mk start (send :: rest)).transcribe earlier =
      (Reaction.mk send.2 rest).transcribe (.sent send.1 :: earlier) := rfl

theorem isSuffix_transcribe (reaction : Reaction) (earlier : Transcript) :
    earlier <:+ reaction.transcribe earlier := by
  rw [transcribe]
  induction reaction.requests generalizing earlier with
  | nil => exact List.suffix_refl earlier
  | cons request rest inductionHypothesis =>
      exact (List.suffix_cons _ earlier).trans (inductionHypothesis _)

@[simp] theorem finish_cons (start : Progress) (send : Request × Progress)
    (rest : List (Request × Progress)) :
    (Reaction.mk start (send :: rest)).finish = (Reaction.mk send.2 rest).finish := by
  cases rest with
  | nil => rfl
  | cons next others =>
      simp only [finish, after, List.take_length, List.getLast?_cons_cons]
      rw [List.getLast?_eq_some_getLast (List.cons_ne_nil next others)]
      rfl

end Reaction

namespace Session

/-- The progress of a client and the transcript of its stream always agree once the requests of a
reaction have been sent. -/
structure IsInvariant (node : Node) (agree : Progress → Transcript → Prop) : Prop where
  greet : ∀ (progress : Progress),
    agree (progress.greet node).finish ((progress.greet node).transcribe [])
  react : ∀ (progress : Progress) (transcript : Transcript) (response : Response),
    agree progress transcript → agree (progress.react response node).finish
      ((progress.react response node).transcribe (.received response :: transcript))
  poll : ∀ (progress : Progress) (transcript : Transcript),
    agree progress transcript → agree (progress.poll node).finish
      ((progress.poll node).transcribe (.ticked :: transcript))

/-- The transcript is the end of one that agrees with some progress. -/
def IsPart (agree : Progress → Transcript → Prop) (transcript : Transcript) : Prop :=
  ∃ progress whole, transcript <:+ whole ∧ agree progress whole

/-- The current transcript agrees with the progress of the client, and all of them are parts of
transcripts that do. -/
structure Agrees (agree : Progress → Transcript → Prop) (session : Session) : Prop where
  current : ∀ reaction, session.client.reaction? = some reaction →
    agree reaction.finish (reaction.transcribe session.current)
  parts : ∀ transcript ∈ session.transcripts, transcript = [] ∨ IsPart agree transcript

namespace Agrees

variable {agree : Progress → Transcript → Prop} {before after : Session}

/-- A client that reacts to nothing has seen no stream. -/
theorem start {client : Client} (idle : client.reaction? = none) :
    (start client).Agrees agree where
  current reaction found := by
    rw [show (Session.start client).client.reaction? = none from idle] at found
    cases found
  parts _ member := .inl (List.mem_singleton.mp member)

/-- What a reaction completes is enough for the current transcript. -/
theorem of_reaction {reaction : Reaction}
    (reacts : ∀ other, after.client.reaction? = some other → other = reaction)
    (completed : agree reaction.finish (reaction.transcribe after.current))
    (parts : ∀ transcript ∈ after.earlier, transcript = [] ∨ IsPart agree transcript) :
    after.Agrees agree where
  current other found := by
    rw [reacts other found]
    exact completed
  parts := by
    have part : IsPart agree after.current := ⟨_, _, reaction.isSuffix_transcribe _, completed⟩
    exact List.forall_mem_cons.mpr ⟨.inr part, parts⟩

/-- A client without a stream cannot break what its transcripts are. -/
theorem of_no_reaction (agrees : before.Agrees agree) (none : after.client.reaction? = none)
    (current : after.current = before.current) (earlier : after.earlier = before.earlier) :
    after.Agrees agree where
  current reaction found := by
    rw [none] at found
    cases found
  parts := by
    rw [transcripts, current, earlier]
    exact agrees.parts

theorem step (invariant : IsInvariant before.client.node agree) (agrees : before.Agrees agree)
    (step : before.Step after) : after.Agrees agree := by
  have earlierParts : ∀ transcript ∈ before.earlier, transcript = [] ∨ IsPart agree transcript :=
    (List.forall_mem_cons.mp agrees.parts).2
  cases step with
  | connects reaction current earlier =>
      refine of_reaction (fun _ found => Option.some.inj (found.symm.trans reaction)) ?_ ?_
      · rw [current]
        exact invariant.greet _
      · rw [earlier]
        exact agrees.parts
  | sends request progress rest due reaction next connected current earlier =>
      have completed := agrees.current _ due
      -- The completed transcript is the same before and after a request is sent.
      rw [Reaction.finish_cons, Reaction.transcribe_cons] at completed
      refine of_reaction reaction ?_ ?_
      · rw [current]
        exact completed
      · rw [earlier]
        exact earlierParts
  | receives response idle reaction current earlier =>
      have completed := agrees.current _ idle
      refine of_reaction (fun _ found => Option.some.inj (found.symm.trans reaction)) ?_ ?_
      · rw [current]
        exact invariant.react _ _ response completed
      · rw [earlier]
        exact earlierParts
  | polls idle reaction current earlier =>
      have completed := agrees.current _ idle
      refine of_reaction (fun _ found => Option.some.inj (found.symm.trans reaction)) ?_ ?_
      · rw [current]
        exact invariant.poll _ _ completed
      · rw [earlier]
        exact earlierParts
  | givesUp client current earlier =>
      refine of_no_reaction agrees ?_ current earlier
      rw [client]
      rfl
  | stops reaction progress connected current earlier =>
      exact of_no_reaction agrees reaction current earlier
  | stays reaction progress connected current earlier =>
      refine ⟨fun other found => ?_, ?_⟩
      · rw [reaction] at found
        rw [current]
        exact agrees.current other found
      · rw [transcripts, current, earlier]
        exact agrees.parts

/-- An invariant of the reactions is one of all runs. -/
theorem of_run (agrees : before.Agrees agree) (invariant : IsInvariant before.client.node agree)
    {moves : List Move} (run : before.run? moves = some after) : after.Agrees agree := by
  induction moves generalizing before with
  | nil =>
      cases run
      exact agrees
  | cons move rest inductionHypothesis =>
      obtain ⟨next, moved, run⟩ := Option.bind_eq_some_iff.mp run
      have known : IsInvariant next.client.node agree := by
        rw [node_of_move? moved]
        exact invariant
      exact inductionHypothesis (agrees.step invariant (step_of_move? moved)) known run

theorem run {config : Config} (invariant : IsInvariant config.node agree) {moves : List Move}
    (run : (Session.create config).run? moves = some after) : after.Agrees agree :=
  have begun : (Session.create config).Agrees agree := .start rfl
  begun.of_run invariant run

end Agrees

/-- A client that has no stream, and may open one, knows nothing about streams. -/
def ForgetsStreams (session : Session) : Prop :=
  session.client.isBetweenStreams = true → session.client.progress.subscriptions = .start

theorem ForgetsStreams.step {before after : Session} (forgets : before.ForgetsStreams)
    (step : before.Step after) : after.ForgetsStreams := by
  intro between
  cases step with
  | connects reaction current earlier =>
      rw [Client.isBetweenStreams_of_reaction? reaction] at between
      cases between
  | receives response idle reaction current earlier =>
      rw [Client.isBetweenStreams_of_reaction? reaction] at between
      cases between
  | polls idle reaction current earlier =>
      rw [Client.isBetweenStreams_of_reaction? reaction] at between
      cases between
  | sends request progress rest due reaction next connected current earlier =>
      rw [connected] at between
      cases between
  | stops reaction progress connected current earlier =>
      rw [connected] at between
      cases between
  | givesUp client current earlier =>
      rw [client]
      rfl
  | stays reaction progress connected current earlier =>
      rw [connected] at between
      rw [progress]
      exact forgets between

theorem ForgetsStreams.run {config : Config} {moves : List Move} {session : Session}
    (run : (create config).run? moves = some session) : session.ForgetsStreams :=
  run?_induction (fun _ _ _ forgets moved => forgets.step (step_of_move? moved)) (fun _ => rfl) run

end Session

end MeshAccess.Discovery
