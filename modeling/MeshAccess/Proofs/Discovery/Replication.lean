import MeshAccess.Proofs.Discovery.Reflection

/-! This file says what a client has learned on all of its streams. -/

namespace MeshAccess.Discovery

namespace Session

/-- The responses that counted for a kind on all streams. The latest one comes first. -/
def pushes (session : Session) (kind : ResourceKind) : List Response :=
  session.transcripts.flatMap (Transcript.admitted kind)

/-- A response that counted for a kind has been accepted on some stream. -/
def HasAcknowledged (session : Session) (kind : ResourceKind) : Prop :=
  ∃ transcript ∈ session.transcripts, transcript.HasAcknowledged kind

def replica (session : Session) : Replica := session.client.progress.replica

/-- What a move does to the replica. -/
inductive Updates (before after : Session) : Prop where
  | keeps (replica : after.replica = before.replica)
      (pushes : ∀ kind, after.pushes kind = before.pushes kind)
      (acknowledged : after.HasAcknowledged .listener ↔ before.HasAcknowledged .listener)
  | delivers (kind : ResourceKind) (response : Response)
      (admits : before.current.Admits kind response)
      (replica : after.replica = (before.client.progress.deliver kind response.resources).replica)
      (current : after.current = .received response :: before.current)
      (earlier : after.earlier = before.earlier)
  | synchronizes (request : Request) (acknowledges : before.current.Acknowledges .listener request)
      (replica : after.replica = before.replica.synchronize)
      (current : after.current = .sent request :: before.current)
      (earlier : after.earlier = before.earlier)

/-- The requests of the current reaction change the replica only by acknowledgements. -/
def Learns (session : Session) : Prop :=
  ∀ reaction, session.client.reaction? = some reaction →
    reaction.start.replica.Learns session.current reaction.sends

variable {before after : Session}

theorem pushes_eq (kind : ResourceKind) (admitted : after.current.admitted kind =
    before.current.admitted kind) (earlier : after.earlier = before.earlier) :
    after.pushes kind = before.pushes kind := by
  rw [pushes, pushes, transcripts, transcripts, List.flatMap_cons, List.flatMap_cons, admitted,
    earlier]

theorem hasAcknowledged_iff {session : Session} {kind : ResourceKind} :
    session.HasAcknowledged kind ↔ session.current.HasAcknowledged kind ∨
      ∃ transcript ∈ session.earlier, transcript.HasAcknowledged kind := by
  simp [HasAcknowledged, transcripts]

/-- A move that adds nothing of importance to the transcript. -/
theorem Updates.of_alike (replica : after.replica = before.replica)
    (admitted : ∀ kind, after.current.admitted kind = before.current.admitted kind)
    (acknowledged : after.current.HasAcknowledged .listener ↔
      before.current.HasAcknowledged .listener)
    (earlier : after.earlier = before.earlier) : before.Updates after :=
  .keeps replica (fun kind => pushes_eq kind (admitted kind) earlier)
    (by rw [hasAcknowledged_iff, hasAcknowledged_iff, acknowledged, earlier])

theorem replica_eq {reaction : Reaction} (reacts : after.client.reaction? = some reaction) :
    after.replica = reaction.start.replica :=
  congrArg Progress.replica (Client.progress_of_reaction? reacts)

theorem Learns.of_reaction {reaction : Reaction}
    (reacts : ∀ other, after.client.reaction? = some other → other = reaction)
    (learns : reaction.start.replica.Learns after.current reaction.sends) : after.Learns :=
  fun other found => reacts other found ▸ learns

/-- What a move does to the replica follows from what the client had still to send. -/
theorem Updates.of_step (agrees : before.Agrees (Progress.Concludes before.client.node))
    (learns : before.Learns) (step : before.Step after) : before.Updates after := by
  cases step with
  | connects reaction current earlier =>
      -- The new transcript is empty, and the old one becomes an earlier one.
      refine .keeps (replica_eq reaction) (fun kind => ?_) ?_
      · rw [pushes, transcripts, current, earlier]
        rfl
      · rw [hasAcknowledged_iff, current, earlier]
        exact or_iff_right (Transcript.not_hasAcknowledged_nil _)
  | sends request progress rest due reaction next connected current earlier =>
      have now : after.replica = progress.replica := congrArg Progress.replica next
      -- What was still to be sent says whether this request is an acknowledgement of listeners.
      cases learns _ due with
      | synchronize acknowledges synced _ =>
          exact .synchronizes request acknowledges (now.trans synced) current earlier
      | keep other same _ =>
          refine .of_alike (now.trans same) (fun kind => ?_) ?_ earlier
          · rw [current, Transcript.admitted_sent]
          · rw [current, Transcript.hasAcknowledged_sent]
            exact or_iff_right other
  | receives response idle reaction current earlier =>
      have track : before.client.progress.subscriptions.Track before.current :=
        (agrees.current _ idle).track
      by_cases expected : ∃ kind, before.client.progress.Expects kind response
      · obtain ⟨kind, expects⟩ := expected
        refine .delivers kind response (track.expects_iff.mp expects) ?_ current earlier
        rw [replica_eq reaction, Progress.react_of_expects expects]
        exact (Progress.learns_accept track expects _).1
      · have refuses := not_exists.mp expected
        obtain ⟨message, rejects⟩ := Progress.react_of_not_expects refuses before.client.node
        refine .of_alike ?_ (fun kind => ?_) ?_ earlier
        · rw [replica_eq reaction, rejects]
          rfl
        · rw [current]
          exact Transcript.admitted_of_not_admits fun admits =>
            refuses kind (track.expects_iff.mpr admits)
        · rw [current, Transcript.hasAcknowledged_received]
  | polls idle reaction current earlier =>
      refine .of_alike (replica_eq reaction) (fun kind => ?_) ?_ earlier
      · rw [current, Transcript.admitted_ticked]
      · rw [current, Transcript.hasAcknowledged_ticked]
  | givesUp client current earlier =>
      refine .of_alike ?_ (fun kind => by rw [current]) (by rw [current]) earlier
      rw [replica, client]
      rfl
  | stops reaction progress connected current earlier =>
      exact .of_alike (congrArg Progress.replica progress) (fun kind => by rw [current])
        (by rw [current]) earlier
  | stays reaction progress connected current earlier =>
      exact .of_alike (congrArg Progress.replica progress) (fun kind => by rw [current])
        (by rw [current]) earlier

theorem Learns.step (agrees : before.Agrees (Progress.Concludes before.client.node))
    (learns : before.Learns) (step : before.Step after) : after.Learns := by
  cases step with
  | connects reaction current earlier =>
      refine .of_reaction (fun _ found => Option.some.inj (found.symm.trans reaction)) ?_
      rw [current]
      exact Progress.learns_greet _ _
  | sends request progress rest due reaction next connected current earlier =>
      refine .of_reaction reaction ?_
      rw [current]
      cases learns _ due with
      | synchronize _ _ learns => exact learns
      | keep _ _ learns => exact learns
  | receives response idle reaction current earlier =>
      refine .of_reaction (fun _ found => Option.some.inj (found.symm.trans reaction)) ?_
      rw [current]
      exact Progress.learns_react (agrees.current _ idle).track response _
  | polls idle reaction current earlier =>
      refine .of_reaction (fun _ found => Option.some.inj (found.symm.trans reaction)) ?_
      rw [current]
      exact Progress.learns_pollOf _ _ rfl _
  | givesUp client current earlier =>
      intro reaction found
      rw [client] at found
      cases found
  | stops reaction progress connected current earlier =>
      intro other found
      rw [reaction] at found
      cases found
  | stays reaction progress connected current earlier =>
      intro other found
      rw [reaction] at found
      rw [current]
      exact learns other found

/-- The replica shows what has counted on all streams. -/
structure Mirrors (listenerConsumers routeConsumers : Nat) (session : Session) : Prop where
  reflects : session.replica.Reflects listenerConsumers routeConsumers session.pushes
  isSynced : session.replica.isSynced = true ↔ session.HasAcknowledged .listener

theorem Mirrors.update {listenerConsumers routeConsumers : Nat}
    (mirrors : before.Mirrors listenerConsumers routeConsumers) (updates : before.Updates after) :
    after.Mirrors listenerConsumers routeConsumers := by
  cases updates with
  | keeps replica pushes acknowledged =>
      constructor
      · rw [replica]
        exact mirrors.reflects.congr (pushes .listener) (pushes .route)
      · rw [replica, acknowledged, mirrors.isSynced]
  | delivers kind response admits replica current earlier =>
      constructor
      · rw [replica]
        refine Progress.reflects_deliver mirrors.reflects ?_ fun other different => ?_
        · rw [pushes, transcripts, List.flatMap_cons, current, earlier,
            Transcript.admitted_of_admits admits]
          rfl
        · refine pushes_eq other ?_ earlier
          rw [current]
          exact Transcript.admitted_of_not_admits (Transcript.not_admits_of_ne admits.1 different)
      · rw [replica, Progress.isSynced_deliver, hasAcknowledged_iff, current, earlier,
          Transcript.hasAcknowledged_received, ← hasAcknowledged_iff]
        exact mirrors.isSynced
  | synchronizes request acknowledges replica current earlier =>
      have same (kind : ResourceKind) : after.pushes kind = before.pushes kind :=
        pushes_eq kind (by rw [current, Transcript.admitted_sent]) earlier
      constructor
      · rw [replica]
        exact mirrors.reflects.synchronize.congr (same .listener) (same .route)
      · rw [replica, hasAcknowledged_iff, current, Transcript.hasAcknowledged_sent]
        exact iff_of_true rfl (.inl (.inl acknowledges))

theorem Updates.isSynced (updates : before.Updates after)
    (synced : before.replica.isSynced = true) : after.replica.isSynced = true := by
  cases updates with
  | keeps replica pushes acknowledged => rw [replica, synced]
  | delivers kind response admits replica current earlier =>
      rw [replica, Progress.isSynced_deliver]
      exact synced
  | synchronizes request acknowledges replica current earlier =>
      rw [replica]
      rfl

/-- Only a response adds itself to a transcript, and only a request that is sent does. -/
theorem move_eq_of_current {move : Move} (moved : before.move? move = some after) :
    (∀ response, after.current = .received response :: before.current → move = .receive) ∧
      ∀ request, after.current = .sent request :: before.current → move = .send := by
  obtain ⟨client, _, rfl⟩ := Option.map_eq_some_iff.mp moved
  cases move with
  | send =>
      refine ⟨fun response same => ?_, fun _ _ => rfl⟩
      simp only [follow, Client.occurrence?] at same
      cases outgoing : before.client.outgoing? <;> simp [outgoing] at same
  | receive =>
      refine ⟨fun _ _ => rfl, fun request same => ?_⟩
      simp only [follow, Client.occurrence?] at same
      split at same <;> simp at same
  | _ => exact ⟨fun _ same => by simp [follow, Client.occurrence?] at same,
      fun _ same => by simp [follow, Client.occurrence?] at same⟩

/-- A move changes the replica when it brings listeners or routes that count, or when it acknowledges
listeners. No other move does. -/
theorem Updates.changes {move : Move} (updates : before.Updates after)
    (moved : before.move? move = some after) :
    after.replica = before.replica ∨
      (move = .receive ∧ ∃ kind response, (kind = .listener ∨ kind = .route) ∧
        before.current.Admits kind response ∧
        after.current = .received response :: before.current) ∨
      move = .send ∧ ∃ request, before.current.Acknowledges .listener request ∧
        after.current = .sent request :: before.current := by
  have moves := move_eq_of_current moved
  cases updates with
  | keeps replica pushes acknowledged => exact .inl replica
  | delivers kind response admits replica current earlier =>
      by_cases counts : kind = .listener ∨ kind = .route
      · exact .inr (.inl ⟨moves.1 response current, kind, response, counts, admits, current⟩)
      · obtain ⟨noListener, noRoute⟩ := not_or.mp counts
        rw [Progress.deliver_eq _ noListener noRoute] at replica
        exact .inl replica
  | synchronizes request acknowledges replica current earlier =>
      exact .inr (.inr ⟨moves.2 request current, request, acknowledges, current⟩)

/-- What every move of a client keeps. -/
structure IsSound (listenerConsumers routeConsumers : Nat) (session : Session) : Prop where
  agrees : session.Agrees (Progress.Concludes session.client.node)
  learns : session.Learns
  mirrors : session.Mirrors listenerConsumers routeConsumers

namespace IsSound

variable {listenerConsumers routeConsumers : Nat}

theorem start (config : Config) (listenerConsumers routeConsumers : Nat) :
    (Session.start (.prepare config listenerConsumers routeConsumers)).IsSound listenerConsumers
      routeConsumers where
  agrees := .start rfl
  learns _ found := by cases found
  mirrors := by
    refine ⟨Replica.Reflects.start listenerConsumers routeConsumers, ?_⟩
    refine iff_of_false Bool.false_ne_true ?_
    rintro ⟨transcript, member, acknowledged⟩
    rw [List.mem_singleton.mp member] at acknowledged
    exact Transcript.not_hasAcknowledged_nil _ acknowledged

variable (sound : before.IsSound listenerConsumers routeConsumers) {move : Move}
  (moved : before.move? move = some after)

include sound moved

theorem updates : before.Updates after := .of_step sound.agrees sound.learns (step_of_move? moved)

theorem step : after.IsSound listenerConsumers routeConsumers where
  agrees := by
    rw [node_of_move? moved]
    exact sound.agrees.step Progress.Concludes.isInvariant (step_of_move? moved)
  learns := sound.learns.step sound.agrees (step_of_move? moved)
  mirrors := sound.mirrors.update (sound.updates moved)

omit moved

theorem of_run {moves : List Move} (run : before.run? moves = some after) :
    after.IsSound listenerConsumers routeConsumers :=
  run?_induction (fun _ _ _ sound moved => sound.step moved) sound run

/-- A synchronized client stays so. -/
theorem isSynced_of_run {moves : List Move} (run : before.run? moves = some after)
    (synced : before.replica.isSynced = true) : after.replica.isSynced = true := by
  induction moves generalizing before with
  | nil =>
      cases run
      exact synced
  | cons move rest inductionHypothesis =>
      obtain ⟨next, moved, run⟩ := Option.bind_eq_some_iff.mp run
      exact inductionHypothesis (sound.step moved) run ((sound.updates moved).isSynced synced)

end IsSound

/-- The replica follows what counts on the streams, and nothing else changes it. -/
structure Replicates (listenerConsumers routeConsumers : Nat) (session : Session) : Prop where
  mirrors : session.Mirrors listenerConsumers routeConsumers
  /-- The client finds the kind of a response subscribed exactly if the response counts. -/
  expects_iff : session.client.isWaiting = true → ∀ kind response,
    session.client.progress.Expects kind response ↔ session.current.Admits kind response
  staysSynced : session.replica.isSynced = true → ∀ moves later,
    session.client.run? moves = some later → later.progress.replica.isSynced = true
  changes : ∀ move after, session.move? move = some after →
    after.replica = session.replica ∨
      (move = .receive ∧ ∃ kind response, (kind = .listener ∨ kind = .route) ∧
        session.current.Admits kind response ∧
        after.current = .received response :: session.current) ∨
      move = .send ∧ ∃ request, session.current.Acknowledges .listener request ∧
        after.current = .sent request :: session.current

theorem IsSound.replicates {listenerConsumers routeConsumers : Nat} {session : Session}
    (sound : session.IsSound listenerConsumers routeConsumers) :
    session.Replicates listenerConsumers routeConsumers where
  mirrors := sound.mirrors
  expects_iff waits _ _ :=
    have concludes := sound.agrees.current _ (Client.reaction?_of_isWaiting waits)
    Subscriptions.Track.expects_iff (Progress.Concludes.track concludes)
  staysSynced synced moves later run := by
    have recorded : (session.run? moves).map Session.client = some later := by
      rw [map_client_run?]
      exact run
    obtain ⟨after, sessionRun, rfl⟩ := Option.map_eq_some_iff.mp recorded
    exact sound.isSynced_of_run sessionRun synced
  changes _ _ moved := (sound.updates moved).changes moved

theorem replicates_of_run {config : Config} {listenerConsumers routeConsumers : Nat}
    {moves : List Move} {session : Session}
    (run : (start (.prepare config listenerConsumers routeConsumers)).run? moves = some session) :
    session.Replicates listenerConsumers routeConsumers :=
  ((IsSound.start config listenerConsumers routeConsumers).of_run run).replicates

end Session

end MeshAccess.Discovery
