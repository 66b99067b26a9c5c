import MeshAccess.Proofs.Discovery.Moves

/-! This file says when a client that is asked to stop can do so by itself. -/

namespace MeshAccess.Discovery

/-- The control plane makes this move. -/
def Move.isRemote : Move → Bool
  | .answer _ | .read | .refuseRequests | .finish => true
  | _ => false

namespace Stream

/-- The number of requests that the stream has room for. -/
def room (stream : Stream) : Nat := capacity - stream.requests.length

theorem hasRoom_iff {stream : Stream} :
    stream.hasRoom = true ↔ stream.takesRequests = true ∧ 0 < stream.room := by
  rw [hasRoom, Bool.and_eq_true, decide_eq_true_iff, room, Nat.sub_pos_iff_lt]

theorem room_addRequest (stream : Stream) (request : Request) :
    (stream.addRequest request).room = stream.room - 1 := by
  simp [room, addRequest, Nat.sub_sub]

end Stream

namespace Client

/-- The requests that the client has still to send before it looks at anything else. -/
def unsent (client : Client) : List (Request × Progress) :=
  match client.activity with
  | .opening sends => sends
  | .serving sends _ => sends
  | _ => []

/-- The task of the client is over. -/
def hasEnded (client : Client) : Bool :=
  match client.activity with
  | .stopped => true
  | .crashed => true
  | _ => false

/-- The stream takes requests, but not as many as the client has still to send. -/
def isBlocked (client : Client) : Bool :=
  client.stream.any fun stream => stream.takesRequests && stream.room < client.unsent.length

/-- The client has something to send into a stream that takes requests and is full. -/
def awaitsReading (client : Client) : Bool :=
  !client.unsent.isEmpty &&
    client.stream.any fun stream => stream.takesRequests && stream.room = 0

/-- The task of the client can come to its end in moves of some sort. -/
def CanEnd (client : Client) (allowed : Move → Bool) : Prop :=
  ∃ moves last, (∀ move ∈ moves, allowed move = true) ∧ client.run? moves = some last ∧
    last.hasEnded = true

/-- A client that opens a stream or serves on it holds it, and it opens it with a request. -/
def HoldsStream (client : Client) : Prop :=
  match client.activity with
  | .opening sends => sends ≠ [] ∧ client.stream.isSome = true
  | .serving _ _ => client.stream.isSome = true
  | _ => True

variable {client after : Client} {move : Move}

/-- A client that has sent a request goes on with the others. Before it serves, it sets its timer. -/
theorem advance_cases {send : Request × Progress} {rest : List (Request × Progress)}
    (due : client.unsent = send :: rest) :
    (∃ nextPoll, client.advance =
        { client with progress := send.2, activity := .serving rest nextPoll }) ∨
      (rest ≠ [] ∧
        client.advance = { client with progress := send.2, activity := .opening rest }) ∨
      (rest = [] ∧ client.advance =
        { client with progress := send.2, activity := .crashed, stream := none }) := by
  rw [unsent] at due
  split at due
  next opening =>
    subst due
    cases rest with
    | nil =>
        have served : client.advance = serve { client with progress := send.2 } := by
          rw [advance, opening]
          rfl
        rw [served, serve]
        split
        next => exact .inl ⟨none, rfl⟩
        next period _ =>
          split
          next time _ => exact .inl ⟨some time, rfl⟩
          next => exact .inr (.inr ⟨rfl, rfl⟩)
    | cons next others =>
        rw [advance, opening]
        exact .inr (.inl ⟨List.cons_ne_nil next others, rfl⟩)
  next nextPoll serving =>
    subst due
    rw [advance, serving]
    exact .inl ⟨nextPoll, rfl⟩
  next => cases due

theorem unsent_advance {send : Request × Progress} {rest : List (Request × Progress)}
    (due : client.unsent = send :: rest) : client.advance.unsent = rest := by
  rcases advance_cases due with ⟨nextPoll, same⟩ | ⟨-, same⟩ | ⟨rfl, same⟩
  · rw [same]; rfl
  · rw [same]; rfl
  · rw [same]; rfl

/-- A client that has something to send wants to send the first of it. -/
theorem outgoing?_of_unsent {send : Request × Progress} {rest : List (Request × Progress)}
    (due : client.unsent = send :: rest) : client.outgoing? = some send.1 := by
  rw [unsent] at due
  split at due
  next opening => rw [outgoing?, opening, due]
  next serving => rw [outgoing?, serving, due]
  next => cases due

theorem unsent_of_outgoing? {request : Request} (due : client.outgoing? = some request) :
    ∃ progress rest, client.unsent = (request, progress) :: rest := by
  rw [outgoing?] at due
  split at due
  next progress rest opening =>
    cases due
    exact ⟨progress, rest, by rw [unsent, opening]⟩
  next progress rest nextPoll serving =>
    cases due
    exact ⟨progress, rest, by rw [unsent, serving]⟩
  next => cases due

theorem holdsStream_advance {send : Request × Progress} {rest : List (Request × Progress)}
    (held : client.stream.isSome = true) (due : client.unsent = send :: rest) :
    client.advance.HoldsStream := by
  rcases advance_cases due with ⟨nextPoll, same⟩ | ⟨more, same⟩ | ⟨-, same⟩
  · rw [same]
    exact held
  · rw [same]
    exact ⟨more, held⟩
  · rw [same]
    trivial

theorem HoldsStream.withStream (holds : client.HoldsStream) (stream : Stream) :
    (client.withStream stream).HoldsStream := by
  simp only [HoldsStream, Client.withStream] at holds ⊢
  split <;> simp_all

theorem HoldsStream.step (holds : client.HoldsStream) (moves : client.Moves move after) :
    after.HoldsStream := by
  cases moves with
  | connect wants => exact ⟨List.cons_ne_nil _ _, rfl⟩
  | @send stream request held outgoing room =>
      obtain ⟨progress, rest, due⟩ := unsent_of_outgoing? outgoing
      have stillDue : (client.withStream (stream.addRequest request)).unsent =
          (request, progress) :: rest := due
      exact holdsStream_advance rfl stillDue
  | receive waits held next => exact rfl
  | poll waits polls due =>
      rw [HoldsStream, waits] at holds
      exact holds
  | answer message held room => exact holds.withStream _
  | read held next => exact holds.withStream _
  | refuseRequests held => exact holds.withStream _
  | finish held => exact holds.withStream _
  | pass milliseconds => exact holds
  | signal => exact holds
  | _ => trivial

/-- A client that has been started, and has been asked to stop. -/
structure IsLeaving (client : Client) : Prop where
  stopping : client.isStopping = true
  started : client.activity ≠ .idle
  holds : client.HoldsStream

theorem IsLeaving.step (leaving : client.IsLeaving) (moves : client.Moves move after) :
    after.IsLeaving := by
  have holds := leaving.holds.step moves
  obtain ⟨stopping, started, -⟩ := leaving
  cases moves with
  | @send stream request held outgoing room =>
      obtain ⟨progress, rest, due⟩ := unsent_of_outgoing? outgoing
      have stillDue : (client.withStream (stream.addRequest request)).unsent =
          (request, progress) :: rest := due
      rcases advance_cases stillDue with ⟨nextPoll, same⟩ | ⟨-, same⟩ | ⟨-, same⟩
      · exact ⟨same ▸ stopping, same ▸ nofun, holds⟩
      · exact ⟨same ▸ stopping, same ▸ nofun, holds⟩
      · exact ⟨same ▸ stopping, same ▸ nofun, holds⟩
  | signal => exact ⟨rfl, started, holds⟩
  | answer message held room => exact ⟨stopping, started, holds⟩
  | read held next => exact ⟨stopping, started, holds⟩
  | refuseRequests held => exact ⟨stopping, started, holds⟩
  | finish held => exact ⟨stopping, started, holds⟩
  | pass milliseconds => exact ⟨stopping, started, holds⟩
  | _ => exact ⟨stopping, nofun, holds⟩

theorem CanEnd.of_move {allowed : Move → Bool} (isAllowed : allowed move = true)
    (moved : client.move? move = some after) (ends : after.CanEnd allowed) :
    client.CanEnd allowed := by
  obtain ⟨moves, last, allAllowed, run, ended⟩ := ends
  refine ⟨move :: moves, last, List.forall_mem_cons.mpr ⟨isAllowed, allAllowed⟩, ?_, ended⟩
  rw [run?, moved]
  exact run

theorem CanEnd.mono {allowed other : Move → Bool}
    (weaker : ∀ move, allowed move = true → other move = true) (ends : client.CanEnd allowed) :
    client.CanEnd other := by
  obtain ⟨moves, last, allAllowed, run, ended⟩ := ends
  exact ⟨moves, last, fun move isMove => weaker move (allAllowed move isMove), run, ended⟩

/-- A client that looks at the signal stops. -/
theorem IsLeaving.canEnd_of_heedsSignal (leaving : client.IsLeaving)
    (heeds : client.heedsSignal = true) : client.CanEnd Move.isOwn := by
  have moved := move?_eq_some_iff.mpr (Moves.stop leaving.stopping heeds)
  exact .of_move rfl moved ⟨[], _, by simp, rfl, rfl⟩

/-- A client with nothing to send looks at the signal, or its task is over. -/
theorem IsLeaving.heedsSignal_or_hasEnded (leaving : client.IsLeaving)
    (nothing : client.unsent = []) : client.heedsSignal = true ∨ client.hasEnded = true := by
  obtain ⟨-, started, holds⟩ := leaving
  rw [HoldsStream] at holds
  rw [unsent] at nothing
  rw [heedsSignal, hasEnded]
  cases active : client.activity <;> simp_all

/-- A client with something to send has a stream. -/
theorem HoldsStream.exists_stream (holds : client.HoldsStream) (due : client.unsent ≠ []) :
    ∃ stream, client.stream = some stream := by
  rw [HoldsStream] at holds
  rw [unsent] at due
  apply Option.isSome_iff_exists.mp
  split at holds
  next => exact holds.2
  next => exact holds
  next => simp_all

theorem isBlocked_eq_true_iff {stream : Stream} (held : client.stream = some stream) :
    client.isBlocked = true ↔
      stream.takesRequests = true ∧ stream.room < client.unsent.length := by
  simp [isBlocked, held]

/-- A request that is sent takes up room, and is no longer to be sent. -/
theorem isBlocked_advance {stream : Stream} {request : Request}
    (held : client.stream = some stream) (due : client.outgoing? = some request)
    (room : stream.hasRoom = true) :
    (client.withStream (stream.addRequest request)).advance.isBlocked = client.isBlocked := by
  obtain ⟨progress, rest, sends⟩ := unsent_of_outgoing? due
  obtain ⟨takes, positive⟩ := Stream.hasRoom_iff.mp room
  let next := client.withStream (stream.addRequest request)
  have stillSends : next.unsent = (request, progress) :: rest := sends
  have left := unsent_advance stillSends
  have stillTakes : (stream.addRequest request).takesRequests = true := takes
  have before : client.isBlocked = true ↔ stream.room < rest.length + 1 := by
    rw [isBlocked_eq_true_iff held, sends, List.length_cons]
    exact and_iff_right takes
  have kept (same : next.advance.stream = some (stream.addRequest request)) :
      next.advance.isBlocked = true ↔ stream.room - 1 < rest.length := by
    rw [isBlocked_eq_true_iff same, left, Stream.room_addRequest]
    exact and_iff_right stillTakes
  rw [Bool.eq_iff_iff, before]
  rcases advance_cases stillSends with ⟨nextPoll, same⟩ | ⟨-, same⟩ | ⟨rfl, same⟩
  · rw [kept (same ▸ rfl)]
    omega
  · rw [kept (same ▸ rfl)]
    omega
  -- There was room for the last request, so a client that crashes after it was not blocked.
  · have free : next.advance.isBlocked = false := by rw [same]; rfl
    rw [free]
    simp only [Bool.false_eq_true, false_iff, List.length_nil]
    omega

theorem findsFailure_of_refused {stream : Stream} {request : Request}
    (due : client.outgoing? = some request) (refused : stream.takesRequests = false) :
    client.findsFailure stream = true := by
  simp [findsFailure, due, refused]

/-- A client that is not blocked sends what it has to send and stops, or finds that its stream is
broken. -/
theorem IsLeaving.canEnd {sends : List (Request × Progress)} (leaving : client.IsLeaving)
    (due : client.unsent = sends) (free : client.isBlocked = false) : client.CanEnd Move.isOwn := by
  -- Each request takes one place, so what was room enough stays room enough.
  induction sends generalizing client with
  | nil =>
      rcases leaving.heedsSignal_or_hasEnded due with heeds | ended
      · exact leaving.canEnd_of_heedsSignal heeds
      · exact ⟨[], client, by simp, rfl, ended⟩
  | cons send rest inductionHypothesis =>
      have something : client.unsent ≠ [] := due ▸ List.cons_ne_nil send rest
      obtain ⟨stream, held⟩ := leaving.holds.exists_stream something
      have outgoing := outgoing?_of_unsent due
      cases takes : stream.takesRequests with
      | false =>
          have fails := Moves.fail held (findsFailure_of_refused outgoing takes)
          exact .of_move rfl (move?_eq_some_iff.mpr fails)
            ((leaving.step fails).canEnd_of_heedsSignal rfl)
      | true =>
          have enough : client.unsent.length ≤ stream.room := by
            refine Nat.le_of_not_lt fun short => ?_
            have blocked := (isBlocked_eq_true_iff held).mpr ⟨takes, short⟩
            exact Bool.false_ne_true (free.symm.trans blocked)
          rw [due, List.length_cons] at enough
          have room := Stream.hasRoom_iff.mpr ⟨takes, Nat.zero_lt_of_lt enough⟩
          have sends := Moves.send held outgoing room
          have stillFree := (isBlocked_advance held outgoing room).trans free
          exact .of_move rfl (move?_eq_some_iff.mpr sends)
            (inductionHypothesis (leaving.step sends) (unsent_advance due) stillFree)

/-- A blocked client has something to send. -/
theorem exists_of_isBlocked (blocked : client.isBlocked = true) :
    ∃ stream request, client.stream = some stream ∧ stream.takesRequests = true ∧
      client.outgoing? = some request := by
  obtain ⟨stream, held, short⟩ := Option.any_eq_true _ _ |>.mp blocked
  rw [Bool.and_eq_true, decide_eq_true_iff] at short
  obtain ⟨send, rest, due⟩ := List.exists_cons_of_length_pos (Nat.zero_lt_of_lt short.2)
  exact ⟨stream, send.1, held, short.1, outgoing?_of_unsent due⟩

/-- A client that looks at the signal has nothing to send. -/
theorem outgoing?_of_heedsSignal (heeds : client.heedsSignal = true) : client.outgoing? = none := by
  rw [heedsSignal] at heeds
  rw [outgoing?]
  split at heeds <;> simp_all

theorem heedsSignal_of_wantsStream (wants : client.wantsStream = true) :
    client.heedsSignal = true := by
  rw [wantsStream] at wants
  rw [heedsSignal]
  split at wants <;> simp_all

/-- A blocked client does nothing but send. -/
theorem Moves.eq_send_of_isBlocked (blocked : client.isBlocked = true) (isOwn : move.isOwn = true)
    (moves : client.Moves move after) : move = .send := by
  obtain ⟨stream, request, held, takes, due⟩ := exists_of_isBlocked blocked
  have sending : client.heedsSignal ≠ true := fun heeds =>
    Option.some_ne_none request (due.symm.trans (outgoing?_of_heedsSignal heeds))
  cases moves with
  | connect wants => exact absurd (heedsSignal_of_wantsStream wants) sending
  | refuse wants => exact absurd (heedsSignal_of_wantsStream wants) sending
  | send held due room => rfl
  | receive waits held next => simp [outgoing?, waits] at due
  | fail alsoHeld broken =>
      cases held.symm.trans alsoHeld
      simp [findsFailure, due, takes] at broken
  | poll waits polls => simp [outgoing?, waits] at due
  | wake sleeps => simp [outgoing?, sleeps] at due
  | stop stopping heeds => exact absurd heeds sending
  | _ => cases isOwn

/-- Only the control plane can help a blocked client. -/
theorem Moves.isBlocked (blocked : client.isBlocked = true) (isLocal : move.isRemote = false)
    (moves : client.Moves move after) : after.isBlocked = true := by
  by_cases isOwn : move.isOwn = true
  · cases moves.eq_send_of_isBlocked blocked isOwn
    cases moves with
    | send held due room => exact (isBlocked_advance held due room).trans blocked
  · cases moves with
    | start idle =>
        obtain ⟨stream, request, -, -, due⟩ := exists_of_isBlocked blocked
        simp [outgoing?, idle] at due
    | pass milliseconds => exact blocked
    | signal => exact blocked
    | _ => simp_all [Move.isOwn, Move.isRemote]

/-- A blocked client is not at its end. -/
theorem hasEnded_of_isBlocked (blocked : client.isBlocked = true) : client.hasEnded = false := by
  obtain ⟨stream, request, -, -, due⟩ := exists_of_isBlocked blocked
  rw [outgoing?] at due
  rw [hasEnded]
  split at due <;> simp_all

theorem not_canEnd_of_isBlocked (blocked : client.isBlocked = true) :
    ¬ client.CanEnd fun move => !move.isRemote := by
  rintro ⟨moves, last, allLocal, run, ended⟩
  -- Every move of the run leaves the client blocked, and the end is not blocked.
  suffices stillBlocked : last.isBlocked = true by
    rw [hasEnded_of_isBlocked stillBlocked] at ended
    cases ended
  clear ended
  induction moves generalizing client with
  | nil =>
      cases run
      exact blocked
  | cons move rest inductionHypothesis =>
      obtain ⟨next, moved, run⟩ := Option.bind_eq_some_iff.mp run
      obtain ⟨isLocal, allLocal⟩ := List.forall_mem_cons.mp allLocal
      rw [Bool.not_eq_true'] at isLocal
      have stillBlocked := (move?_eq_some_iff.mp moved).isBlocked blocked isLocal
      exact inductionHypothesis stillBlocked allLocal run

theorem isLocal_of_isOwn (isOwn : move.isOwn = true) : (!move.isRemote) = true := by
  cases move <;> simp_all [Move.isOwn, Move.isRemote]

theorem awaitsReading_iff {stream : Stream} (held : client.stream = some stream) :
    client.awaitsReading = true ↔
      client.unsent ≠ [] ∧ stream.takesRequests = true ∧ stream.room = 0 := by
  simp [awaitsReading, held]

theorem isBlocked_of_awaitsReading (awaits : client.awaitsReading = true) :
    client.isBlocked = true := by
  have isHeld := awaits
  rw [awaitsReading, Bool.and_eq_true] at isHeld
  obtain ⟨stream, held, -⟩ := (Option.any_eq_true _ _).mp isHeld.2
  obtain ⟨something, takes, full⟩ := (awaitsReading_iff held).mp awaits
  refine (isBlocked_eq_true_iff held).mpr ⟨takes, ?_⟩
  rw [full]
  exact List.length_pos_iff.mpr something

/-- A client that waits for the control plane can do nothing else. -/
theorem move?_of_awaitsReading (awaits : client.awaitsReading = true) (isOwn : move.isOwn = true) :
    client.move? move = none := by
  refine Option.eq_none_iff_forall_ne_some.mpr fun after moved => ?_
  have moves := move?_eq_some_iff.mp moved
  cases moves.eq_send_of_isBlocked (isBlocked_of_awaitsReading awaits) isOwn
  cases moves with
  | send held due room =>
      have full := ((awaitsReading_iff held).mp awaits).2.2
      exact absurd full (Nat.ne_of_gt (Stream.hasRoom_iff.mp room).2)

/-- A client that can do nothing and is not at its end waits for the control plane. -/
theorem IsLeaving.awaitsReading (leaving : client.IsLeaving) (goesOn : client.hasEnded = false)
    (stuck : ∀ move, move.isOwn = true → client.move? move = none) :
    client.awaitsReading = true := by
  have impossible {move : Move} {after : Client} (isOwn : move.isOwn = true) :
      ¬ client.Moves move after := fun moves =>
    Option.some_ne_none after ((move?_eq_some_iff.mpr moves).symm.trans (stuck move isOwn))
  cases due : client.unsent with
  | nil =>
      rcases leaving.heedsSignal_or_hasEnded due with heeds | ended
      · exact absurd (.stop leaving.stopping heeds) (impossible rfl)
      · exact absurd (goesOn.symm.trans ended) Bool.false_ne_true
  | cons send rest =>
      have something : client.unsent ≠ [] := due ▸ List.cons_ne_nil send rest
      obtain ⟨stream, held⟩ := leaving.holds.exists_stream something
      have outgoing := outgoing?_of_unsent due
      cases takes : stream.takesRequests with
      | false =>
          have broken := findsFailure_of_refused outgoing takes
          exact absurd (.fail held broken) (impossible rfl)
      | true =>
          refine (awaitsReading_iff held).mpr ⟨something, takes, ?_⟩
          refine Nat.eq_zero_of_not_pos fun positive => ?_
          have room := Stream.hasRoom_iff.mpr ⟨takes, positive⟩
          exact impossible rfl (.send held outgoing room)

/-- A reaction to a response has one request or two. -/
theorem length_react_le (progress : Progress) (response : Response) (node : Node) :
    (progress.react response node).sends.length ≤ 2 := by
  rw [Progress.react]
  split
  next => exact Nat.le_succ 1
  next kind _ =>
    split
    next =>
      simp only [Progress.accept]
      split
      next => exact Nat.le_succ 1
      next => exact Nat.le_refl 2
    next => exact Nat.le_succ 1

theorem length_poll_le (progress : Progress) (node : Node) :
    (progress.poll node).sends.length ≤ ResourceKind.all.length := by
  simp only [Progress.poll, Subscriptions.subscribed, List.length_map]
  exact Nat.le_trans (List.length_filter_le _ _) (Nat.le_of_eq (List.length_map _))

/-- A client never has more to send than a request for each kind. -/
theorem Moves.length_unsent_le (few : client.unsent.length ≤ ResourceKind.all.length)
    (moves : client.Moves move after) : after.unsent.length ≤ ResourceKind.all.length := by
  cases moves with
  | connect wants => exact Nat.succ_le_of_lt (Nat.zero_lt_succ 3)
  | @send stream request held outgoing room =>
      obtain ⟨progress, rest, due⟩ := unsent_of_outgoing? outgoing
      let next := client.withStream (stream.addRequest request)
      have stillDue : next.unsent = (request, progress) :: rest := due
      rw [unsent_advance stillDue]
      rw [due, List.length_cons] at few
      exact Nat.le_of_succ_le few
  | receive waits held next => exact Nat.le_trans (length_react_le _ _ _) (Nat.le_add_left 2 2)
  | poll waits polls due => exact length_poll_le _ _
  | answer message held room => exact few
  | read held next => exact few
  | refuseRequests held => exact few
  | finish held => exact few
  | pass milliseconds => exact few
  | signal => exact few
  | _ => exact Nat.zero_le _

/-- What becomes of a client that has been started and asked to stop. -/
structure HeedsShutdown (client : Client) : Prop where
  /-- The client can stop by itself exactly if there is room for what it has to send. -/
  canEnd_iff : client.CanEnd Move.isOwn ↔ client.isBlocked = false
  /-- Otherwise, only the control plane can help. -/
  canEnd_locally_iff : client.CanEnd (fun move => !move.isRemote) ↔ client.isBlocked = false
  /-- The client waits for the control plane exactly if it can do nothing and is not at its end. -/
  awaitsReading_iff : client.awaitsReading = true ↔
    client.hasEnded = false ∧ ∀ move, move.isOwn = true → client.move? move = none
  /-- There is room if all but a few places of the stream are free. -/
  spared : (∀ stream, client.stream = some stream →
    stream.requests.length + ResourceKind.all.length ≤ Stream.capacity) → client.CanEnd Move.isOwn

theorem IsLeaving.canEnd_iff (leaving : client.IsLeaving) :
    client.CanEnd Move.isOwn ↔ client.isBlocked = false := by
  refine ⟨fun ends => ?_, leaving.canEnd rfl⟩
  refine Bool.eq_false_iff.mpr fun blocked => ?_
  exact not_canEnd_of_isBlocked blocked (ends.mono fun _ => isLocal_of_isOwn)

/-- A client that is asked to stop can do so by itself exactly if it is not blocked. -/
theorem heedsShutdown_of_run {config : Config} {listenerConsumers routeConsumers : Nat}
    {moves : List Move} {client : Client}
    (run : (prepare config listenerConsumers routeConsumers).run? moves = some client)
    (started : client.activity ≠ .idle) (stopping : client.isStopping = true) :
    client.HeedsShutdown := by
  have initially : (prepare config listenerConsumers routeConsumers).HoldsStream := trivial
  have holds := run?_induction (fun _ _ _ holds moves => holds.step moves) initially run
  have leaving : client.IsLeaving := ⟨stopping, started, holds⟩
  exact {
    canEnd_iff := leaving.canEnd_iff
    canEnd_locally_iff := by
      refine ⟨fun ends => ?_, fun free => (leaving.canEnd rfl free).mono fun _ => isLocal_of_isOwn⟩
      exact Bool.eq_false_iff.mpr fun blocked => not_canEnd_of_isBlocked blocked ends
    awaitsReading_iff := by
      refine ⟨fun awaits => ⟨?_, fun _ => move?_of_awaitsReading awaits⟩, fun idle => ?_⟩
      · exact hasEnded_of_isBlocked (isBlocked_of_awaitsReading awaits)
      · exact leaving.awaitsReading idle.1 idle.2
    spared := fun roomy => by
      refine leaving.canEnd rfl (Bool.eq_false_iff.mpr fun blocked => ?_)
      obtain ⟨stream, request, held, -, -⟩ := exists_of_isBlocked blocked
      have short := ((isBlocked_eq_true_iff held).mp blocked).2
      have few : client.unsent.length ≤ ResourceKind.all.length :=
        run?_induction (fun _ _ _ few moves => moves.length_unsent_le few) (Nat.zero_le _) run
      have fits := roomy stream held
      rw [Stream.room] at short
      omega }

theorem heedsShutdown_afterGreeting :
    ∃ client, (prepare {} 0 0).run? [.start, .connect, .send, .signal] = some client ∧
      client.activity ≠ .idle ∧ client.isStopping = true ∧ client.HeedsShutdown := by
  refine ⟨_, rfl, nofun, rfl, ?_⟩
  have run : (prepare {} 0 0).run? [.start, .connect, .send, .signal] = some _ := rfl
  exact heedsShutdown_of_run run nofun rfl

/-- The control plane leaves the stream open and does not read. The polling timer fills the stream
with requests and goes off once more. Then the client is asked to stop. -/
def neglect : List Move :=
  let poll : List Move := [.pass 30000, .poll]
  let polls := List.replicate (Stream.capacity - 1) (poll ++ [.send])
  [.start, .connect, .send] ++ polls.flatten ++ poll ++ [.signal]

/-- A client waits for a control plane that does not read, and can never stop by itself. -/
theorem awaitsReading_neglect :
    ∃ client, (create {}).run? neglect = some client ∧ client.activity ≠ .idle ∧
      client.isStopping = true ∧ client.awaitsReading = true ∧ ¬ client.CanEnd Move.isOwn := by
  have reached : ((create {}).run? neglect).any
      (fun client => client.isStopping && client.awaitsReading) = true := by decide +kernel
  obtain ⟨client, run, facts⟩ := (Option.any_eq_true _ _).mp reached
  obtain ⟨stopping, awaits⟩ := Bool.and_eq_true_iff.mp facts
  have blocked := isBlocked_of_awaitsReading awaits
  refine ⟨client, run, fun idle => ?_, stopping, awaits, fun ends => ?_⟩
  · obtain ⟨stream, request, -, -, due⟩ := exists_of_isBlocked blocked
    simp [outgoing?, idle] at due
  · exact not_canEnd_of_isBlocked blocked (ends.mono fun _ => isLocal_of_isOwn)

end Client

end MeshAccess.Discovery
