import Multiplex.Proofs.Loopback.Agreement

/-!
# Answers that are still to come

A loopback session computes an answer when it opens a stream, and keeps it until its time has
come.  The answer says for which stream it is, so there is no mix-up as long as no two answers
that are still to come are for the same stream.

`Queues` says what one step makes of the answers of a session: at most one comes up, and it
is for the stream that the session opens in this step.  Streams get larger and larger numbers
until these come again, so every answer is for an earlier stream than the next (`IsAhead`).

`Furnished` says this of the session of a pool's connection, together with where the answers
come from: the session answers as its pool's factory says.
-/

namespace Multiplex

/-! ## One session -/

namespace LoopbackSession

variable {ι : Type} {session before after : LoopbackSession ι} {stream : StreamId} {listener : ι}

/-- The answer to a request for which the next stream is opened at time `now`. -/
def answerTo (session : LoopbackSession ι) (now ticket : Nat) (request : Http.Request) : Reply :=
  ⟨session.nextStream, session.responder request, now + session.delay, ticket⟩

/-- A session answers as before.  The answers that were still to come are, and there may be
one more, for the stream that was opened. -/
structure Queues (before after : LoopbackSession ι) : Prop where
  responder : after.responder = before.responder
  delay : after.delay = before.delay
  replies : (after.nextStream = before.nextStream ∧ after.replies = before.replies) ∨
    ∃ reply, after.nextStream = before.nextStream.next ∧ reply.stream = before.nextStream ∧
      after.replies = before.replies ++ [reply]

/-- Every answer that is still to come is for a stream before the next. -/
def IsAhead (session : LoopbackSession ι) : Prop :=
  ∀ reply ∈ session.replies, reply.stream.number.toNat < session.nextStream.number.toNat

namespace Queues

theorem refl (session : LoopbackSession ι) : session.Queues session :=
  ⟨rfl, rfl, .inl ⟨rfl, rfl⟩⟩

theorem lose (session : LoopbackSession ι) (stream? : Option StreamId) :
    session.Queues (session.lose stream?) := by
  cases stream? with
  | none => exact .refl session
  | some stream =>
      show session.Queues (session.reset stream)
      unfold reset
      split
      · exact ⟨rfl, rfl, .inl ⟨rfl, rfl⟩⟩
      · exact .refl session

theorem close (session : LoopbackSession ι) : session.Queues session.close.1 := by
  unfold LoopbackSession.close
  split
  · exact .refl session
  · exact ⟨rfl, rfl, .inl ⟨rfl, rfl⟩⟩

variable {before after : LoopbackSession ι} (hqueues : before.Queues after)
include hqueues

theorem subset : before.replies ⊆ after.replies := by
  rcases hqueues.replies with ⟨-, hsame⟩ | ⟨reply, -, -, hmore⟩
  · rw [hsame]
    exact fun _ hmem => hmem
  · rw [hmore]
    exact List.subset_append_left _ _

theorem mem_or_next {reply : Reply} (hmem : reply ∈ after.replies) :
    reply ∈ before.replies ∨ reply.stream = before.nextStream := by
  rcases hqueues.replies with ⟨-, hsame⟩ | ⟨other, -, hnumber, hmore⟩
  · exact .inl (hsame ▸ hmem)
  · rw [hmore, List.mem_append, List.mem_singleton] at hmem
    rcases hmem with hold | rfl
    · exact .inl hold
    · exact .inr hnumber

end Queues

/-- What is still to come of a session that has opened a stream. -/
theorem replies_of_openStream {now ticket : Nat} {request : Http.Request}
    (hresult : (session.openStream now ticket request listener).2 = .ok stream) :
    stream = session.nextStream ∧
      (session.openStream now ticket request listener).1.replies =
        session.replies ++ [session.answerTo now ticket request] := by
  unfold openStream at hresult ⊢
  split at hresult
  · simp at hresult
  next hopen =>
    split at hresult
    · simp at hresult
    next hroom =>
      rw [if_neg hopen, if_neg hroom]
      exact ⟨(Except.ok.inj hresult).symm, rfl⟩

/-- To open a stream is to queue an answer, or nothing. -/
theorem queues_openStream (session : LoopbackSession ι) (now ticket : Nat)
    (request : Http.Request) (listener : ι) :
    session.Queues (session.openStream now ticket request listener).1 := by
  unfold openStream
  split
  · exact .refl session
  · split
    · exact .refl session
    · exact ⟨rfl, rfl, .inr ⟨session.answerTo now ticket request, rfl, rfl, rfl⟩⟩

/-- Until numbers come again, the next stream is ahead of all answers. -/
theorem Queues.isAhead (hqueues : before.Queues after) {earlier later : Nat}
    (hbefore : before.Ordered earlier) (hafter : after.Ordered later) (hle : earlier ≤ later)
    (hfew : later < 2 ^ 31) (hahead : before.IsAhead) : after.IsAhead := by
  intro reply hmem
  rcases hqueues.replies with ⟨hnext, hreplies⟩ | ⟨new, hnext, hstream, hreplies⟩
  · rw [hreplies] at hmem
    rw [hnext]
    exact hahead reply hmem
  · have hgrows : before.nextStream.number.toNat < after.nextStream.number.toNat := by
      have hfirst := hbefore.next (by omega)
      have hsecond := hafter.next hfew
      have hstep := congrArg (fun stream : StreamId => stream.number.toNat) hnext
      simp only [StreamId.toNat_next] at hstep
      omega
    rw [hreplies, List.mem_append, List.mem_singleton] at hmem
    rcases hmem with hold | rfl
    · exact Nat.lt_trans (hahead reply hold) hgrows
    · rw [hstream]
      exact hgrows

end LoopbackSession

/-- Whether somebody outside makes a session over in a dealing. -/
def Dealing.moves (place : SessionKey) : Dealing → Bool
  | .outside (.moveSession session _) _ => session == place
  | _ => false

namespace Network

variable {α : Type} {network first second : Network α} {key : ConnectionKey}
  {connection : Connection} {loopback before after : LoopbackSession Listener}
  {place session : SessionKey} {operation : Operation} {target : ExchangeId} {id : ChannelId}
  {acts : List (Act α)} {answer : Answering α} {dealing : Dealing} {owner : PoolKey}

/-! ## One operation -/

/-- An operation does not make a loopback session over. -/
def Keeps (network : Network α) (place : SessionKey) (operation : Operation) : Prop :=
  ∀ transport, operation = .moveSession place transport → network.loopback? place = none

private theorem queues_send (hbefore : network.loopback? place = some before) (key : ConnectionKey)
    (target : ExchangeId) :
    ∃ after, (network.send quiet key target).1.loopback? place = some after ∧
      before.Queues after := by
  have hstays : ∀ {reached : Network α}, reached.loopback? place = network.loopback? place →
      ∃ after, reached.loopback? place = some after ∧ before.Queues after :=
    fun hsame => ⟨before, hsame.trans hbefore, .refl before⟩
  cases hconnection : network.connection? key with
  | none => exact hstays (by simp only [send, hconnection])
  | some connection =>
  by_cases hover : connection.session = place
  · cases hresult : (network.send quiet key target).2 with
    | error error => exact hstays (loopback?_send_of_error hresult place)
    | ok accepted =>
        cases hexchange : network.exchange? target with
        | none => simp [send, hconnection, hexchange] at hresult
        | some exchange =>
            obtain ⟨stream, -, hafter, -⟩ :=
              send_of_ok hconnection hexchange (hover ▸ hbefore) hresult
            exact ⟨_, hover ▸ hafter, before.queues_openStream _ _ _ _⟩
  · exact hstays (loopback?_send_elsewhere hconnection (fun heq => absurd heq.symm hover) target)

/-- A session that is respected keeps the answers that are still to come, and gets one more at
most. -/
theorem queues_undergo (hsound : Sound network) (hmirrored : Mirrored network place)
    (hrespects : network.Respects place operation) (hkeeps : network.Keeps place operation)
    (hbefore : network.loopback? place = some before) :
    ∃ after, (network.undergo operation).loopback? place = some after ∧ before.Queues after := by
  have hstays : ∀ {reached : Network α}, reached.loopback? place = network.loopback? place →
      ∃ after, reached.loopback? place = some after ∧ before.Queues after :=
    fun hsame => ⟨before, hsame.trans hbefore, .refl before⟩
  by_cases hnothing : network.happening operation = .nothing
  · have hnew : ∀ name transport, operation = .makeSession name transport → transport.IsNew := by
      rintro name transport rfl
      exact hrespects
    have hmoved : ∀ transport, operation ≠ .moveSession place transport := fun transport heq => by
      simp [hkeeps transport heq] at hbefore
    obtain ⟨after, hafter, heq⟩ :=
      (loopback?_of_nothing hnothing hnew hmoved).exists_after hbefore
    exact ⟨after, hafter, heq ▸ .refl before⟩
  have hoccurs := occurs_happening hnothing
  rw [undergo_eq_bring hnothing]
  generalize network.happening operation = happening at hoccurs ⊢
  cases hoccurs with
  | event id event => exact hstays (network.loopback?_channelHears id event place)
  | sent key hheld => exact queues_send hbefore key _
  | @sentOn id target channel hchannel hfree hheld =>
      refine hstays (loopback?_sendOnChannel_elsewhere hchannel (fun heq => ?_) target)
      have hunheld := hmirrored.unheld hchannel heq.symm
      simp [hunheld] at hfree
  | @aborted target error hheld =>
      obtain ⟨stream?, hlost⟩ := network.loopback?_abort_lost target error place
      exact ⟨before.lose stream?, by simp only [bring, hlost, hbefore, Option.map_some],
        .lose before stream?⟩
  | @closed _ key reason _ hopen =>
      obtain ⟨connection, hconnection, hopen⟩ := isOpen_iff.mp hopen
      have hclosed := loopback?_close hsound hconnection
        (fun _ hfound hover => (hmirrored.ordered hfound).clean hover) hopen reason
      by_cases heq : place = connection.session
      · rw [if_pos heq, hbefore, Option.map_some] at hclosed
        exact ⟨before.close.1, hclosed, .close before⟩
      · rw [if_neg heq] at hclosed
        exact hstays hclosed

/-! ## How many streams were opened -/

/-- The number of streams that were opened only grows. -/
theorem streamsOpened_le_undergo (hsound : Sound network) (operation : Operation)
    (place : SessionKey) :
    network.streamsOpened place ≤ (network.undergo operation).streamsOpened place := by
  obtain ⟨notices, htrace, -⟩ := trace_undergo hsound operation
  rw [streamsOpened, streamsOpened, htrace, List.countP_append]
  exact Nat.le_add_right _ _

theorem Course.streamsOpened_le (hcourse : Course first acts second) (hsound : Sound first)
    (place : SessionKey) : first.streamsOpened place ≤ second.streamsOpened place := by
  induction hcourse with
  | start => exact Nat.le_refl _
  | act operation hcourse ih =>
      exact Nat.le_trans ih (streamsOpened_le_undergo (hcourse.sound hsound) operation place)
  | remember | rearrange => assumption

theorem streamsOpened_le_deals (hsound : Sound network) (answer : Answering α)
    (dealings : List Dealing) (place : SessionKey) :
    network.streamsOpened place ≤ (network.deals answer dealings).streamsOpened place := by
  obtain ⟨acts, hcourse, -⟩ := course_deals hsound answer dealings
  exact hcourse.streamsOpened_le hsound place

/-! ## Sessions of pools -/

/-- A session answers as before, and stays ahead of its answers. -/
def Continues (first second : Network α) (place : SessionKey) : Prop :=
  ∀ before, first.loopback? place = some before →
    ∃ after, second.loopback? place = some after ∧ after.responder = before.responder ∧
      after.delay = before.delay ∧ (second.streamsOpened place < 2 ^ 31 →
        first.streamsOpened place < 2 ^ 31 ∧ (before.IsAhead → after.IsAhead))

theorem continues_of_subset (hopened : first.streamsOpened place ≤ second.streamsOpened place)
    (hsubset : ∀ before, first.loopback? place = some before →
      ∃ after, second.loopback? place = some after ∧ after.responder = before.responder ∧
        after.delay = before.delay ∧ after.nextStream = before.nextStream ∧
        after.replies ⊆ before.replies) : Continues first second place := by
  intro before hbefore
  obtain ⟨after, hafter, hresponder, hdelay, hnext, hreplies⟩ := hsubset before hbefore
  refine ⟨after, hafter, hresponder, hdelay, fun hfew => ⟨Nat.lt_of_le_of_lt hopened hfew, ?_⟩⟩
  intro hahead reply hmem
  rw [hnext]
  exact hahead reply (hreplies hmem)

theorem continues_of_eq (hopened : first.streamsOpened place ≤ second.streamsOpened place)
    (hsame : second.loopback? place = first.loopback? place) : Continues first second place :=
  continues_of_subset hopened fun before hbefore =>
    ⟨before, hsame.trans hbefore, rfl, rfl, rfl, fun _ hmem => hmem⟩

theorem continues_undergo (hinStep : InStep network place)
    (hrespects : network.Respects place operation) (hkeeps : network.Keeps place operation) :
    Continues network (network.undergo operation) place := by
  intro before hbefore
  obtain ⟨after, hafter, hqueues⟩ :=
    queues_undergo hinStep.sound hinStep.mirrored hrespects hkeeps hbefore
  have hopened := streamsOpened_le_undergo hinStep.sound operation place
  refine ⟨after, hafter, hqueues.responder, hqueues.delay, fun hfew => ?_⟩
  refine ⟨Nat.lt_of_le_of_lt hopened hfew, fun hahead => ?_⟩
  exact hqueues.isAhead (hinStep.mirrored.ordered hbefore)
    ((hinStep.undergo hrespects).mirrored.ordered hafter) hopened hfew hahead

/-- If the connection over a session comes from a pool with loopback sessions, the session
answers as the factory says, and is ahead of its answers until numbers come again. -/
structure Furnished (network : Network α) (place : SessionKey) : Prop where
  session : ∀ {key connection owner pool limit delay responder},
    network.connection? key = some connection → connection.session = place →
    connection.destination = .pool owner → network.pool? owner = some pool →
    pool.factory = .loopback limit delay responder →
    ∃ loopback, network.loopback? place = some loopback ∧ loopback.responder = responder ∧
      loopback.delay = delay ∧ (network.streamsOpened place < 2 ^ 31 → loopback.IsAhead)

theorem furnished_blank (surroundings : α) (place : SessionKey) :
    Furnished (blank surroundings) place :=
  ⟨fun hfound => by simp at hfound⟩

namespace Furnished

variable (hfurnished : Furnished first place)
include hfurnished

/-- A connection that a pool opens gets a session without answers, and later on the session
stays ahead of those that come up. -/
theorem turns (hturns : Turns first operation second) (hhoused : Housed first)
    (hlater : Later first second) (hcontinues : Continues first second place) :
    Furnished second place := by
  refine ⟨fun {key connection owner pool limit delay responder} hafter hover hdestination hpool
    hfactory => ?_⟩
  rcases hturns.source hhoused hlater hafter hdestination hpool hfactory with
    ⟨earlier, numbered, hearlier, hsession, hgoes, hnumbered, hmade⟩ |
    ⟨opening, transport, hopens, hmade, hnext⟩
  · obtain ⟨before, hbefore, hresponder, hdelay, hahead⟩ :=
      hfurnished.session hearlier (hsession.trans hover) hgoes hnumbered hmade
    obtain ⟨after, hthere, hsame, halike, hfew⟩ := hcontinues before hbefore
    exact ⟨after, hthere, hsame.trans hresponder, halike.trans hdelay, fun hless =>
      (hfew hless).2 (hahead (hfew hless).1)⟩
  · rw [← hover, hnext]
    refine ⟨_, loopback?_opened hopens hmade, rfl, rfl, fun _ reply hmem => ?_⟩
    exact absurd hmem List.not_mem_nil

omit hfurnished in
/-- An operation keeps a session furnished if the session continues. -/
theorem undergo (hfurnished : Furnished network place) (hsound : Sound network)
    (hstocked : Stocked network)
    (hcontinues : Continues network (network.undergo operation) place) :
    Furnished (network.undergo operation) place :=
  hfurnished.turns (turns_undergo hsound hstocked operation) hsound.housed
    (later_undergo hsound operation) hcontinues

/-- Where connections and pools stay as they are, only the session matters. -/
theorem of_same (hconnection : second.connection? = first.connection?)
    (hpool : second.pool? = first.pool?) (hcontinues : Continues first second place) :
    Furnished second place := by
  refine ⟨fun {key connection owner pool limit delay responder} hthere hover hdestination hfound
    hfactory => ?_⟩
  rw [hconnection] at hthere
  rw [hpool] at hfound
  obtain ⟨before, hbefore, hresponder, hdelay, hahead⟩ :=
    hfurnished.session hthere hover hdestination hfound hfactory
  obtain ⟨after, hafter, hsame, halike, hfew⟩ := hcontinues before hbefore
  exact ⟨after, hafter, hsame.trans hresponder, halike.trans hdelay, fun hless =>
    (hfew hless).2 (hahead (hfew hless).1)⟩

omit hfurnished in
theorem rearrange (hfurnished : Furnished network place) (other : PoolKey)
    (order : List (ConnectionId × ConnectionKey)) :
    Furnished (network.rearrange other order) place := by
  refine ⟨fun {key connection owner pool limit delay responder} hconnection hover hdestination
    hpool hfactory => ?_⟩
  obtain ⟨listed, -, hfound⟩ := network.pool?_rearrange other owner order
  rw [hfound] at hpool
  obtain ⟨earlier, hearlier, rfl⟩ := Option.map_eq_some_iff.mp hpool
  exact hfurnished.session hconnection hover hdestination hearlier hfactory

end Furnished

/-! ## When their time has come -/

theorem mem_loopbacks_iff : (session, loopback) ∈ network.loopbacks ↔
    network.loopback? session = some loopback := by
  refine ⟨mem_loopbacks, fun hloopback => ?_⟩
  obtain ⟨name, attached, hsession⟩ := loopback?_eq_some.mp hloopback
  obtain ⟨number⟩ := session
  have hthere : ¬ (number = 0 ∨ network.sessions.size < number) := fun hnone => by
    simp [session?, Table.get?_eq_none_iff.mpr hnone] at hsession
  have hnumber : number - 1 + 1 = number := by omega
  refine List.mem_filterMap.mpr ⟨number - 1, List.mem_range.mpr (by omega), ?_⟩
  simp only [hnumber, hsession]

/-- The answers whose time has come are those of the loopback sessions. -/
theorem mem_dueReplies {reply : Reply} : (session, reply) ∈ network.dueReplies ↔
    ∃ loopback, network.loopback? session = some loopback ∧ reply ∈ loopback.replies ∧
      reply.due ≤ network.clock := by
  unfold dueReplies
  dsimp only
  rw [List.mem_mergeSort, List.mem_flatMap]
  constructor
  · rintro ⟨⟨place, loopback⟩, hthere, hmem⟩
    obtain ⟨found, hdue, heq⟩ := List.mem_map.mp hmem
    obtain ⟨rfl, rfl⟩ := Prod.mk.inj heq
    obtain ⟨hreply, htime⟩ := List.mem_filter.mp hdue
    exact ⟨loopback, mem_loopbacks hthere, hreply, of_decide_eq_true htime⟩
  · rintro ⟨loopback, hloopback, hreply, htime⟩
    refine ⟨(session, loopback), mem_loopbacks_iff.mpr hloopback, ?_⟩
    exact List.mem_map.mpr ⟨reply, List.mem_filter.mpr ⟨hreply, decide_eq_true htime⟩, rfl⟩

/-- To forget the answers that are due concerns sessions only. -/
theorem settle_eq (network : Network α) :
    ∃ sessions, network.settle = { network with sessions } := by
  have hall : ∀ (entries : List (SessionKey × LoopbackSession Listener)) (reached : Network α),
      ∃ sessions, entries.foldl (fun network entry =>
        network.setTransport entry.1 (.loopback (entry.2.settle network.clock))) reached =
          { reached with sessions } := by
    intro entries
    induction entries with
    | nil => exact fun reached => ⟨reached.sessions, rfl⟩
    | cons entry rest ih =>
        intro reached
        obtain ⟨sessions, heq⟩ :=
          ih (reached.setTransport entry.1 (.loopback (entry.2.settle reached.clock)))
        exact ⟨sessions, heq⟩
  exact hall network.loopbacks network

private theorem loopback?_settleAll (entries : List (SessionKey × LoopbackSession Listener))
    (hnodup : (entries.map Prod.fst).Nodup)
    (hthere : ∀ entry ∈ entries, network.loopback? entry.1 = some entry.2) (place : SessionKey) :
    (entries.foldl (fun network (key, loopback) =>
        network.setTransport key (.loopback (loopback.settle network.clock))) network).loopback?
          place =
      if place ∈ entries.map Prod.fst then
        (network.loopback? place).map fun found => found.settle network.clock
      else network.loopback? place := by
  induction entries generalizing network with
  | nil => rfl
  | cons entry rest ih =>
      obtain ⟨session, loopback⟩ := entry
      obtain ⟨hnew, hrest⟩ := List.nodup_cons.mp hnodup
      obtain ⟨hfirst, hothers⟩ := List.forall_mem_cons.mp hthere
      have hset := loopback?_setTransport hfirst (loopback.settle network.clock)
      have hstill : ∀ other ∈ rest, (network.setTransport session
          (.loopback (loopback.settle network.clock))).loopback? other.1 = some other.2 := by
        intro other hmem
        have hne : other.1 ≠ session := fun heq => hnew (heq ▸ List.mem_map.mpr ⟨other, hmem, rfl⟩)
        rw [hset, if_neg hne]
        exact hothers other hmem
      refine (ih hrest hstill).trans ?_
      rw [hset]
      by_cases heq : place = session
      · subst heq
        rw [if_neg hnew, if_pos rfl, List.map_cons, if_pos List.mem_cons_self, hfirst,
          Option.map_some]
      · rw [if_neg heq]
        exact if_congr (by simp [heq]) rfl rfl

/-- Every loopback session forgets the answers whose time has come. -/
theorem loopback?_settle (network : Network α) (place : SessionKey) :
    network.settle.loopback? place =
      (network.loopback? place).map fun found => found.settle network.clock := by
  refine (loopback?_settleAll network.loopbacks network.nodup_loopbacks
    (fun entry hmem => mem_loopbacks hmem) place).trans ?_
  split
  next => rfl
  next hnot =>
    cases hloopback : network.loopback? place with
    | none => rfl
    | some loopback =>
        exact absurd (List.mem_map.mpr ⟨_, mem_loopbacks_iff.mpr hloopback, rfl⟩) hnot

/-! ## Answers that arrive -/

/-- A loopback session changes between operations as long as it is not closed or opened. -/
theorem undergo_moveLoopback (hloopback : network.loopback? session = some loopback)
    (hclosed : after.isClosed = loopback.isClosed) :
    network.undergo (.moveSession session (.loopback after)) =
      network.setTransport session (.loopback after) := by
  obtain ⟨name, attached, hsession⟩ := loopback?_eq_some.mp hloopback
  exact undergo_moveSession hsession hclosed

/-- Only loopback sessions have answers to give. -/
theorem deliver_of_none (hnone : network.loopback? session = none) (reply : Reply) :
    network.deliver quiet session reply = network := by
  rcases deliver_cases network session reply with
    hsame | ⟨name, loopback, attached, -, hsession, -⟩
  · exact hsame
  · simp [loopback?, hsession] at hnone

/-- An answer reaches the listener of its stream, if there is one. -/
theorem deliver_eq (hloopback : network.loopback? session = some loopback) (reply : Reply) :
    network.deliver quiet session reply =
      match loopback.listener? reply.stream with
      | none => network
      | some listener => network.answered session loopback reply listener := by
  obtain ⟨name, attached, hsession⟩ := loopback?_eq_some.mp hloopback
  unfold answered
  rw [undergo_moveLoopback hloopback (loopback.isClosed_drop reply.stream)]
  simp only [deliver, hsession, LoopbackSession.take]
  cases loopback.listener? reply.stream <;> rfl

/-- What an answer does to sessions is to take its stream. -/
theorem loopback?_answered (hloopback : network.loopback? session = some loopback) (reply : Reply)
    (listener : Listener) (place : SessionKey) :
    (network.answered session loopback reply listener).loopback? place =
      if place = session then some (loopback.drop reply.stream) else network.loopback? place := by
  unfold answered
  rw [undergo_moveLoopback hloopback (loopback.isClosed_drop reply.stream)]
  refine (loopback?_hears _ listener _ place).trans ((loopback?_hears _ listener _ place).trans ?_)
  exact loopback?_setTransport hloopback (loopback.drop reply.stream) place

/-! ## Dealings -/

section Induction

variable {motive : Network α → Prop} (hinStep : InStep network place)
  (hremember : ∀ reached surroundings, motive reached → motive { reached with surroundings })
  (hrearrange : ∀ reached other order, motive reached → motive (reached.rearrange other order))
include hinStep hremember hrearrange

/-- What every act of a course keeps that respects the session, the course keeps. -/
theorem InStep.induction (hcourse : Course network acts second)
    (hrespects : ∀ act ∈ acts, act.network.Respects place act.operation) (hstart : motive network)
    (hact : ∀ reached operation, InStep reached place →
      (⟨reached, operation⟩ : Act α) ∈ acts → motive reached → motive (reached.undergo operation)) :
    motive second := by
  induction hcourse with
  | start => exact hstart
  | @act middle acts operation hcourse ih =>
      have hearlier : ∀ act ∈ acts, act.network.Respects place act.operation :=
        fun act hmem => hrespects act (List.mem_append_left _ hmem)
      have hmiddle : InStep middle place :=
        hinStep.course hcourse fun act hmem _ => hearlier act hmem
      have hmotive : motive middle := ih hearlier fun reached other hreached hmem =>
        hact reached other hreached (List.mem_append_left _ hmem)
      exact hact middle operation hmiddle (by simp) hmotive
  | remember surroundings _ ih => exact hremember _ surroundings (ih hrespects hact)
  | rearrange other order _ ih => exact hrearrange _ other order (ih hrespects hact)

end Induction

/-- What pools do makes no loopback session over. -/
theorem Does.keeps (hdoes : network.Does dealing operation) (hdelivery : dealing.isDelivery = false)
    (hinside : ∀ operation hoperation, dealing ≠ .outside operation hoperation) :
    network.Keeps place operation := by
  rintro transport rfl
  cases hdoes with
  | tunes recording hsession => simp [loopback?, hsession]
  | moves _ _ hmoves => simp [hmoves] at hdelivery
  | acts _ hoperation => exact absurd rfl (hinside _ hoperation)

theorem keeps_of_moves {hoperation : operation.isInternal = false}
    (hmoves : (Dealing.outside operation hoperation).moves place = false) :
    network.Keeps place operation := by
  rintro transport rfl
  simp [Dealing.moves] at hmoves

namespace Furnished

section Step

variable (hfurnished : Furnished network place) (hinStep : InStep network place)
include hfurnished hinStep

omit hinStep in
theorem settle : Furnished network.settle place := by
  obtain ⟨sessions, heq⟩ := network.settle_eq
  have hloopback := network.loopback?_settle place
  rw [heq] at hloopback ⊢
  refine hfurnished.of_same rfl rfl (continues_of_subset (Nat.le_refl _) fun before hbefore => ?_)
  rw [hbefore, Option.map_some] at hloopback
  exact ⟨_, hloopback, rfl, rfl, rfl, fun _ hmem => (List.mem_filter.mp hmem).1⟩

/-- A delivery takes a stream from a session, and no answer. -/
theorem deliver (session : SessionKey) (reply : Reply) :
    Furnished (network.deliver quiet session reply) place := by
  cases hloopback : network.loopback? session with
  | none => rwa [deliver_of_none hloopback]
  | some loopback =>
      rw [deliver_eq hloopback]
      split
      next => exact hfurnished
      next listener hlistener =>
        let moved := network.undergo
          (.moveSession session (.loopback (loopback.drop reply.stream)))
        have hsound := hinStep.sound.undergo
          (.moveSession session (.loopback (loopback.drop reply.stream)))
        have hstocked := hinStep.stocked.undergo hinStep.sound
          (.moveSession session (.loopback (loopback.drop reply.stream)))
        have hmoved : Furnished moved place := by
          refine hfurnished.undergo hinStep.sound hinStep.stocked (continues_of_subset
            (streamsOpened_le_undergo hinStep.sound _ place) fun before hbefore => ?_)
          rw [undergo_moveLoopback hloopback (loopback.isClosed_drop reply.stream),
            loopback?_setTransport hloopback]
          split
          next heq =>
            obtain rfl := Option.some.inj (hloopback.symm.trans (heq ▸ hbefore))
            exact ⟨_, rfl, rfl, rfl, rfl, fun _ hmem => hmem⟩
          next => exact ⟨before, hbefore, rfl, rfl, rfl, fun _ hmem => hmem⟩
        have hhears : ∀ {reached : Network α}, Sound reached → Stocked reached →
            Furnished reached place → ∀ event,
              Furnished (reached.undergo (.hears listener event)) place :=
          fun hsound hstocked hreached event => hreached.undergo hsound hstocked
            (continues_of_eq (streamsOpened_le_undergo hsound _ place)
              (loopback?_hears _ listener event place))
        have hbegun := hhears hsound hstocked hmoved (.response reply.response.head)
        exact hhears (hsound.undergo _) (hstocked.undergo hsound _) hbegun
          (.data reply.response.body true)

theorem deliveries (replies : List (SessionKey × Reply)) :
    Furnished (replies.foldl (fun network (key, reply) => network.deliver quiet key reply) network)
      place := by
  induction replies generalizing network with
  | nil => exact hfurnished
  | cons entry rest ih =>
      exact ih (hfurnished.deliver hinStep entry.1 entry.2) (hinStep.deliver entry.1 entry.2)

theorem deliverOne (session : SessionKey) (reply : Reply) :
    Furnished (network.deliverOne quiet session reply) place := by
  unfold Network.deliverOne
  split
  next => exact hfurnished
  next loopback hloopback =>
    split
    next =>
      refine (hfurnished.of_same ?_ ?_ (continues_of_subset ?_ fun before hbefore => ?_)).deliver
        (hinStep.reschedule hloopback (loopback.replies.erase reply)) session reply
      · rfl
      · rfl
      · exact Nat.le_refl _
      · rw [loopback?_setTransport hloopback]
        split
        next heq =>
          obtain rfl := Option.some.inj (hloopback.symm.trans (heq ▸ hbefore))
          exact ⟨_, rfl, rfl, rfl, rfl, fun _ hmem => List.mem_of_mem_erase hmem⟩
        next => exact ⟨before, hbefore, rfl, rfl, rfl, fun _ hmem => hmem⟩
    next => exact hfurnished

/-- Operations that respect a session and do not make it over keep it furnished. -/
theorem course (hcourse : Course network acts second)
    (hrespects : ∀ act ∈ acts, act.network.Respects place act.operation)
    (hkeeps : ∀ act ∈ acts, act.network.Keeps place act.operation) : Furnished second place := by
  refine hinStep.induction (motive := fun reached => Furnished reached place)
    (fun _ _ hreached => ⟨hreached.session⟩) (fun _ other order hreached =>
      hreached.rearrange other order) hcourse hrespects hfurnished ?_
  exact fun reached operation hreached hmem hmotive => hmotive.undergo hreached.sound
    hreached.stocked (continues_undergo hreached (hrespects _ hmem) (hkeeps _ hmem))

theorem deal (answer : Answering α) (dealing : Dealing) (hmoves : dealing.moves place = false)
    (hrespects : ∀ operation hoperation, dealing = .outside operation hoperation →
      network.Respects place operation) : Furnished (network.deal answer dealing) place := by
  have hpools : dealing.isDelivery = false →
      (∀ operation hoperation, dealing ≠ .outside operation hoperation) →
      Furnished (network.deal answer dealing) place := by
    intro hdelivery hinside
    obtain ⟨acts, hcourse, hfits⟩ := course_deal hinStep.sound answer dealing
    exact hfurnished.course hinStep hcourse
      (fun act hmem => (hfits act hmem).respects hdelivery hinside)
      fun act hmem => (hfits act hmem).keeps hdelivery hinside
  cases dealing with
  | advance milliseconds =>
      have hpasses : network.Respects place (.elapse milliseconds) := trivial
      have helapsed : Furnished (network.elapse milliseconds) place :=
        hfurnished.of_same rfl rfl (continues_of_eq (Nat.le_refl _) rfl)
      have hthen := hinStep.undergo hpasses
      exact helapsed.settle.deliveries hthen.settle (network.elapse milliseconds).dueReplies
  | deliver session reply => exact hfurnished.deliverOne hinStep session reply
  | outside operation hoperation =>
      exact hfurnished.undergo hinStep.sound hinStep.stocked
        (continues_undergo hinStep (hrespects operation hoperation rfl) (keeps_of_moves hmoves))
  | send | acquire | close | rearrange => exact hpools rfl (by simp)

/-- A session that is respected and not made over in any dealing stays furnished. -/
theorem deals {dealings : List Dealing} (hrespected : Respected answer place network dealings)
    (hmoves : ∀ dealing ∈ dealings, dealing.moves place = false) :
    Furnished (network.deals answer dealings) place := by
  induction dealings generalizing network with
  | nil => exact hfurnished
  | cons dealing rest ih =>
      obtain ⟨hfirst, hrest⟩ := hrespected
      obtain ⟨hmove, hmoves⟩ := List.forall_mem_cons.mp hmoves
      have hrespects : ∀ operation hoperation, dealing = .outside operation hoperation →
          network.Respects place operation := by
        rintro operation hoperation rfl
        exact hfirst
      exact ih (hfurnished.deal hinStep answer dealing hmove hrespects)
        (hinStep.deal answer dealing hrespects) hrest hmoves

end Step

end Furnished

end Network

end Multiplex
