import Multiplex.Proofs.Pool.LoopbackSupply

/-!
# Sessions and connections that agree

`InStep` gathers what is known of a session that belongs to one connection.  Operations that
respect the session keep it, and so does the delivery of an answer, which takes a stream away
from a session first and ends its channel afterwards: in between the two are out of step, and
so a delivery is dealt with as one.

Every dealing comes to such operations and deliveries.  In particular the streams of the
session are those of the channels of its connection between any two dealings, and a pool
whose connections take as many channels as their sessions take streams never tries twice.
-/

namespace Multiplex.Network

variable {α : Type} {network first second : Network α} {id : ChannelId} {key : ConnectionKey}
  {connection : Connection} {loopback before after : LoopbackSession Listener}
  {place session : SessionKey} {stream : StreamId} {operation : Operation} {target : ExchangeId}
  {acts : List (Act α)} {answer : Answering α} {dealing : Dealing} {owner : PoolKey} {pool : Pool}

/-! ## Answers -/

/-- Where an answer leads to that has a listener: its stream is taken, and the listener hears
the head and the whole body. -/
def answered (network : Network α) (session : SessionKey) (loopback : LoopbackSession Listener)
    (reply : Reply) (listener : Listener) : Network α :=
  ((network.undergo (.moveSession session (.loopback (loopback.drop reply.stream)))).undergo
    (.hears listener (.response reply.response.head))).undergo
      (.hears listener (.data reply.response.body true))

/-- In the second network an answer has taken a stream of the first, and a channel has heard
its head. -/
structure Begins (first second : Network α) (session : SessionKey)
    (loopback : LoopbackSession Listener) (stream : StreamId) (id : ChannelId)
    (head : Http.ResponseHead) : Prop where
  loopback? : ∀ other, second.loopback? other =
    if other = session then some (loopback.drop stream) else first.loopback? other
  channel? : ∀ other, second.channel? other =
    if other = id then (first.channel? other).map fun found => found.collectHead head
    else first.channel? other
  connection? : second.connection? = first.connection?
  streamsOpened : ∀ place, second.streamsOpened place = first.streamsOpened place

private theorem begins_of_loopback (hloopback : network.loopback? session = some loopback)
    (stream : StreamId) (id : ChannelId) (head : Http.ResponseHead) :
    Begins network
      ((network.undergo (.moveSession session (.loopback (loopback.drop stream)))).undergo
        (.hears (.channel id) (.response head))) session loopback stream id head := by
  obtain ⟨name, attached, hsession⟩ := loopback?_eq_some.mp hloopback
  have hmoved : network.undergo (.moveSession session (.loopback (loopback.drop stream))) =
      network.setTransport session (.loopback (loopback.drop stream)) :=
    undergo_moveSession hsession rfl
  rw [hmoved]
  exact
    { loopback? := fun other => loopback?_setTransport hloopback (loopback.drop stream) other
      channel? := fun other => channel?_modifyChannel _ id other _
      connection? := rfl
      streamsOpened := fun _ => rfl }

/-- The body that follows ends the channel, whose stream is gone already. -/
theorem Begins.bears {head : Http.ResponseHead} {body : Octets}
    (hbegins : Begins first second place loopback stream id head) (hsound : Sound second)
    (hlater : Later first (second.channelHears quiet id (.data body true)))
    (hloopback : first.loopback? place = some loopback)
    (hconnection : first.connection? key = some connection) (hover : connection.session = place)
    (hlive : id ∈ connection.live) (hstream : first.stream? id = some stream) :
    Bears first (second.channelHears quiet id (.data body true)) place := by
  have hanswered := loopback?_channelHears second id (.data body true) place
  have hstep := brings_event hsound id (.data body true)
  generalize second.channelHears quiet id (.data body true) = third at hlater hanswered hstep
  obtain ⟨channel, hfound, -⟩ := Option.bind_eq_some_iff.mp hstream
  have hchannel : second.channel? id = some (channel.collectHead head) := by
    rw [hbegins.channel?, if_pos rfl, hfound]
    rfl
  cases hstep with
  | unheard hnone => simp [hchannel] at hnone
  | @absorbed _ _ same hsame hverdict =>
      -- The body is complete, so it is the last that the channel hears.
      have hlast := same.isSome_verdict? (.data body true)
      rw [hverdict] at hlast
      exact Bool.noConfusion hlast
  | reported _ _ hstops _ htrace =>
      refine bears_of_ended hlater (fun other hnone => ?_) (fun other => ?_)
        ((streamsOpened_of_parting htrace place).trans (hbegins.streamsOpened place)) hconnection
        hover hlive hstream ?_
      · have hbefore : second.channel? other = none := by
          rw [hbegins.channel?, hnone]
          split <;> rfl
        exact hstops.channel_none hbefore
      · rw [hstops.connection?, hbegins.connection?]
      · rw [hanswered, hbegins.loopback?, if_pos rfl, hloopback]
        exact .old (.refl _)

/-! ## In step -/

/-- A session and its connection are in step, in a network where channels listen to their own
sessions, and pools get theirs from their factories. -/
structure InStep (network : Network α) (place : SessionKey) : Prop where
  sound : Sound network
  stocked : Stocked network
  mirrored : Mirrored network place
  hosting : Hosting network
  supplied : Supplied network place

theorem inStep_blank (surroundings : α) (place : SessionKey) :
    InStep (blank surroundings) place where
  sound := sound_blank surroundings
  stocked := stocked_blank surroundings
  mirrored := mirrored_blank surroundings place
  hosting := hosting_blank surroundings
  supplied := supplied_blank surroundings place

namespace InStep

variable (hinStep : InStep network place)
include hinStep

theorem undergo (hrespects : network.Respects place operation) :
    InStep (network.undergo operation) place := by
  have hbears := bears_undergo hinStep.sound hinStep.mirrored hrespects
  exact
    { sound := hinStep.sound.undergo operation
      stocked := hinStep.stocked.undergo hinStep.sound operation
      mirrored := hinStep.mirrored.bears hinStep.sound.coherent hbears
      hosting := hinStep.hosting.undergo hinStep.sound hrespects
      supplied := hinStep.supplied.undergo hinStep.sound hinStep.stocked hbears.lasts }

/-- Other surroundings and other orders make no difference. -/
theorem remember (surroundings : α) : InStep { network with surroundings } place where
  sound := hinStep.sound.remember surroundings
  stocked := ⟨hinStep.stocked.listed, hinStep.stocked.once⟩
  mirrored := ⟨hinStep.mirrored.unheld, hinStep.mirrored.alone, hinStep.mirrored.unborn,
    hinStep.mirrored.ordered, hinStep.mirrored.idle, fun hloopback hconnection hover =>
      let hagrees := hinStep.mirrored.agrees hloopback hconnection hover
      ⟨hagrees.closed, hagrees.within, hagrees.same⟩⟩
  hosting := hinStep.hosting
  supplied := ⟨hinStep.supplied.session⟩

theorem rearrange (other : PoolKey) (order : List (ConnectionId × ConnectionKey)) :
    InStep (network.rearrange other order) place where
  sound := hinStep.sound.rearrange other order
  stocked := hinStep.stocked.rearrange other order
  mirrored := ⟨hinStep.mirrored.unheld, hinStep.mirrored.alone, hinStep.mirrored.unborn,
    hinStep.mirrored.ordered, hinStep.mirrored.idle, fun hloopback hconnection hover =>
      let hagrees := hinStep.mirrored.agrees hloopback hconnection hover
      ⟨hagrees.closed, hagrees.within, hagrees.same⟩⟩
  hosting := hinStep.hosting
  supplied := hinStep.supplied.rearrange other order

/-- The listener of a stream of the session is a channel that the connection lists. -/
theorem listener (hloopback : network.loopback? place = some loopback) {listener : Listener}
    (hmem : (stream, listener) ∈ loopback.streams) :
    ∃ key connection id, network.connection? key = some connection ∧ connection.session = place ∧
      id ∈ connection.live ∧ network.stream? id = some stream ∧ listener = .channel id := by
  by_cases hidle : ∀ key connection, network.connection? key = some connection →
      connection.session ≠ place
  · obtain ⟨hempty, -⟩ := hinStep.mirrored.idle hloopback hidle
    simp [hempty] at hmem
  · obtain ⟨key, connection, hconnection, hover⟩ : ∃ key connection,
        network.connection? key = some connection ∧ connection.session = place := by
      simpa using hidle
    have hagrees := hinStep.mirrored.agrees hloopback hconnection hover
    obtain ⟨id, hlive, hstream, hlistener⟩ := mem_streamsOn.mp (hagrees.within.subset hmem)
    exact ⟨key, connection, id, hconnection, hover, hlive, hstream, hlistener⟩

private theorem deliver_own (hloopback : network.loopback? place = some loopback) {reply : Reply}
    {listener : Listener} (hmem : (reply.stream, listener) ∈ loopback.streams) :
    InStep (network.answered place loopback reply listener) place := by
  obtain ⟨key, connection, id, hconnection, hover, hlive, hstream, rfl⟩ :=
    hinStep.listener hloopback hmem
  let moved := network.undergo (.moveSession place (.loopback (loopback.drop reply.stream)))
  let begun := moved.undergo (.hears (.channel id) (.response reply.response.head))
  have hmoved : Sound moved := hinStep.sound.undergo _
  have hbegun : Sound begun := hmoved.undergo _
  have hstock : Stocked moved := hinStep.stocked.undergo hinStep.sound _
  have hlater : Later network (network.answered place loopback reply (.channel id)) :=
    ((later_undergo hinStep.sound _).trans (later_undergo hmoved _)).trans (later_undergo hbegun _)
  have hbegins : Begins network begun place loopback reply.stream id reply.response.head :=
    begins_of_loopback hloopback reply.stream id reply.response.head
  have hbears : Bears network (network.answered place loopback reply (.channel id)) place :=
    hbegins.bears hbegun hlater hloopback hconnection hover hlive hstream
  have hheard : ∀ (reached : Network α) (event : StreamEvent) (other : SessionKey),
      (reached.undergo (.hears (.channel id) event)).loopback? other = reached.loopback? other :=
    fun reached event other => reached.loopback?_hears (.channel id) event other
  refine
    { sound := hbegun.undergo _
      stocked := (hstock.undergo hmoved _).undergo hbegun _
      mirrored := hinStep.mirrored.bears hinStep.sound.coherent hbears
      hosting := hinStep.hosting.fewer hlater fun other after hafter => ?_
      supplied := ?_ }
  · have hthere := ((hheard begun _ other).trans (hbegins.loopback? other)).symm.trans hafter
    split at hthere
    next hsame =>
      obtain rfl := Option.some.inj hthere
      exact ⟨loopback, hsame ▸ hloopback, loopback.streams_drop_subset reply.stream⟩
    next => exact ⟨after, hthere, fun _ hmem => hmem⟩
  · -- The session lost a stream, but it is still a loopback session with its limit.
    have hlasts : Lasts network moved place := by
      intro before hbefore
      obtain rfl := Option.some.inj (hloopback.symm.trans hbefore)
      refine ⟨loopback.drop reply.stream, ?_, rfl⟩
      rw [← hheard moved (.response reply.response.head), hbegins.loopback?, if_pos rfl]
    have hsupplied : Supplied moved place :=
      hinStep.supplied.undergo hinStep.sound hinStep.stocked hlasts
    have hkept : Supplied begun place :=
      hsupplied.undergo hmoved hstock (.of_eq (hheard moved _ place))
    exact hkept.undergo hbegun (hstock.undergo hmoved _) (.of_eq (hheard begun _ place))

private theorem deliver_other (hne : session ≠ place)
    (hloopback : network.loopback? session = some loopback) {reply : Reply} {listener : Listener}
    (hmem : (reply.stream, listener) ∈ loopback.streams) :
    InStep (network.answered session loopback reply listener) place := by
  have hhosts := hinStep.hosting session loopback hloopback
  have hsubset := loopback.streams_drop_subset reply.stream
  have hrespects : network.Respects place
      (.moveSession session (.loopback (loopback.drop reply.stream))) :=
    ⟨fun heq => absurd heq hne, fun _ stream id hmem => hhosts stream id (hsubset hmem)⟩
  have hmoved := hinStep.undergo hrespects
  -- Whoever listens to another session goes over that session, now and later.
  have hhears : ∀ {reached : Network α}, InStep reached place → Later network reached →
      ∀ event, InStep (reached.undergo (.hears listener event)) place := by
    intro reached hreached hlater event
    refine hreached.undergo ?_
    cases listener with
    | observer name => trivial
    | channel id =>
        intro channel hchannel hover
        obtain ⟨before, hbefore, hgoes⟩ := hhosts reply.stream id hmem
        obtain ⟨after, hafter, hages⟩ := hlater.channel hbefore
        obtain rfl := Option.some.inj (hchannel.symm.trans hafter)
        exact hne (hgoes.symm.trans (hages.session.symm.trans hover))
  have hlater := later_undergo hinStep.sound
    (.moveSession session (.loopback (loopback.drop reply.stream)))
  have hbegun := hhears hmoved hlater (.response reply.response.head)
  exact hhears hbegun (hlater.trans (later_undergo hmoved.sound _)) (.data reply.response.body true)

/-- The session stays in step when an answer arrives, be it its own or that of another
session. -/
theorem deliver (session : SessionKey) (reply : Reply) :
    InStep (network.deliver quiet session reply) place := by
  rcases deliver_cases network session reply with
    hsame | ⟨name, loopback, attached, listener, hsession, hlistener, hdelivered⟩
  · rw [hsame]
    exact hinStep
  have hloopback := loopback?_eq_some.mpr ⟨name, attached, hsession⟩
  have hmem := LoopbackSession.mem_of_listener? hlistener
  rw [hdelivered]
  by_cases heq : session = place
  · subst heq
    exact hinStep.deliver_own hloopback hmem
  · exact hinStep.deliver_other heq hloopback hmem

/-! ## Dealings -/

/-- What operations keep that respect the session, a course of them keeps. -/
theorem course (hcourse : Course network acts second)
    (hrespects : ∀ act ∈ acts, InStep act.network place →
      act.network.Respects place act.operation) : InStep second place := by
  induction hcourse with
  | start => exact hinStep
  | @act middle acts operation _ ih =>
      have hmiddle := ih fun act hmem => hrespects act (List.mem_append_left _ hmem)
      exact hmiddle.undergo (hrespects ⟨middle, operation⟩ (by simp) hmiddle)
  | remember surroundings _ ih => exact (ih hrespects).remember surroundings
  | rearrange other order _ ih => exact (ih hrespects).rearrange other order

omit hinStep in
/-- To change which answers a session has still to give respects every session. -/
theorem respects_of_reschedules {act : Act α} (hthere : InStep act.network place)
    (hreschedules : act.Reschedules) : act.network.Respects place act.operation := by
  obtain ⟨session, loopback, replies, hloopback, hoperation⟩ := hreschedules
  rw [hoperation]
  refine ⟨?_, fun _ => hthere.hosting session loopback hloopback⟩
  rintro rfl
  exact ⟨loopback, hloopback, rfl, rfl, rfl, rfl⟩

theorem deliveries (replies : List (SessionKey × Reply)) :
    InStep (replies.foldl (fun network (key, reply) => network.deliver quiet key reply) network)
      place := by
  induction replies generalizing network with
  | nil => exact hinStep
  | cons entry rest ih => exact ih (hinStep.deliver entry.1 entry.2)

/-- Which answers some session has still to give does not matter. -/
theorem reschedule (hloopback : network.loopback? session = some loopback) (replies : List Reply) :
    InStep (network.setTransport session (.loopback { loopback with replies })) place := by
  obtain ⟨acts, hlogs, hreschedule⟩ := logs_reschedule (.advance 0) rfl hloopback replies
  exact hinStep.course hlogs.course fun act hmem hthere =>
    respects_of_reschedules hthere (hreschedule act hmem)

theorem settle : InStep network.settle place := by
  obtain ⟨acts, hlogs, hreschedule⟩ := logs_settle (.advance 0) rfl network
  exact hinStep.course hlogs.course fun act hmem hthere =>
    respects_of_reschedules hthere (hreschedule act hmem)

theorem advance (milliseconds : Nat) :
    InStep ((network.elapse milliseconds).deliverDue quiet) place := by
  have hpasses : network.Respects place (.elapse milliseconds) := trivial
  have hsettled := (hinStep.undergo hpasses).settle
  exact hsettled.deliveries (network.elapse milliseconds).dueReplies

theorem deliverOne (session : SessionKey) (reply : Reply) :
    InStep (network.deliverOne quiet session reply) place := by
  unfold Network.deliverOne
  split
  next => exact hinStep
  next loopback hloopback =>
    split
    next =>
      have herased := hinStep.reschedule hloopback (loopback.replies.erase reply)
      exact herased.deliver session reply
    next => exact hinStep

end InStep

theorem Does.respects (hdoes : network.Does dealing operation)
    (hdelivery : dealing.isDelivery = false)
    (hinside : ∀ operation hoperation, dealing ≠ .outside operation hoperation) :
    network.Respects place operation := by
  cases hdoes with
  | tunes recording hsession =>
      rintro rfl
      simp [loopback?, hsession]
  | moves _ _ hmoves => simp [hmoves] at hdelivery
  | hears _ _ hhears => simp [hhears] at hdelivery
  | acts _ hoperation => exact absurd rfl (hinside operation hoperation)
  | takes | opens | sends | letsGo | shuts | closes | passes => trivial

namespace InStep

theorem deal (hinStep : InStep network place) (answer : Answering α) (dealing : Dealing)
    (hrespects : ∀ operation hoperation, dealing = .outside operation hoperation →
      network.Respects place operation) : InStep (network.deal answer dealing) place := by
  have hpools : dealing.isDelivery = false →
      (∀ operation hoperation, dealing ≠ .outside operation hoperation) →
      InStep (network.deal answer dealing) place := by
    intro hdelivery hinside
    obtain ⟨acts, hcourse, hfits⟩ := course_deal hinStep.sound answer dealing
    exact hinStep.course hcourse fun act hmem _ => (hfits act hmem).respects hdelivery hinside
  cases dealing with
  | advance milliseconds => exact hinStep.advance milliseconds
  | deliver session reply => exact hinStep.deliverOne session reply
  | outside operation hoperation => exact hinStep.undergo (hrespects operation hoperation rfl)
  | send | acquire | close | rearrange => exact hpools rfl (by simp)

/-- A session that is respected in all dealings stays in step with its connection. -/
theorem deals (hinStep : InStep network place) {dealings : List Dealing}
    (hrespected : Respected answer place network dealings) :
    InStep (network.deals answer dealings) place := by
  induction dealings generalizing network with
  | nil => exact hinStep
  | cons dealing rest ih =>
      obtain ⟨hfirst, hrest⟩ := hrespected
      refine ih (hinStep.deal answer dealing fun operation hoperation heq => ?_) hrest
      subst heq
      exact hfirst

end InStep

/-! ## What callers can rely on -/

/-- The streams of a session are those of the channels that its connection lists, one to one,
and every channel listens to its stream. -/
structure Corresponds (network : Network α) (connection : Connection)
    (loopback : LoopbackSession Listener) : Prop where
  streams : ∀ stream listener, (stream, listener) ∈ loopback.streams ↔
    ∃ id ∈ connection.live, network.stream? id = some stream ∧ listener = .channel id
  once : (loopback.streams.map Prod.fst).Nodup
  each : ∀ id ∈ connection.live, (network.stream? id).isSome = true
  apart : ∀ id ∈ connection.live, ∀ other ∈ connection.live,
    network.stream? id = network.stream? other → id = other
  count : loopback.openStreams = connection.channelCount

/-- As long as no number of a stream has come twice, a session and a connection in step
correspond. -/
theorem InStep.corresponds (hinStep : InStep network place)
    (hloopback : network.loopback? place = some loopback)
    (hconnection : network.connection? key = some connection) (hover : connection.session = place)
    (hfew : network.streamsOpened place < 2 ^ 31) : network.Corresponds connection loopback := by
  have hsame : loopback.streams = network.streamsOn connection.live :=
    (hinStep.mirrored.agrees hloopback hconnection hover).same hfew
  have honce := (hinStep.mirrored.ordered hloopback).once hfew
  have heach : ∀ id ∈ connection.live, (network.stream? id).isSome = true := by
    intro id hlive
    obtain ⟨channel, waiting, exchange, hchannel, hworks, -⟩ :=
      hinStep.sound.coherent.works hconnection hlive
    rw [stream?, hchannel]
    exact hworks.stream
  have hthere : ∀ {stream listener}, (stream, listener) ∈ loopback.streams ↔
      ∃ id ∈ connection.live, network.stream? id = some stream ∧ listener = .channel id := by
    intro stream listener
    rw [hsame]
    exact mem_streamsOn
  refine
    { streams := fun _ _ => hthere
      once := honce
      each := heach
      apart := fun id hlive other hother heq => ?_
      count := ?_ }
  · obtain ⟨stream, hstream⟩ := Option.isSome_iff_exists.mp (heach id hlive)
    have hfirst : (stream, Listener.channel id) ∈ loopback.streams :=
      hthere.mpr ⟨id, hlive, hstream, rfl⟩
    have hsecond : (stream, Listener.channel other) ∈ loopback.streams :=
      hthere.mpr ⟨other, hother, heq.symm.trans hstream, rfl⟩
    have hentry := List.inj_on_of_nodup_map honce hfirst hsecond rfl
    exact Listener.channel.inj (Prod.mk.inj hentry).2
  · rw [LoopbackSession.openStreams, hsame]
    exact length_streamsOn heach

/-- A pool tries an exchange once at most, and no connection turns it down because it is
closed or its session is full. -/
structure SentAtOnce (network : Network α) (answer : Answering α) (owner : PoolKey) (pool : Pool)
    (target : ExchangeId) : Prop where
  once : network.sendPooled (answering answer) owner target =
    if pool.attempts?.isSome then
      ((network.attempt (answering answer) owner target 1 none).1,
        some (network.attempt (answering answer) owner target 1 none).2)
    else (network, none)
  opened : ∀ error,
    (network.sendPooled (answering answer) owner target).2 ≠ some (.error (.openFailed error))
  accepted : ∀ error, (network.sendPooled (answering answer) owner target).2 =
    some (.error (.sendFailed error)) → error ≠ .session .closed ∧
      (∀ limit, error ≠ .session (.tooManyStreams limit)) ∧ error.isRetryable = false

private theorem sentAtOnce_of_provides (hsound : Sound network) (hprovides : Provides network owner)
    (hthere : (network.exchange? target).isSome = true) (hpool : network.pool? owner = some pool)
    {limit delay : Nat} {responder : Responder}
    (hfactory : pool.factory = .loopback limit delay responder) :
    network.SentAtOnce answer owner pool target := by
  have honce : network.sendPooled (answering answer) owner target =
      if pool.attempts?.isSome then
        ((network.attempt (answering answer) owner target 1 none).1,
          some (network.attempt (answering answer) owner target 1 none).2)
      else (network, none) := by
    cases hattempts : pool.attempts? with
    | none => simp [sendPooled, hpool, hattempts]
    | some attempts =>
        obtain rfl := Pool.eq_of_attempts? hattempts
        rw [sendPooled_eq hpool hattempts, attempt_once hsound hprovides hthere]
        rfl
  have hfailed : ∀ failure,
      (network.sendPooled (answering answer) owner target).2 = some (.error failure) →
      failure = .closed ∨ failure = .exhausted pool.maxConnections ∨
        ∃ error, failure = .sendFailed error ∧ error.isRetryable = false := by
    intro failure hfailure
    rw [honce] at hfailure
    split at hfailure
    next => exact attempt_error hsound hprovides hthere hpool hfactory (Option.some.inj hfailure)
    next => cases hfailure
  refine ⟨honce, fun error hopened => ?_, fun error hsent => ?_⟩
  · rcases hfailed _ hopened with hclosed | hfull | ⟨failure, hother, -⟩ <;> simp_all
  · rcases hfailed _ hsent with hclosed | hfull | ⟨failure, hsame, hblamed⟩
    · simp at hclosed
    · simp at hfull
    · obtain rfl := PoolError.sendFailed.inj hsame
      refine ⟨?_, fun limit => ?_, hblamed⟩
      all_goals
        rintro rfl
        simp [DispatchError.isRetryable] at hblamed

/-- After any dealings that respect a loopback session, and as long as fewer than `2 ^ 31`
streams of it were opened, its streams correspond to the channels of the connection over it.
If all sessions of a pool are loopback sessions that are respected, and take as many streams
as the pool allows channels, no exchange that is sent on the pool is ever tried twice. -/
theorem lockstep_deals (surroundings : α) (answer : Answering α) (dealings : List Dealing) :
    let final := (blank surroundings).deals answer dealings
    (∀ key connection loopback, final.connection? key = some connection →
        final.loopback? connection.session = some loopback →
        Respected answer connection.session (blank surroundings) dealings →
        final.streamsOpened connection.session < 2 ^ 31 → final.Corresponds connection loopback) ∧
      ∀ owner pool limit delay responder target, final.pool? owner = some pool →
        pool.factory = .loopback limit delay responder → limit = pool.maxStreams → 1 ≤ limit →
        (∀ key connection, final.connection? key = some connection →
          connection.destination = .pool owner →
          Respected answer connection.session (blank surroundings) dealings) →
        final.holds target = true → final.SentAtOnce answer owner pool target := by
  intro final
  have hinStep : ∀ {place}, Respected answer place (blank surroundings) dealings →
      InStep final place := fun hrespected => (inStep_blank surroundings _).deals hrespected
  have hsound : Sound final := (sound_blank surroundings).deals answer dealings
  have hlimited : Limited (blank surroundings) := fun hfound => by simp at hfound
  refine ⟨fun key connection loopback hconnection hloopback hrespected hfew => ?_, ?_⟩
  · exact (hinStep hrespected).corresponds hloopback hconnection rfl hfew
  · intro owner pool limit delay responder target hpool hfactory hlimit hpositive hown hheld
    have hprovides : Provides final owner := by
      refine provides_of_mirrored hsound ?_ hpool hfactory hlimit hpositive
        fun {key connection} hconnection hdestination => ?_
      · exact hlimited.deals (sound_blank surroundings) (stocked_blank surroundings) answer dealings
      · have hready := hinStep (hown key connection hconnection hdestination)
        exact ⟨hready.mirrored, hready.supplied⟩
    obtain ⟨exchange, hexchange, -⟩ := holds_iff.mp hheld
    have hthere : (final.exchange? target).isSome = true := by rw [hexchange, Option.isSome_some]
    exact sentAtOnce_of_provides hsound hprovides hthere hpool hfactory

/-- Dealings after which an exchange is under way on a pool over loopback sessions, and another
is about to be sent. -/
def echoDealings : List Dealing :=
  let request : Http.Request := ⟨.connect, .absolute .https ⟨"c"⟩ .slash, .http2, ⟨[]⟩, []⟩
  [.outside (.makePool "p" 1 2 (.loopback 2 5 echo)) rfl, .outside (.makeExchange request) rfl,
    .send ⟨1⟩ ⟨1⟩, .outside (.makeExchange request) rfl]

/-- The first exchange has its stream, and the second will get one at once. -/
theorem lockstep_deals_echo :
    let final := (blank ()).deals steadfast echoDealings
    (∃ connection loopback, final.connection? ⟨1⟩ = some connection ∧
        final.loopback? connection.session = some loopback ∧ connection.channelCount = 1 ∧
        final.Corresponds connection loopback) ∧
      ∃ pool, final.pool? ⟨1⟩ = some pool ∧ final.SentAtOnce steadfast ⟨1⟩ pool ⟨2⟩ := by
  intro final
  have hrespected : ∀ place, Respected steadfast place (blank ()) echoDealings :=
    fun _ => ⟨trivial, trivial, trivial, trivial, trivial⟩
  have hconnection : final.connection? ⟨1⟩ = some
      { id := ⟨1⟩, destination := .pool ⟨1⟩, session := ⟨1⟩, limit := 2, live := [⟨1⟩] } := rfl
  have hpool : final.pool? ⟨1⟩ = some
      { name := "p", maxConnections := 1, maxStreams := 2, factory := .loopback 2 5 echo,
        opened := 1, listed := [(⟨1⟩, ⟨1⟩)] } := rfl
  have hopened : final.streamsOpened ⟨1⟩ = 1 := rfl
  have hfew : final.streamsOpened ⟨1⟩ < 2 ^ 31 := by rw [hopened]; decide
  have hthere : (final.loopback? ⟨1⟩).isSome = true := rfl
  obtain ⟨loopback, hloopback⟩ := Option.isSome_iff_exists.mp hthere
  obtain ⟨hcorresponds, hsent⟩ := lockstep_deals () steadfast echoDealings
  refine ⟨⟨_, loopback, hconnection, hloopback, rfl, ?_⟩, _, hpool, ?_⟩
  · exact hcorresponds ⟨1⟩ _ loopback hconnection hloopback (hrespected ⟨1⟩) hfew
  · exact hsent ⟨1⟩ _ 2 5 echo ⟨2⟩ hpool rfl rfl (by decide) (fun _ _ _ _ => hrespected _) rfl

end Multiplex.Network
