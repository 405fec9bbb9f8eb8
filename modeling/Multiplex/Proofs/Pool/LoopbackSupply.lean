import Multiplex.Proofs.Connection.FailedSend
import Multiplex.Proofs.Loopback.Listeners

/-!
# Pools over loopback sessions

The sessions of such a pool come from its factory, and each takes as many streams as the
factory says.  If that is what the connections of the pool take in channels, there is room in
a session wherever there is room on its connection.

A pool sends where a connection has room, so the session opens the stream.  The failures
that are left are the fault of the exchange, and these no other connection would cure:
nothing is ever tried twice.
-/

namespace Multiplex.Network

variable {α : Type} {network first second : Network α} {id : ChannelId} {key : ConnectionKey}
  {connection : Connection} {loopback before after : LoopbackSession Listener}
  {place : SessionKey} {operation : Operation} {channel : Channel} {target : ExchangeId}
  {exchange : Exchange} {owner : PoolKey} {pool : Pool} {transport : Transport}
  {answer : Answering α} {error : DispatchError} {limit delay : Nat} {responder : Responder}

/-! ## What sessions have room for -/

/-- A session takes as many streams as it did before. -/
def Lasts (first second : Network α) (place : SessionKey) : Prop :=
  ∀ before, first.loopback? place = some before →
    ∃ after, second.loopback? place = some after ∧ after.limit = before.limit

theorem Lasts.of_eq (hsame : second.loopback? place = first.loopback? place) :
    Lasts first second place :=
  fun before hbefore => ⟨before, hsame.trans hbefore, rfl⟩

/-- Whatever a session bears, it takes as many streams as it did before. -/
theorem Bears.lasts (hbears : Bears first second place) : Lasts first second place := by
  intro before hbefore
  obtain ⟨after, hafter⟩ := Option.isSome_iff_exists.mp (hbears.stays before hbefore)
  refine ⟨after, hafter, ?_⟩
  cases hbears.affects after hafter with
  | born hnone => simp [loopback?, hnone] at hbefore
  | leaves hsame halike =>
      obtain rfl := Option.some.inj (hbefore.symm.trans hsame)
      exact halike.limit
  | ends hsame halike =>
      obtain rfl := Option.some.inj (hbefore.symm.trans hsame)
      exact halike.limit
  | closes hsame heq =>
      obtain rfl := Option.some.inj (hbefore.symm.trans hsame)
      rw [heq, LoopbackSession.close]
      split <;> rfl
  | opens hsame hopened =>
      obtain rfl := Option.some.inj (hbefore.symm.trans hsame)
      exact hopened.limit

/-- If the connection over a session comes from a pool with loopback sessions, the session is
one of them. -/
structure Supplied (network : Network α) (place : SessionKey) : Prop where
  session : ∀ {key connection owner pool limit delay responder},
    network.connection? key = some connection → connection.session = place →
    connection.destination = .pool owner → network.pool? owner = some pool →
    pool.factory = .loopback limit delay responder →
    ∃ loopback, network.loopback? place = some loopback ∧ loopback.limit = limit

theorem supplied_blank (surroundings : α) (place : SessionKey) :
    Supplied (blank surroundings) place :=
  ⟨fun hfound => by simp at hfound⟩

/-- A loopback factory provides a loopback session on which nothing has happened yet. -/
theorem loopback?_opened (hopens : Opens first second owner pool transport)
    (hfactory : pool.factory = .loopback limit delay responder) :
    second.loopback? first.nextSession =
      some { connection := ⟨pool.opened + 1⟩, limit, delay, responder } := by
  have hprovided := hopens.provided
  rw [hfactory] at hprovided
  obtain rfl := Except.ok.inj hprovided
  refine loopback?_eq_some.mpr ⟨pool.label (pool.opened + 1), some first.nextConnection, ?_⟩
  rw [hopens.session?, if_pos rfl]

/-- A connection of a pool over loopback sessions was one before, or it is new and its session
comes from the factory. -/
theorem Turns.source (hturns : Turns first operation second) (hhoused : Housed first)
    (hlater : Later first second) (hafter : second.connection? key = some connection)
    (hdestination : connection.destination = .pool owner) (hpool : second.pool? owner = some pool)
    (hfactory : pool.factory = .loopback limit delay responder) :
    (∃ earlier numbered, first.connection? key = some earlier ∧
        earlier.session = connection.session ∧ earlier.destination = .pool owner ∧
        first.pool? owner = some numbered ∧ numbered.factory = .loopback limit delay responder) ∨
      ∃ opening transport, Opens first second owner opening transport ∧
        opening.factory = .loopback limit delay responder ∧
        connection.session = first.nextSession := by
  -- The factory was the same before.
  have hbefore : ∀ {earlier}, first.pool? owner = some earlier →
      earlier.factory = .loopback limit delay responder := by
    intro earlier hearlier
    have hages := (hturns.pool_ages owner).change_of_some hearlier hpool
    exact (hages.loopback limit delay responder).mp hfactory
  rcases hturns.connection_before hafter hdestination with
    ⟨earlier, hearlier, hgoes, -⟩ | ⟨opening, transport, hopening, hopens, rfl⟩
  · obtain ⟨same, hsame, hages⟩ := hlater.connection hearlier
    obtain rfl := Option.some.inj (hafter.symm.trans hsame)
    obtain ⟨numbered, hnumbered, -⟩ := hhoused.numbered hearlier hgoes
    exact .inl ⟨earlier, numbered, hearlier, hages.session.symm, hgoes, hnumbered,
      hbefore hnumbered⟩
  · exact .inr ⟨opening, transport, hopens, hbefore hopening, rfl⟩

/-- A connection that a pool opens gets a session from its factory, and later on the session
lasts. -/
theorem Supplied.turns (hsupplied : Supplied first place) (hhoused : Housed first)
    (hturns : Turns first operation second) (hlater : Later first second)
    (hlasts : Lasts first second place) : Supplied second place := by
  refine ⟨fun {key connection owner pool limit delay responder} hafter hover hdestination hpool
    hfactory => ?_⟩
  rcases hturns.source hhoused hlater hafter hdestination hpool hfactory with
    ⟨earlier, numbered, hearlier, hsession, hgoes, hnumbered, hmade⟩ |
    ⟨opening, transport, hopens, hmade, hnext⟩
  · obtain ⟨loopback, hloopback, hlimit⟩ :=
      hsupplied.session hearlier (hsession.trans hover) hgoes hnumbered hmade
    obtain ⟨lasting, hlasting, hkept⟩ := hlasts loopback hloopback
    exact ⟨lasting, hlasting, hkept.trans hlimit⟩
  · rw [← hover, hnext]
    exact ⟨_, loopback?_opened hopens hmade, rfl⟩

theorem Supplied.undergo (hsupplied : Supplied network place) (hsound : Sound network)
    (hstocked : Stocked network) (hlasts : Lasts network (network.undergo operation) place) :
    Supplied (network.undergo operation) place :=
  hsupplied.turns hsound.housed (turns_undergo hsound hstocked operation)
    (later_undergo hsound operation) hlasts

theorem Supplied.rearrange (hsupplied : Supplied network place) (other : PoolKey)
    (order : List (ConnectionId × ConnectionKey)) :
    Supplied (network.rearrange other order) place := by
  refine ⟨fun {key connection owner pool limit delay responder} hconnection hover hdestination hpool
    hfactory => ?_⟩
  obtain ⟨listed, -, hfound⟩ := network.pool?_rearrange other owner order
  rw [hfound] at hpool
  obtain ⟨earlier, hearlier, rfl⟩ := Option.map_eq_some_iff.mp hpool
  exact hsupplied.session hconnection hover hdestination hearlier hfactory

/-! ## Where a stream is opened -/

/-- A connection can take an exchange: it is open, and its session is open and has room. -/
structure Ready (network : Network α) (key : ConnectionKey) (connection : Connection)
    (loopback : LoopbackSession Listener) : Prop where
  connection? : network.connection? key = some connection
  opened : connection.isClosed = false
  loopback? : network.loopback? connection.session = some loopback
  accepting : loopback.isClosed = false
  room : loopback.openStreams < loopback.limit

/-- Where there are no more streams than channels, there is room for a stream where there is
room for a channel. -/
theorem Agrees.room {opened : Nat} (hagrees : network.Agrees connection loopback opened)
    (hlimit : loopback.limit = connection.limit) (hpositive : 1 ≤ connection.limit)
    (hcapacity : connection.live.length < connection.limit ∨ connection.live = []) :
    loopback.openStreams < loopback.limit := by
  have hstreams : loopback.openStreams ≤ (network.streamsOn connection.live).length :=
    hagrees.within.length_le
  have hchannels : (network.streamsOn connection.live).length ≤ connection.live.length :=
    List.length_filterMap_le ..
  rcases hcapacity with hfree | hempty
  · omega
  · have hnone : connection.live.length = 0 := by rw [hempty, List.length_nil]
    omega

/-- The session of such a connection would open a stream. -/
theorem Ready.willing (hready : network.Ready key connection loopback) :
    network.denial? connection.session = none := by
  obtain ⟨name, attached, hsession⟩ := loopback?_eq_some.mp hready.loopback?
  exact denial?_eq_none_iff.mpr
    ⟨_, hsession, LoopbackSession.obstacle?_eq_none hready.accepting hready.room⟩

/-- Such a connection takes whatever is not itself at fault. -/
theorem Ready.takes (hready : network.Ready key connection loopback) (hsound : Sound network)
    (hexchange : network.exchange? target = some exchange)
    (hclear : network.hurdle? connection exchange = none) :
    (network.send quiet key target).2 = .ok () := by
  obtain ⟨found, hsession, hopens⟩ := denial?_eq_none_iff.mp hready.willing
  exact (send_of_clear hready.connection? hexchange (fun _ => hsound.isSome_of_binding hexchange)
    hclear hsession (hsound.nextChannel_notMem hready.connection?) hopens).1

/-- On a connection that can take it, an exchange fails through its own fault only. -/
theorem Ready.blamed (hready : network.Ready key connection loopback) (hsound : Sound network)
    (hthere : (network.exchange? target).isSome = true)
    (hfailed : (network.send quiet key target).2 = .error error) : error.isRetryable = false := by
  obtain ⟨exchange, hexchange⟩ := Option.isSome_iff_exists.mp hthere
  cases hhurdle : network.hurdle? connection exchange with
  | none => simp [hready.takes hsound hexchange hhurdle] at hfailed
  | some failure =>
      obtain ⟨-, hsame, -⟩ := send_of_hurdle hready.connection? hexchange
        (fun _ => hsound.isSome_of_binding hexchange) hhurdle quiet
      obtain rfl := Except.error.inj (hsame.symm.trans hfailed)
      exact blamed_of_hurdle hready.opened hhurdle

/-- A loopback session does not change its mind. -/
theorem Ready.send_answering (hready : network.Ready key connection loopback)
    (answer : Answering α) (target : ExchangeId) :
    network.send (answering answer) key target = network.send quiet key target := by
  rcases Network.send_answering network answer key target with hsame | ⟨found, hfound, htuned⟩
  · exact hsame
  obtain rfl := Option.some.inj (hready.connection?.symm.trans hfound)
  rcases decided_cases network answer connection.session with
    hsame | ⟨name, before, attached, recording, surroundings, hsession, -⟩
  · rw [htuned, hsame]
  · have hnone : network.loopback? connection.session = none := by
      simp [Network.loopback?, hsession]
    exact absurd hready.loopback? (by simp [hnone])

/-! ## One attempt -/

/-- Whatever connection the pool provides can take an exchange. -/
def Provides (network : Network α) (owner : PoolKey) : Prop :=
  ∀ {reached key}, network.acquire quiet owner = (reached, .ok key) →
    ∃ connection loopback, reached.Ready key connection loopback

/-- A pool whose limit is the one of its sessions provides connections that can take an
exchange, be they in use already or opened on this occasion. -/
theorem provides_of_mirrored (hsound : Sound network) (hlimited : Limited network)
    (hpool : network.pool? owner = some pool)
    (hfactory : pool.factory = .loopback limit delay responder) (hlimit : limit = pool.maxStreams)
    (hpositive : 1 ≤ limit)
    (hown : ∀ {key connection}, network.connection? key = some connection →
      connection.destination = .pool owner →
      Mirrored network connection.session ∧ Supplied network connection.session) :
    Provides network owner := by
  intro reached key hacquire
  rcases acquire_cases hsound owner with
    ⟨error, heq⟩ | ⟨retained, connection, found, heq, hoffers⟩ | ⟨found, hfound, -, -, heq⟩
  · rw [heq] at hacquire
    exact absurd (Prod.mk.inj hacquire).2 (by simp)
  · rw [heq] at hacquire
    obtain ⟨rfl, hkey⟩ := Prod.mk.inj hacquire
    obtain rfl := Except.ok.inj hkey
    have hretained := hoffers.retain hsound
    obtain ⟨hmirrored, hsupplied⟩ := hown hoffers.connection? hoffers.destination
    obtain ⟨loopback, hloopback, hroom⟩ :=
      hsupplied.session hoffers.connection? rfl hoffers.destination hpool hfactory
    obtain ⟨same, hsame, hchannels⟩ := hlimited hoffers.connection? hoffers.destination
    obtain rfl := Option.some.inj (hpool.symm.trans hsame)
    have hagrees := hmirrored.agrees hloopback hoffers.connection? rfl
    have hthere : (network.undergo (.retainConnection retained)).loopback? connection.session =
        some loopback := by
      simp only [undergo]
      split <;> exact hloopback
    exact ⟨_, loopback, hretained.connection?, hretained.opened, hthere,
      hagrees.closed.trans hoffers.opened,
      hagrees.room (hroom.trans (hlimit.trans hchannels.symm)) (by omega) hoffers.capacity⟩
  · obtain rfl := Option.some.inj (hpool.symm.trans hfound)
    rw [heq] at hacquire
    rcases openConnection_cases hpool with
      ⟨error, final, hopened, -⟩ | ⟨transport, final, hopened, hopens⟩
    · rw [hopened] at hacquire
      exact absurd (Prod.mk.inj hacquire).2 (by simp)
    · rw [hopened] at hacquire
      obtain ⟨rfl, hkey⟩ := Prod.mk.inj hacquire
      obtain rfl := Except.ok.inj hkey
      refine ⟨pool.nextConnection owner network.nextSession, _, ?_, rfl,
        loopback?_opened hopens hfactory, rfl, hpositive⟩
      rw [hopens.connection?, if_pos rfl]

/-- A pool over loopback sessions provides no connection when it is closed or full, and only
then. -/
private theorem acquire_error (hpool : network.pool? owner = some pool)
    (hfactory : pool.factory = .loopback limit delay responder) {failure : PoolError}
    (hfailed : (network.acquire quiet owner).2 = .error failure) :
    failure = .closed ∨ failure = .exhausted pool.maxConnections := by
  simp only [acquire, hpool] at hfailed
  split at hfailed
  next => simp at hfailed
  next =>
    split at hfailed
    next => exact .inl (Except.error.inj hfailed).symm
    next =>
      split at hfailed
      next => exact .inr (Except.error.inj hfailed).symm
      next =>
        rw [openConnection, hfactory] at hfailed
        simp [Factory.openSession] at hfailed

section Attempts

variable (hsound : Sound network) (hprovides : Provides network owner)
  (hthere : (network.exchange? target).isSome = true)
include hsound hprovides hthere

/-- What fails on a connection that the pool provides fails through its own fault. -/
theorem blamed_of_provides {reached sent : Network α}
    (hacquire : network.acquire quiet owner = (reached, .ok key))
    (hsent : reached.send (answering answer) key target = (sent, .error error)) :
    error.isRetryable = false := by
  obtain ⟨connection, loopback, hready⟩ := hprovides hacquire
  obtain ⟨_, hlogs, hexchange, -⟩ :=
    logs_acquire hsound (.acquire owner) (beq_self_eq_true owner)
  rw [hacquire] at hlogs hexchange
  have hstill : (reached.exchange? target).isSome = true := by
    rw [hexchange]
    exact hthere
  rw [hready.send_answering] at hsent
  exact hready.blamed (hlogs.course.sound hsound) hstill (congrArg Prod.snd hsent)

/-- However often a pool may try, it tries once. -/
theorem attempt_once (answer : Answering α) (attempts : Nat) (last : Option DispatchError) :
    network.attempt (answering answer) owner target (attempts + 1) last =
      network.attempt (answering answer) owner target 1 none := by
  unfold attempt
  split
  next => rfl
  next =>
    rw [acquire_answering]
    cases hresult : network.acquire quiet owner with
    | mk reached result =>
    cases result with
    | error failure => rfl
    | ok key =>
        dsimp only
        cases hsent : reached.send (answering answer) key target with
        | mk sent verdict =>
        cases verdict with
        | ok accepted => rfl
        | error error =>
            -- Another connection would do no better, so none is tried.
            have hblamed := blamed_of_provides hsound hprovides hthere hresult hsent
            simp [hblamed]

/-- Where the one attempt fails, the pool is closed or full, or the exchange is at fault. -/
theorem attempt_error (hpool : network.pool? owner = some pool)
    (hfactory : pool.factory = .loopback limit delay responder) {failure : PoolError}
    (hfailed : (network.attempt (answering answer) owner target 1 none).2 = .error failure) :
    failure = .closed ∨ failure = .exhausted pool.maxConnections ∨
      ∃ error, failure = .sendFailed error ∧ error.isRetryable = false := by
  unfold attempt at hfailed
  split at hfailed
  next => exact .inl (Except.error.inj hfailed).symm
  next =>
    rw [acquire_answering] at hfailed
    cases hresult : network.acquire quiet owner with
    | mk reached result =>
    rw [hresult] at hfailed
    cases result with
    | error refused =>
        obtain rfl := Except.error.inj hfailed
        rcases acquire_error hpool hfactory (congrArg Prod.snd hresult) with hclosed | hfull
        · exact .inl hclosed
        · exact .inr (.inl hfull)
    | ok key =>
        dsimp only at hfailed
        cases hsent : reached.send (answering answer) key target with
        | mk sent verdict =>
        rw [hsent] at hfailed
        cases verdict with
        | ok accepted => simp at hfailed
        | error error =>
            have hblamed := blamed_of_provides hsound hprovides hthere hresult hsent
            simp only [hblamed, Bool.false_and, Bool.false_eq_true, if_false] at hfailed
            exact .inr (.inr ⟨error, (Except.error.inj hfailed).symm, hblamed⟩)

end Attempts

end Multiplex.Network
