import Multiplex.Proofs.Exchange.Outcome
import Multiplex.Proofs.Loopback.Effects
import Multiplex.Proofs.Pool.Stock

/-!
# Why a send fails, and what it leaves behind

A send on a connection looks at five things, one after the other: whether the exchange has its
outcome, whether its request can be normalized, whether the connection is closed, whether the
exchange is under way already, and whether the session opens a stream.  It fails at the first
that stands in the way.  `hurdle?` is what stands in the way before the session is asked,
`refusal?` is what the session says, and `obstacle?` is the first of them all.

## What is taken back

The failures lie at different depths: before there is a channel, once it is made, once it is
registered, and once the exchange is bound to it.  Whatever was done up to there is taken
back, and `TakenBack` says what is left: a request that may have been normalized, and a channel
that carries nothing.  In particular an exchange that was under way is still under way.
-/

namespace Multiplex

/-! ## Sessions that refuse -/

/-- Why a loopback session would not open a stream now. -/
def LoopbackSession.obstacle? {ι : Type} (session : LoopbackSession ι) : Option SessionError :=
  if session.isClosed then some .closed
  else if session.limit ≤ session.openStreams then some (.tooManyStreams session.limit)
  else none

namespace Transport

/-- Why a session would not open a stream now. -/
def obstacle? : Transport → Option SessionError
  | .loopback session => session.obstacle?
  | .recording session => session.obstacle?

/-- The stream that a session opens next. -/
def nextStream : Transport → StreamId
  | .loopback session => session.nextStream
  | .recording session => session.nextStream

/-- The streams that a session knows, each with its listener. -/
def streams : Transport → List (StreamId × Listener)
  | .loopback session => session.streams
  | .recording session => session.streams

end Transport

namespace LoopbackSession

variable {ι : Type} {session : LoopbackSession ι}

private theorem openStream_of_obstacle {error : SessionError}
    (hobstacle : session.obstacle? = some error)
    (now ticket : Nat) (request : Http.Request) (listener : ι) :
    session.openStream now ticket request listener = (session, .error error) := by
  unfold obstacle? at hobstacle
  unfold openStream
  split at hobstacle
  next hclosed =>
    obtain rfl := Option.some.inj hobstacle
    rw [if_pos hclosed]
  next hopen =>
    split at hobstacle
    next hfull =>
      obtain rfl := Option.some.inj hobstacle
      rw [if_neg hopen, if_pos hfull]
    next => simp at hobstacle

theorem openStream_of_clear (hclear : session.obstacle? = none) (now ticket : Nat)
    (request : Http.Request) (listener : ι) :
    ∃ opened, session.openStream now ticket request listener = (opened, .ok session.nextStream) ∧
      (session.nextStream, listener) ∈ opened.streams := by
  unfold obstacle? at hclear
  unfold openStream
  split at hclear
  next => simp at hclear
  next hopen =>
    split at hclear
    next => simp at hclear
    next hroom =>
      rw [if_neg hopen, if_neg hroom]
      exact ⟨_, rfl, List.mem_append_right _ (List.mem_singleton_self _)⟩

/-- An open session with room would open a stream. -/
theorem obstacle?_eq_none (hopen : session.isClosed = false)
    (hroom : session.openStreams < session.limit) : session.obstacle? = none := by
  simp [obstacle?, hopen, Nat.not_le.mpr hroom]

end LoopbackSession

namespace Network

variable {α : Type} {network first second : Network α} {answer : Answering α}
  {key : ConnectionKey} {connection : Connection} {target : ExchangeId} {exchange : Exchange}
  {id : ChannelId} {channel : Channel} {session : SessionKey} {found : Session}

/-- Why a session would not open a stream now.  One that is not there counts as closed. -/
def denial? (network : Network α) (session : SessionKey) : Option SessionError :=
  match network.session? session with
  | none => some .closed
  | some found => found.transport.obstacle?

/-- What a session says that is asked for a stream, if it refuses. -/
def refusal? (network : Network α) (answer : Answering α) (session : SessionKey) :
    Option SessionError :=
  (network.decided answer session).denial? session

/-- A session would open a stream if it is there and nothing stands in its way. -/
theorem denial?_eq_none_iff : network.denial? session = none ↔
    ∃ found, network.session? session = some found ∧ found.transport.obstacle? = none := by
  unfold denial?
  cases network.session? session <;> simp

/-- What keeps an exchange from a connection before the session is asked. -/
def hurdle? (network : Network α) (connection : Connection) (exchange : Exchange) :
    Option DispatchError :=
  if exchange.isResolved then some .alreadyResolved
  else
    match exchange.request.normalize.2 with
    | .error error => some (.normalize error)
    | .ok () =>
      if connection.isClosed then some .closed
      else if network.isUnderWay exchange then some .alreadyBound
      else none

/-- What keeps an exchange from a connection. -/
def obstacle? (network : Network α) (answer : Answering α) (connection : Connection)
    (exchange : Exchange) : Option DispatchError :=
  (network.hurdle? connection exchange).or
    ((network.refusal? answer connection.session).map .session)

private theorem hurdle?_decided (network : Network α) (answer : Answering α) (session : SessionKey)
    (connection : Connection) (exchange : Exchange) :
    (network.decided answer session).hurdle? connection exchange =
      network.hurdle? connection exchange := by
  rw [hurdle?, hurdle?, isUnderWay_decided]

/-- Nothing keeps an exchange from a connection until the session is asked. -/
theorem hurdle?_eq_none_iff :
    network.hurdle? connection exchange = none ↔ exchange.isResolved = false ∧
      exchange.request.normalize.2 = .ok () ∧ connection.isClosed = false ∧
      network.isUnderWay exchange = false := by
  unfold hurdle?
  cases exchange.isResolved with
  | true => simp
  | false =>
  cases exchange.request.normalize.2 with
  | error error => simp
  | ok accepted =>
  cases connection.isClosed with
  | true => simp
  | false => simp

/-- On an open connection, what stands in the way before the session is asked is the fault of
the exchange. -/
theorem blamed_of_hurdle (hopen : connection.isClosed = false) {error : DispatchError}
    (hhurdle : network.hurdle? connection exchange = some error) : error.isRetryable = false := by
  unfold hurdle? at hhurdle
  rw [hopen] at hhurdle
  split at hhurdle
  next =>
    obtain rfl := Option.some.inj hhurdle
    rfl
  next =>
    split at hhurdle
    next =>
      obtain rfl := Option.some.inj hhurdle
      rfl
    next =>
      rw [if_neg Bool.false_ne_true] at hhurdle
      split at hhurdle
      next =>
        obtain rfl := Option.some.inj hhurdle
        rfl
      next => simp at hhurdle

/-! ## Asking a session -/

/-- A session that refuses a stream stays as it was, and so do the others. -/
theorem openStream_of_denial {error : SessionError} (hdenied : network.denial? session = some error)
    (request : Http.Request) (listener : Listener) :
    (network.openStream quiet session request listener).2 = .error error ∧
      (network.openStream quiet session request listener).1.session? = network.session? := by
  unfold denial? at hdenied
  unfold openStream
  cases hsession : network.session? session with
  | none =>
      rw [hsession] at hdenied
      obtain rfl := Option.some.inj hdenied
      exact ⟨rfl, rfl⟩
  | some found =>
      rw [hsession] at hdenied
      obtain ⟨name, transport, attached⟩ := found
      cases transport with
      | loopback loopback =>
          simp only [LoopbackSession.openStream_of_obstacle hdenied, true_and]
          funext place
          refine (session?_setTransport network session place (.loopback loopback)).trans ?_
          split
          next heq => rw [heq, hsession, Option.map_some]
          next => rfl
      | recording recording =>
          have hobstacle : recording.obstacle? = some error := hdenied
          simp only [quiet, hsession, hobstacle, and_self]

/-- A session that opens a stream opens the next one, and no other session changes. -/
theorem openStream_of_clear (hsession : network.session? session = some found)
    (hclear : found.transport.obstacle? = none) (request : Http.Request) (listener : Listener) :
    ∃ transport, (network.openStream quiet session request listener).2 =
        .ok found.transport.nextStream ∧
      (found.transport.nextStream, listener) ∈ transport.streams ∧
      ∀ place, (network.openStream quiet session request listener).1.session? place =
        if place = session then some { found with transport } else network.session? place := by
  have hset : ∀ transport place, (network.setTransport session transport).session? place =
      if place = session then some { found with transport } else network.session? place := by
    intro transport place
    rw [session?_setTransport]
    split
    next heq => rw [heq, hsession, Option.map_some]
    next => rfl
  unfold openStream
  obtain ⟨name, transport, attached⟩ := found
  cases transport with
  | loopback loopback =>
      obtain ⟨opened, hopened, hmem⟩ := LoopbackSession.openStream_of_clear hclear network.clock
        network.tickets request listener
      refine ⟨.loopback opened, ?_⟩
      simp only [hsession, hopened]
      exact ⟨rfl, hmem, hset (.loopback opened)⟩
  | recording recording =>
      have hobstacle : recording.obstacle? = none := hclear
      refine ⟨.recording (recording.openNext listener), ?_⟩
      simp only [quiet, hsession, hobstacle]
      exact ⟨rfl, List.mem_append_right _ (List.mem_singleton_self _), hset _⟩

/-! ## The result of a send -/

/-- A channel turns down an exchange that is under way. -/
theorem sendOnChannel_of_underWay (react : Reaction α)
    (hchannel : network.channel? id = some channel)
    (hexchange : network.exchange? target = some exchange)
    (hunresolved : exchange.isResolved = false) (hbusy : network.isUnderWay exchange = true) :
    network.sendOnChannel react id target = (network, .error .alreadyBound) := by
  simp [sendOnChannel, hchannel, hexchange, hunresolved, hbusy]

section Results

variable (hconnection : network.connection? key = some connection)
  (hexchange : network.exchange? target = some exchange)
  (hbinding : ∀ channel, exchange.binding = some channel →
    (network.channel? channel).isSome = true)
include hconnection hexchange hbinding

/-- Where the session is not asked, it does not matter what it would say. -/
theorem send_of_hurdle {error : DispatchError}
    (hhurdle : network.hurdle? connection exchange = some error) (react : Reaction α) :
    network.send react key target = network.send quiet key target ∧
      (network.send quiet key target).2 = .error error ∧
      (network.send quiet key target).1.session? = network.session? := by
  unfold hurdle? at hhurdle
  cases hresolved : exchange.isResolved with
  | true =>
      rw [hresolved, if_pos rfl] at hhurdle
      obtain rfl := Option.some.inj hhurdle
      simp [send, hconnection, hexchange, hresolved]
  | false =>
  rw [hresolved, if_neg Bool.false_ne_true] at hhurdle
  cases hverdict : exchange.request.normalize.2 with
  | error failure =>
      rw [hverdict] at hhurdle
      obtain rfl := Option.some.inj hhurdle
      simp only [send, hconnection, hexchange, hresolved, hverdict, Bool.false_eq_true, if_false,
        true_and]
      rfl
  | ok accepted =>
  rw [hverdict] at hhurdle
  cases hclosed : connection.isClosed with
  | true =>
      simp only [hclosed, if_true] at hhurdle
      obtain rfl := Option.some.inj hhurdle
      simp only [send, hconnection, hexchange, hresolved, hverdict, hclosed, Bool.false_eq_true,
        if_false, if_true, true_and]
      rfl
  | false =>
      simp only [hclosed, Bool.false_eq_true, if_false] at hhurdle
      split at hhurdle
      next hbusy =>
        obtain rfl := Option.some.inj hhurdle
        have hready : (network.registered key connection target
            exchange.request.normalize.1).exchange? target =
              some { exchange with request := exchange.request.normalize.1 } := by
          rw [exchange?_registered, if_pos rfl, hexchange, Option.map_some]
        have hdown : ∀ react : Reaction α, (network.registered key connection target
            exchange.request.normalize.1).sendOnChannel react network.nextChannel target =
              (network.registered key connection target exchange.request.normalize.1,
                .error .alreadyBound) := by
          intro react
          refine sendOnChannel_of_underWay react (channel?_newcomer _) hready hresolved ?_
          exact (isUnderWay_registered _ hbinding).trans hbusy
        rw [send_eq_sendRegistered react hconnection hexchange hresolved hverdict hclosed,
          send_eq_sendRegistered quiet hconnection hexchange hresolved hverdict hclosed]
        simp only [sendRegistered, hdown, true_and]
        rfl
      next => simp at hhurdle

section Clear

variable (hclear : network.hurdle? connection exchange = none)
include hclear

theorem send_asks (answer : Answering α) :
    network.send (answering answer) key target =
      (network.decided answer connection.session).send quiet key target := by
  obtain ⟨hunresolved, hnormalizes, hopen, hfree⟩ := hurdle?_eq_none_iff.mp hclear
  exact send_decided hconnection hexchange hunresolved hnormalizes hopen answer hbinding hfree

theorem sendOnChannel_asks :
    (∀ {opened stream}, ((network.registered key connection target
        exchange.request.normalize.1).bind network.nextChannel target).openStream quiet
          connection.session exchange.request.normalize.1 (.channel network.nextChannel) =
            (opened, .ok stream) →
        network.send quiet key target = ((opened.giveStream quiet network.nextChannel
          stream).letGoChannel network.nextChannel, .ok ())) ∧
      ∀ {opened error}, ((network.registered key connection target
        exchange.request.normalize.1).bind network.nextChannel target).openStream quiet
          connection.session exchange.request.normalize.1 (.channel network.nextChannel) =
            (opened, .error error) →
        network.send quiet key target = (((opened.giveUp network.nextChannel
          target).modifyConnection key fun found => found.drop network.nextChannel).letGoChannel
            network.nextChannel, .error (.session error)) := by
  obtain ⟨hunresolved, hnormalizes, hopen, hfree⟩ := hurdle?_eq_none_iff.mp hclear
  have hready : (network.registered key connection target
      exchange.request.normalize.1).exchange? target =
        some { exchange with request := exchange.request.normalize.1 } := by
    rw [exchange?_registered, if_pos rfl, hexchange, Option.map_some]
  obtain ⟨hopens, hrefuses⟩ := sendOnChannel_of_asked quiet (channel?_newcomer _) hready
    hunresolved ((isUnderWay_registered _ hbinding).trans hfree)
    (ownerIsClosed_newcomer _ hconnection hopen)
  rw [send_eq_sendRegistered quiet hconnection hexchange hunresolved hnormalizes hopen]
  unfold sendRegistered
  exact ⟨fun hopened => by rw [hopens hopened], fun hrefused => by rw [hrefuses hrefused]⟩

private theorem send_of_denial {error : SessionError}
    (hdenied : network.denial? connection.session = some error) :
    (network.send quiet key target).2 = .error (.session error) ∧
      (network.send quiet key target).1.session? = network.session? := by
  let bound := (network.registered key connection target
    exchange.request.normalize.1).bind network.nextChannel target
  have hbound : bound.denial? connection.session = some error := hdenied
  obtain ⟨hrefused, hsession⟩ := openStream_of_denial hbound exchange.request.normalize.1
    (.channel network.nextChannel)
  obtain ⟨-, hrefuses⟩ := sendOnChannel_asks hconnection hexchange hbinding hclear
  rw [hrefuses (Prod.ext rfl hrefused)]
  exact ⟨rfl, hsession⟩

/-- A send succeeds if the session opens a stream: the stream that comes next, and it reports
to the new channel. -/
theorem send_of_clear (hsession : network.session? connection.session = some found)
    (hfresh : network.nextChannel ∉ connection.live)
    (hwilling : found.transport.obstacle? = none) :
    (network.send quiet key target).2 = .ok () ∧
      Dispatched network (network.send quiet key target).1 key connection target exchange
        found.transport.nextStream ∧
      ∃ transport, (found.transport.nextStream, .channel network.nextChannel) ∈
          transport.streams ∧
        ∀ place, (network.send quiet key target).1.session? place =
          if place = connection.session then some { found with transport }
          else network.session? place := by
  let bound := (network.registered key connection target
    exchange.request.normalize.1).bind network.nextChannel target
  have hbound : bound.session? connection.session = some found := hsession
  obtain ⟨transport, hopened, hmem, hsessions⟩ := openStream_of_clear hbound hwilling
    exchange.request.normalize.1 (.channel network.nextChannel)
  obtain ⟨hopens, -⟩ := sendOnChannel_asks hconnection hexchange hbinding hclear
  have hsent := hopens (Prod.ext rfl hopened)
  have haside := aside_openStream bound connection.session exchange.request.normalize.1
    (.channel network.nextChannel)
  have hchannel : (bound.openStream quiet connection.session exchange.request.normalize.1
      (.channel network.nextChannel)).1.channel? network.nextChannel =
        some { newcomer connection key with exchange := some target } := by
    rw [haside.channel?]
    simp only [bound, bind, channel?_modifyChannel, if_true, modifyExchange_frame,
      channel?_newcomer, Option.map_some]
  rw [giveStream_of_kept hchannel rfl] at hsent
  refine ⟨by rw [hsent], ?_, transport, hmem, ?_⟩
  · rcases send_cases hconnection hexchange hbinding hfresh with
      ⟨error, final, hfailed, -⟩ | ⟨stream, final, hresult, hdispatched⟩
    · rw [hfailed] at hsent
      exact absurd (congrArg Prod.snd hsent) (by simp)
    · rw [hresult]
      -- The channel tells which stream it was given.
      have hcarries : final.channel? network.nextChannel = some
          { newcomer connection key with
            exchange := some target, stream := some found.transport.nextStream, handles := 0 } := by
        have hfinal : final = _ := congrArg Prod.fst (hresult.symm.trans hsent)
        rw [hfinal, letGoChannel, channel?_modifyChannel, if_pos rfl, channel?_modifyChannel,
          if_pos rfl, hchannel]
        rfl
      rw [hdispatched.channel?, if_pos rfl, Option.some.injEq] at hcarries
      obtain rfl : stream = found.transport.nextStream :=
        Option.some.inj (congrArg Channel.stream hcarries)
      exact hdispatched
  · rw [hsent]
    exact hsessions

end Clear

end Results

/-! ## Requests -/

/-- The request of an exchange. -/
def request? (network : Network α) (target : ExchangeId) : Option Http.Request :=
  (network.exchange? target).map Exchange.request

theorem request?_modifyExchange (network : Network α) (id : ExchangeId)
    (change : Exchange → Exchange) (hsame : ∀ found, (change found).request = found.request)
    (target : ExchangeId) :
    (network.modifyExchange id change).request? target = network.request? target := by
  unfold request?
  rw [exchange?_modifyExchange]
  split
  · rw [Option.map_map]
    exact congrArg (fun read => (network.exchange? target).map read) (funext hsame)
  · rfl

theorem request?_bind (network : Network α) (id : ChannelId) (other target : ExchangeId) :
    (network.bind id other).request? target = network.request? target :=
  request?_modifyExchange network other (fun found => { found with binding := some id })
    (fun _ => rfl) target

theorem request?_giveUp (network : Network α) (id : ChannelId) (other target : ExchangeId) :
    (network.giveUp id other).request? target = network.request? target :=
  request?_modifyExchange (network.modifyChannel id fun found =>
    { found with released := true, exchange := none }) other
    (fun found => { found with binding := none }) (fun _ => rfl) target

private theorem request?_giveStream (network : Network α) (id : ChannelId) (stream : StreamId)
    (target : ExchangeId) :
    (network.giveStream quiet id stream).request? target = network.request? target := by
  rw [request?, request?, (aside_giveStream network id stream).exchange?]
  rfl

private theorem request?_sendOnChannel (network : Network α) (id : ChannelId)
    (other target : ExchangeId) :
    (network.sendOnChannel quiet id other).1.request? target = network.request? target := by
  unfold sendOnChannel
  split
  next channel exchange _ _ =>
    split
    next => rfl
    split
    next => rfl
    dsimp only
    split
    next => rw [request?_giveUp, request?_bind]
    have hopened : ∀ {opened result},
        (network.bind id other).openStream quiet channel.session exchange.request (.channel id) =
          (opened, result) → opened.request? target = network.request? target := by
      intro opened result heq
      have haside := aside_openStream (network.bind id other) channel.session exchange.request
        (.channel id)
      rw [heq] at haside
      rw [← request?_bind network id other target, request?, request?, haside.exchange?]
    split
    next opened stream heq => rw [request?_giveStream, hopened heq]
    next opened error heq => rw [request?_giveUp, hopened heq]
  next => rfl

private theorem request?_sendRegistered (network : Network α) (key : ConnectionKey) (id : ChannelId)
    (other target : ExchangeId) :
    (network.sendRegistered quiet key id other).1.request? target = network.request? target := by
  have hsent := request?_sendOnChannel network id other target
  unfold sendRegistered
  split
  next sent stream heq =>
    rw [heq] at hsent
    exact hsent
  next sent error heq =>
    rw [heq] at hsent
    exact hsent

/-- An exchange that has its outcome keeps its request; any other has it normalized. -/
theorem request?_send (hconnection : network.connection? key = some connection)
    (hexchange : network.exchange? target = some exchange) :
    (network.send quiet key target).1.request? target =
      some (if exchange.isResolved then exchange.request else exchange.request.normalize.1) := by
  have hrequest : network.request? target = some exchange.request := by
    rw [request?, hexchange, Option.map_some]
  have hnormalized : (network.modifyExchange target fun found =>
      { found with request := exchange.request.normalize.1 }).request? target =
        some exchange.request.normalize.1 := by
    rw [request?, exchange?_modifyExchange, if_pos rfl, hexchange, Option.map_some, Option.map_some]
  simp only [send, hconnection, hexchange]
  split
  next => exact hrequest
  next =>
    split
    next => exact hnormalized
    next =>
      split
      next => exact hnormalized
      next => exact (request?_sendRegistered _ key _ target target).trans hnormalized

/-- Where another connection may be tried, the request is normalized now. -/
theorem request?_of_retryable (hconnection : network.connection? key = some connection)
    (hexchange : network.exchange? target = some exchange) {error : DispatchError}
    (hfailed : (network.send quiet key target).2 = .error error)
    (hretry : error.isRetryable = true) :
    exchange.request.normalize.2 = .ok () ∧
      (network.send quiet key target).1.request? target = some exchange.request.normalize.1 := by
  rw [request?_send hconnection hexchange]
  simp only [send, hconnection, hexchange] at hfailed
  split at hfailed
  next =>
    obtain rfl := Except.error.inj hfailed
    exact Bool.noConfusion hretry
  next hunresolved =>
    rw [if_neg hunresolved]
    split at hfailed
    next =>
      obtain rfl := Except.error.inj hfailed
      exact Bool.noConfusion hretry
    next hverdict => exact ⟨hverdict, rfl⟩

/-! ## What a send leaves behind -/

/-- In the second network a send of the first was taken back. -/
structure TakenBack (first second : Network α) (target : ExchangeId) (exchange : Exchange) :
    Prop where
  /-- The exchange has the outcome that it had, and the binding if it was under way. -/
  exchange : ∃ binding, second.exchange? target = some { exchange with
      request := if exchange.isResolved then exchange.request else exchange.request.normalize.1
      binding } ∧
    (binding = exchange.binding ∨ binding = none ∧ first.isUnderWay exchange = false)
  others : ∀ other, other ≠ target → second.exchange? other = first.exchange? other
  /-- The channels are as they were, but for one that carries nothing. -/
  channel? : ∀ other, other ≠ first.nextChannel → second.channel? other = first.channel? other
  spent : ∀ spent, second.channel? first.nextChannel = some spent →
    spent.handles = 0 ∧ spent.exchange = none ∧ spent.stream = none
  connection? : second.connection? = first.connection?
  streams : ∀ place, (second.session? place).map (fun found => found.transport.streams) =
    (first.session? place).map fun found => found.transport.streams
  pool? : second.pool? = first.pool?
  trace : second.trace = first.trace

/-- It makes no difference whether a session has made up its mind before a send that is taken
back. -/
theorem Undispatched.of_decided
    (hundispatched : Undispatched (first.decided answer session) second target) :
    Undispatched first second target := by
  obtain ⟨hexchange, hchannel, hconnection, hpool, htrace, hnext⟩ :=
    decided_frame first answer session
  have hbusy := isUnderWay_decided first answer session
  have hsession : ∀ place, ((first.decided answer session).session? place).map Session.outline =
      (first.session? place).map Session.outline :=
    map_session?_decided Session.outline (fun _ _ _ _ => rfl) first answer session
  exact
    { exchange := fun other => by
        have hother := hundispatched.exchange other
        simp only [hexchange, hbusy] at hother
        exact hother
      channel := fun other => by
        have hother := hundispatched.channel other
        rwa [hchannel, hnext] at hother
      connection? := hundispatched.connection?.trans hconnection
      session := fun place => (hundispatched.session place).trans (hsession place)
      pool := fun place => by rw [hundispatched.pool, hpool]
      trace := hundispatched.trace.trans htrace }

/-- It makes no difference whether a session has made up its mind before it opens a stream. -/
theorem Dispatched.of_decided {stream : StreamId}
    (hdispatched : Dispatched (first.decided answer session) second key connection target exchange
      stream) : Dispatched first second key connection target exchange stream := by
  obtain ⟨hexchange, hchannel, hconnection, hpool, htrace, hnext⟩ :=
    decided_frame first answer session
  have hsession : ∀ place, ((first.decided answer session).session? place).map Session.outline =
      (first.session? place).map Session.outline :=
    map_session?_decided Session.outline (fun _ _ _ _ => rfl) first answer session
  exact
    { opened := hdispatched.opened
      unresolved := hdispatched.unresolved
      free := (isUnderWay_decided first answer session exchange).symm.trans hdispatched.free
      accepting := fun found hfound => by
        have hmap := map_session?_decided (fun place => place.transport.isClosed)
          (fun _ _ _ _ => rfl) first answer session connection.session
        rw [hfound, Option.map_some, Option.map_eq_some_iff] at hmap
        obtain ⟨tuned, htuned, hsame⟩ := hmap
        rw [← hsame]
        exact hdispatched.accepting tuned htuned
      exchange? := fun other => by rw [hdispatched.exchange?, hexchange, hnext]
      channel? := fun other => by rw [hdispatched.channel?, hchannel, hnext]
      connection? := fun other => by rw [hdispatched.connection?, hconnection, hnext]
      session := fun place => (hdispatched.session place).trans (hsession place)
      pool := fun place => by rw [hdispatched.pool, hpool]
      trace := by rw [hdispatched.trace, htrace] }

theorem Undispatched.takenBack (hundispatched : Undispatched first second target)
    (hexchange : first.exchange? target = some exchange)
    (hrequest : second.request? target =
      some (if exchange.isResolved then exchange.request else exchange.request.normalize.1))
    (hstreams : ∀ place, (second.session? place).map (fun found => found.transport.streams) =
      (first.session? place).map fun found => found.transport.streams)
    (hpool : second.pool? = first.pool?) : TakenBack first second target exchange where
  exchange := by
    obtain ⟨request, binding, hafter, hbinding⟩ := hundispatched.exchange_after hexchange
    rw [request?, hafter, Option.map_some] at hrequest
    obtain rfl := Option.some.inj hrequest
    exact ⟨binding, hafter, hbinding⟩
  others other hne := by
    rcases hundispatched.exchange other with hsame | ⟨heq, -⟩
    · exact hsame
    · exact absurd heq hne
  channel? other hne := by
    rcases hundispatched.channel other with hsame | ⟨heq, -⟩
    · exact hsame
    · exact absurd heq hne
  spent spent hspent := by
    rcases hundispatched.channel first.nextChannel with hsame | ⟨-, found, hfound, hcarries⟩
    · simp [hsame] at hspent
    · obtain rfl := Option.some.inj (hspent.symm.trans hfound)
      exact hcarries
  connection? := hundispatched.connection?
  streams := hstreams
  pool? := hpool
  trace := hundispatched.trace

theorem Undispatched.sound (hundispatched : Undispatched first second target)
    (hsound : Sound first) : Sound second where
  housed := (hundispatched.houses hsound.housed).housed hsound.housed
  coherent := hsound.coherent.of_ends hsound.housed hundispatched.spares.ends

/-- All is ready for a session to be asked for a stream. -/
structure Asked (network : Network α) (key : ConnectionKey) (connection : Connection)
    (target : ExchangeId) (exchange : Exchange) : Prop where
  sound : Sound network
  connection? : network.connection? key = some connection
  exchange? : network.exchange? target = some exchange
  clear : network.hurdle? connection exchange = none

theorem Asked.bound (hasked : Asked network key connection target exchange) (id : ChannelId)
    (hbinding : exchange.binding = some id) : (network.channel? id).isSome = true :=
  hasked.sound.isSome_of_binding hasked.exchange? hbinding

section Ends

variable (hsound : Sound network) (hconnection : network.connection? key = some connection)
  (hexchange : network.exchange? target = some exchange)
include hsound hconnection hexchange

/-- A send that fails, whatever the session would have answered, dispatches nothing. -/
theorem undispatched_of_error {error : DispatchError}
    (hfailed : (network.send quiet key target).2 = .error error) :
    Undispatched network (network.send quiet key target).1 target := by
  rcases send_cases hconnection hexchange (fun _ => hsound.isSome_of_binding hexchange)
    (hsound.nextChannel_notMem hconnection) with
    ⟨failure, final, heq, hundispatched⟩ | ⟨stream, final, heq, -⟩
  · rw [heq]
    exact hundispatched
  · simp [heq] at hfailed

/-- Where nothing stands in the way but the session, it is asked once it has made up its mind. -/
theorem asked_of_unhindered (hhurdle : network.hurdle? connection exchange = none)
    (answer : Answering α) :
    Asked (network.decided answer connection.session) key connection target exchange := by
  obtain ⟨hexchanges, -, hconnections, -⟩ := decided_frame network answer connection.session
  exact
    { sound := hsound.decided answer connection.session
      connection? := by rwa [hconnections]
      exchange? := by rwa [hexchanges]
      clear := (hurdle?_decided ..).trans hhurdle }

/-- Where an obstacle stands in the way, it is what the send fails with, and the send is taken
back. -/
theorem send_of_obstacle {error : DispatchError}
    (hobstacle : network.obstacle? answer connection exchange = some error) :
    (network.send (answering answer) key target).2 = .error error ∧
      Undispatched network (network.send (answering answer) key target).1 target ∧
      TakenBack network (network.send (answering answer) key target).1 target exchange := by
  have hbinding : ∀ id, exchange.binding = some id → (network.channel? id).isSome = true :=
    fun _ => hsound.isSome_of_binding hexchange
  cases hhurdle : network.hurdle? connection exchange with
  | some failure =>
      rw [obstacle?, hhurdle] at hobstacle
      obtain rfl := Option.some.inj hobstacle
      obtain ⟨hquiet, hfailed, hsession⟩ :=
        send_of_hurdle hconnection hexchange hbinding hhurdle (answering answer)
      have hundispatched := undispatched_of_error hsound hconnection hexchange hfailed
      rw [hquiet]
      refine ⟨hfailed, hundispatched, hundispatched.takenBack hexchange
        (request?_send hconnection hexchange) (fun place => ?_) (pool?_send _ key target)⟩
      rw [hsession]
  | none =>
      rw [obstacle?, hhurdle, Option.none_or, Option.map_eq_some_iff] at hobstacle
      obtain ⟨refusal, hrefusal, rfl⟩ := hobstacle
      obtain ⟨-, -, -, hpools, -⟩ := decided_frame network answer connection.session
      have hasked := asked_of_unhindered hsound hconnection hexchange hhurdle answer
      obtain ⟨hfailed, hsession⟩ := send_of_denial hasked.connection? hasked.exchange?
        hasked.bound hasked.clear hrefusal
      have hundispatched :=
        undispatched_of_error hasked.sound hasked.connection? hasked.exchange? hfailed
      rw [send_asks hconnection hexchange hbinding hhurdle]
      refine ⟨hfailed, hundispatched.of_decided, hundispatched.of_decided.takenBack hexchange
        (request?_send hasked.connection? hasked.exchange?) (fun place => ?_) ?_⟩
      · rw [hsession]
        exact map_session?_decided (fun found => found.transport.streams) (fun _ _ _ _ => rfl)
          network answer connection.session place
      · rw [pool?_send, hpools]

/-- Where nothing stands in the way, the exchange travels over a new channel, and the session
reports to the channel about the stream that it opened. -/
theorem send_of_unobstructed (hnone : network.obstacle? answer connection exchange = none) :
    (network.send (answering answer) key target).2 = .ok () ∧
      ∃ asked transport,
        (network.decided answer connection.session).session? connection.session = some asked ∧
        Dispatched network (network.send (answering answer) key target).1 key connection target
          exchange asked.transport.nextStream ∧
        (network.send (answering answer) key target).1.session? connection.session =
          some { asked with transport } ∧
        (asked.transport.nextStream, .channel network.nextChannel) ∈ transport.streams ∧
        (network.send (answering answer) key target).1.pool? = network.pool? := by
  have hbinding : ∀ id, exchange.binding = some id → (network.channel? id).isSome = true :=
    fun _ => hsound.isSome_of_binding hexchange
  rw [obstacle?, Option.or_eq_none_iff, Option.map_eq_none_iff] at hnone
  obtain ⟨hhurdle, hwilling⟩ := hnone
  obtain ⟨-, -, -, hpools, -, hnext⟩ := decided_frame network answer connection.session
  have hasked := asked_of_unhindered hsound hconnection hexchange hhurdle answer
  obtain ⟨asked, hfound, hopens⟩ := denial?_eq_none_iff.mp hwilling
  obtain ⟨hsent, hdispatched, transport, hmem, hsession⟩ :=
    send_of_clear hasked.connection? hasked.exchange? hasked.bound hasked.clear hfound
      (hasked.sound.nextChannel_notMem hasked.connection?) hopens
  rw [hnext] at hmem
  rw [send_asks hconnection hexchange hbinding hhurdle]
  refine ⟨hsent, asked, transport, hfound, hdispatched.of_decided, ?_, hmem, ?_⟩
  · rw [hsession, if_pos rfl]
  · rw [pool?_send, hpools]

end Ends

/-! ## What is under way -/

private theorem exists_past (head : Option Http.ResponseHead) (body : Octets) :
    ∃ past, lastHead? past = head ∧ wholeBody past = body := by
  refine ⟨(head.map .response).toList ++ [.data body false], ?_, ?_⟩
  · cases head <;> rfl
  · cases head <;> simp [wholeBody, StreamEvent.piece]

/-- An exchange that is bound to a listed channel waits for what the channel brings. -/
theorem Sound.awaits (hsound : Sound network) (hexchange : network.exchange? target = some exchange)
    (hbinding : exchange.binding = some id) (hregistered : network.Registered key id) :
    ∃ past, network.Awaits key id target past := by
  obtain ⟨channel, hchannel, hcarries⟩ := hsound.coherent.bound hexchange hbinding
  obtain ⟨past, hhead, hbody⟩ := exists_past channel.head channel.body
  exact ⟨past, hregistered, channel, hchannel, hcarries ⟨key, hregistered⟩, hhead.symm,
    hbody.symm⟩

private theorem Sound.outcome_of_last (hsound : Sound network) {event : StreamEvent}
    {outcome : Outcome}
    (hcarried : network.carried? id = some target) (hchannel : network.channel? id = some channel)
    (hverdict : channel.verdict? event = some outcome) (hnone : network.outcome? target = none) :
    (network.channelHears quiet id event).outcome? target = some outcome := by
  obtain ⟨-, -, -, -, hheld⟩ := carried?_eq_some.mp hcarried
  obtain ⟨exchange, hexchange, -⟩ := (Option.any_eq_true ..).mp hheld
  rw [outcome?, hexchange, Option.bind_some] at hnone
  have hstep := brings_event hsound id event
  generalize network.channelHears quiet id event = heard at hstep ⊢
  cases hstep with
  | unheard hmissing => simp [hchannel] at hmissing
  | absorbed hfound hopen =>
      obtain rfl := Option.some.inj (hchannel.symm.trans hfound)
      simp [hverdict] at hopen
  | reported hfound hlast hstops =>
      obtain rfl := Option.some.inj (hchannel.symm.trans hfound)
      obtain rfl := Option.some.inj (hverdict.symm.trans hlast)
      simp [outcome?, hstops.exchange_after hexchange, hcarried, Exchange.resolve, hnone]

/-- What was under way in the first network is under way in the second: its channel brings the
outcome as before. -/
structure StillTravels (first second : Network α) (target : ExchangeId) (exchange : Exchange) :
    Prop where
  hears : ∀ {id channel event outcome}, first.carried? id = some target →
    first.channel? id = some channel → exchange.outcome = none →
    channel.verdict? event = some outcome →
    (second.channelHears quiet id event).outcome? target = some outcome
  decides : ∀ {home id}, exchange.binding = some id → first.Registered home id →
    ∃ past, first.Awaits home id target past ∧ ∀ later,
      (second.run later).holds target = true → (second.run later).outcome? target =
        firstDecision? home id target past (second.happenings later)

private theorem TakenBack.stillTravels (htaken : TakenBack first second target exchange)
    (hsound : Sound first) (hafterwards : Sound second)
    (hexchange : first.exchange? target = some exchange) :
    StillTravels first second target exchange where
  hears := by
    intro id channel event outcome hcarried hchannel hnone hverdict
    have hne : id ≠ first.nextChannel := by
      rintro rfl
      simp at hchannel
    obtain ⟨binding, hafter, -⟩ := htaken.exchange
    have hheld : ∀ other, (second.exchange? other).any Exchange.isHeld =
        (first.exchange? other).any Exchange.isHeld := by
      intro other
      by_cases heq : other = target
      · rw [heq, hafter, hexchange]
        rfl
      · rw [htaken.others other heq]
    refine hafterwards.outcome_of_last ?_ ?_ hverdict ?_
    · rw [carried?_congr (htaken.channel? id hne) hheld, hcarried]
    · rw [htaken.channel? id hne, hchannel]
    · rw [outcome?, hafter, Option.bind_some, hnone]
  decides := by
    intro home id hbinding hregistered
    obtain ⟨past, hawaits⟩ := hsound.awaits hexchange hbinding hregistered
    have hstill : second.Awaits home id target past := by
      refine hawaits.of_same ?_ (htaken.channel? id (hsound.coherent.ne_nextChannel hregistered))
      rw [Registered, htaken.connection?]
      exact hregistered
    exact ⟨past, hawaits, hstill.outcome_run hafterwards⟩

/-! ## The result and what it leaves -/

/-- In every network that dealings lead to, a send fails with the first obstacle that stands in
its way, and then nothing has happened but that the request may have been normalized: what was
under way goes on.  Where no obstacle stands in its way, the exchange travels over the one new
channel, on the stream that the session opened for it, and nobody else is told. -/
theorem send_succeeds_or_is_taken_back (surroundings : α) (answer : Answering α)
    (dealings : List Dealing) (key : ConnectionKey) (target : ExchangeId)
    {connection : Connection} {exchange : Exchange} :
    let network := (blank surroundings).deals answer dealings
    let obstacle := network.obstacle? answer connection exchange
    let sent := (network.send (answering answer) key target).1
    network.connection? key = some connection → network.exchange? target = some exchange →
      (network.send (answering answer) key target).2 = obstacle.elim (.ok ()) .error ∧
      (obstacle = none → ∃ asked transport,
        (network.decided answer connection.session).session? connection.session = some asked ∧
        Dispatched network sent key connection target exchange asked.transport.nextStream ∧
        sent.session? connection.session = some { asked with transport } ∧
        (asked.transport.nextStream, .channel network.nextChannel) ∈ transport.streams ∧
        sent.pool? = network.pool?) ∧
      (obstacle.isSome = true →
        TakenBack network sent target exchange ∧ StillTravels network sent target exchange) := by
  intro network obstacle sent hconnection hexchange
  have hsound : Sound network := (sound_blank surroundings).deals answer dealings
  cases hobstacle : obstacle with
  | none =>
      obtain ⟨hsent, hopened⟩ := send_of_unobstructed hsound hconnection hexchange hobstacle
      exact ⟨hsent, fun _ => hopened, fun hsome => absurd hsome Bool.false_ne_true⟩
  | some error =>
      obtain ⟨hfailed, hundispatched, htaken⟩ :=
        send_of_obstacle hsound hconnection hexchange hobstacle
      refine ⟨hfailed, fun hnone => absurd hnone (Option.some_ne_none error), fun _ => ?_⟩
      exact ⟨htaken, htaken.stillTravels hsound (hundispatched.sound hsound) hexchange⟩

/-- An exchange is dispatched, and a second send of it is taken back. -/
theorem sent_once_and_taken_back :
    let exchange : Exchange :=
      { request := ⟨.connect, .absolute .https ⟨"a"⟩ .slash, .http2, ⟨[]⟩, []⟩ }
    let acquired : List Dealing := firstDealings ++ [.acquire ⟨1⟩]
    let dispatched : List Dealing := firstDealings ++ [.send ⟨1⟩ ⟨1⟩]
    let provided := (blank ()).deals steadfast acquired
    let busy := (blank ()).deals steadfast dispatched
    ((provided.send (answering steadfast) ⟨1⟩ ⟨1⟩).2 = .ok () ∧
        ∃ connection stream, Dispatched provided (provided.send (answering steadfast) ⟨1⟩ ⟨1⟩).1
          ⟨1⟩ connection ⟨1⟩ exchange stream) ∧
      (busy.send (answering steadfast) ⟨1⟩ ⟨1⟩).2 = .error .alreadyBound ∧
        TakenBack busy (busy.send (answering steadfast) ⟨1⟩ ⟨1⟩).1 ⟨1⟩
          (exchange.rebind (some ⟨1⟩)) ∧
        StillTravels busy (busy.send (answering steadfast) ⟨1⟩ ⟨1⟩).1 ⟨1⟩
          (exchange.rebind (some ⟨1⟩)) := by
  intro exchange acquired dispatched provided busy
  let unused : Connection := ⟨⟨1⟩, .pool ⟨1⟩, ⟨1⟩, 2, [], false, 1⟩
  have hprovided : provided.connection? ⟨1⟩ = some unused := rfl
  have hfree : provided.exchange? ⟨1⟩ = some exchange := rfl
  have hbusy : busy.connection? ⟨1⟩ = some (unused.register ⟨1⟩) := rfl
  have hbound : busy.exchange? ⟨1⟩ = some (exchange.rebind (some ⟨1⟩)) := rfl
  obtain ⟨hsent, haccepted, -⟩ :=
    send_succeeds_or_is_taken_back () steadfast acquired ⟨1⟩ ⟨1⟩ hprovided hfree
  obtain ⟨hfailed, -, htaken⟩ :=
    send_succeeds_or_is_taken_back () steadfast dispatched ⟨1⟩ ⟨1⟩ hbusy hbound
  obtain ⟨asked, transport, -, hdispatched, -⟩ := haccepted rfl
  exact ⟨⟨hsent, unused, _, hdispatched⟩, hfailed, htaken rfl⟩

end Network

end Multiplex
