import Mathlib.Data.List.Basic
import Multiplex.Proofs.Exchange.Registration
import Multiplex.Proofs.Pool.Opening

/-!
# Dealings with pools

What somebody outside does with a pool comes to operations: to provide a connection is to
take a handle of one or to open one, to send is to provide a connection and to send on it,
to close is to close the connections one after the other.  A *dealing* is one of these, or
any operation that is not a part of them.

## What is left open

Three things are not for the network to decide, and a run may take them in any way.

* **Answers.**  A session that is asked for a stream may change its mind about refusing it,
  also between two attempts to send the same exchange.  `Answering` is any such rule, with
  whatever the surroundings remember.
* **Order.**  In which order a pool goes through its connections is not fixed: a dealing
  rearranges the list.
* **Time.**  The answers of loopback sessions arrive when the clock advances, or one by one
  with other dealings in between.

The rest of this file is about answers: a session that is asked for a stream might as well
have made up its mind before the send.
-/

namespace Multiplex

variable {α : Type}

/-! ## Sessions that make up their minds -/

/-- How a session decides: from whether it was going to refuse, and from what the
surroundings remember, whether it refuses, and what they remember then. -/
abbrev Answering (α : Type) := SessionKey → Option SessionError → α → Option SessionError × α

/-- Surroundings that decide what a session answers, and otherwise only look on. -/
def answering (answer : Answering α) : Reaction α
  | .openingStream key, network =>
    match network.session? key with
    | some ⟨_, .recording recording, _⟩ =>
      let (refusal, surroundings) := answer key recording.refusal network.surroundings
      { network.setTransport key (.recording { recording with refusal }) with surroundings }
    | _ => network
  | _, network => network

/-! ## Dealings -/

/-- Whether an operation is a part of a dealing with a pool, and nothing by itself. -/
def Operation.isInternal : Operation → Bool
  | .shutPool _ | .openConnection _ => true
  | _ => false

/-- What somebody outside does with pools, or to the network at large. -/
inductive Dealing
  | send (pool : PoolKey) (exchange : ExchangeId)
  | acquire (pool : PoolKey)
  | close (pool : PoolKey)
  | rearrange (pool : PoolKey) (order : List (ConnectionId × ConnectionKey))
  | advance (milliseconds : Nat)
  | deliver (session : SessionKey) (reply : Reply)
  | outside (operation : Operation) (hoperation : operation.isInternal = false)

/-- Whether an exchange is dispatched on a connection past the pool. -/
def Dealing.isDispatch : Dealing → Bool
  | .outside (.send ..) _ => true
  | _ => false

namespace Network

/-- The loopback session at a place, if there is one. -/
def loopback? (network : Network α) (key : SessionKey) : Option (LoopbackSession Listener) :=
  match network.session? key with
  | some ⟨_, .loopback loopback, _⟩ => some loopback
  | _ => none

/-- Lists the connections of a pool in another order. -/
def rearrange (network : Network α) (place : PoolKey)
    (order : List (ConnectionId × ConnectionKey)) : Network α :=
  network.modifyPool place fun pool =>
    if order.isPerm pool.listed then { pool with listed := order } else pool

/-- Delivers one answer whose time has come. -/
def deliverOne (react : Reaction α) (network : Network α) (key : SessionKey) (reply : Reply) :
    Network α :=
  match network.loopback? key with
  | none => network
  | some loopback =>
    if reply ∈ loopback.due network.clock then
      (network.setTransport key (.loopback
        { loopback with replies := loopback.replies.erase reply })).deliver react key reply
    else network

/-- Takes part in a dealing.  Without the handles that it needs nothing is done. -/
def deal (answer : Answering α) (network : Network α) : Dealing → Network α
  | .send pool exchange =>
    if network.holds exchange then
      (network.sendPooled (answering answer) pool exchange).1
    else network
  | .acquire pool => (network.acquire (answering answer) pool).1
  | .close pool => network.closePool quiet pool
  | .rearrange pool order => network.rearrange pool order
  | .advance milliseconds => (network.elapse milliseconds).deliverDue quiet
  | .deliver session reply => network.deliverOne quiet session reply
  | .outside operation _ => network.undergo operation

/-- Takes part in several dealings one after the other. -/
def deals (answer : Answering α) (network : Network α) (dealings : List Dealing) : Network α :=
  dealings.foldl (deal answer) network

@[simp] theorem deals_nil (answer : Answering α) (network : Network α) :
    network.deals answer [] = network := rfl

@[simp] theorem deals_cons (answer : Answering α) (network : Network α) (dealing : Dealing)
    (dealings : List Dealing) : network.deals answer (dealing :: dealings) =
      (network.deal answer dealing).deals answer dealings := rfl

theorem deals_append (answer : Answering α) (network : Network α) (before after : List Dealing) :
    network.deals answer (before ++ after) =
      (network.deals answer before).deals answer after :=
  List.foldl_append ..

/-- Sessions that keep to what they were going to do. -/
def steadfast : Answering α := fun _ refusal surroundings => (refusal, surroundings)

/-- Dealings after which a pool can take an exchange. -/
def firstDealings : List Dealing :=
  [.outside (.makePool "p" 2 2 (.recording [])) rfl,
    .outside (.makeExchange ⟨.connect, .absolute .https ⟨"a"⟩ .slash, .http2, ⟨[]⟩, []⟩) rfl]

/-- Dealings after which a pool lists a full connection and one with a single channel. -/
def crowdedDealings : List Dealing :=
  let request : Http.Request := ⟨.connect, .authority ⟨"a"⟩, .http2, ⟨[]⟩, []⟩
  [.outside (.makePool "p" 2 2 (.recording [])) rfl, .outside (.makeExchange request) rfl,
    .outside (.makeExchange request) rfl, .outside (.makeExchange request) rfl,
    .send ⟨1⟩ ⟨1⟩, .send ⟨1⟩ ⟨2⟩, .send ⟨1⟩ ⟨3⟩]

/-- Whether a pool accepts an exchange in a dealing. -/
def accepts (answer : Answering α) (network : Network α) (place : PoolKey) : Dealing → Bool
  | .send pool exchange =>
    network.holds exchange &&
      (network.sendPooled (answering answer) pool exchange).2.any Except.isOk && pool == place
  | _ => false

variable {network first second third : Network α} {answer : Answering α} {key : ConnectionKey}
  {place : PoolKey} {pool : Pool} {target : ExchangeId} {id : ChannelId} {channel : Channel}

/-! ## Sending through a pool -/

theorem sendPooled_eq {attempts : Nat} (hpool : network.pool? place = some pool)
    (hattempts : pool.attempts? = some attempts) (react : Reaction α) (target : ExchangeId) :
    network.sendPooled react place target =
      ((network.attempt react place target attempts none).1,
        some (network.attempt react place target attempts none).2) := by
  simp only [sendPooled, hpool, hattempts]

/-- A send through a pool comes to nothing at once, or to so many attempts. -/
theorem sendPooled_cases (react : Reaction α) (network : Network α) (place : PoolKey)
    (target : ExchangeId) :
    ((network.sendPooled react place target).1 = network ∧
      (network.sendPooled react place target).2.any Except.isOk = false) ∨
    ∃ attempts, network.sendPooled react place target =
      ((network.attempt react place target attempts none).1,
        some (network.attempt react place target attempts none).2) := by
  cases hpool : network.pool? place with
  | none => exact .inl (by simp [sendPooled, hpool, Except.isOk, Except.toBool])
  | some pool =>
      cases hattempts : pool.attempts? with
      | none => exact .inl (by simp [sendPooled, hpool, hattempts])
      | some attempts => exact .inr ⟨attempts, sendPooled_eq hpool hattempts react target⟩

/-! ## What an answer changes

A session that makes up its mind changes nothing but itself and what is remembered.  So it
might as well have done so before the send. -/

section Answers

/-- The network in which a session has made up its mind. -/
def decided (network : Network α) (answer : Answering α) (key : SessionKey) : Network α :=
  answering answer (.openingStream key) network

/-- The network with other sessions and other memories. -/
def amid (network : Network α) (sessions : Table Session) (surroundings : α) : Network α :=
  { network with sessions, surroundings }

/-- A decision depends on the sessions and on what is remembered, and changes only these. -/
theorem decided_eq (network : Network α) (answer : Answering α) (key : SessionKey) :
    ∃ sessions surroundings, ∀ other : Network α, other.sessions = network.sessions →
      other.surroundings = network.surroundings →
      other.decided answer key = other.amid sessions surroundings := by
  have hsame : ∀ other : Network α, other.sessions = network.sessions →
      other.session? key = network.session? key := fun other hsessions => by
    simp only [session?, hsessions]
  cases hsession : network.session? key with
  | none =>
      refine ⟨network.sessions, network.surroundings, fun other hsessions hmemory => ?_⟩
      simp only [decided, answering, hsame other hsessions, hsession, amid, ← hsessions, ← hmemory]
  | some session =>
      obtain ⟨name, transport, attached⟩ := session
      cases transport with
      | loopback loopback =>
          refine ⟨network.sessions, network.surroundings, fun other hsessions hmemory => ?_⟩
          simp only [decided, answering, hsame other hsessions, hsession, amid, ← hsessions,
            ← hmemory]
      | recording recording =>
          let given := answer key recording.refusal network.surroundings
          let tuned := network.setTransport key (.recording { recording with refusal := given.1 })
          refine ⟨tuned.sessions, given.2, fun other hsessions hmemory => ?_⟩
          simp only [decided, answering, hsame other hsessions, hsession, hmemory, amid, tuned,
            given, setTransport, modifySession, hsessions]

theorem decided_frame (network : Network α) (answer : Answering α) (key : SessionKey) :
    (network.decided answer key).exchange? = network.exchange? ∧
      (network.decided answer key).channel? = network.channel? ∧
      (network.decided answer key).connection? = network.connection? ∧
      (network.decided answer key).pool? = network.pool? ∧
      (network.decided answer key).trace = network.trace ∧
      (network.decided answer key).nextChannel = network.nextChannel := by
  obtain ⟨sessions, surroundings, heq⟩ := decided_eq network answer key
  rw [heq network rfl rfl]
  exact ⟨rfl, rfl, rfl, rfl, rfl, rfl⟩

/-- What does not tell whether a session refuses stays as it is in a decision. -/
theorem map_session?_decided {β : Type} (read : Session → β)
    (hsame : ∀ name recording attached refusal,
      read ⟨name, .recording { recording with refusal }, attached⟩ =
        read ⟨name, .recording recording, attached⟩)
    (network : Network α) (answer : Answering α) (key place : SessionKey) :
    ((network.decided answer key).session? place).map read = (network.session? place).map read := by
  cases hsession : network.session? key with
  | none => simp only [decided, answering, hsession]
  | some session =>
      obtain ⟨name, transport, attached⟩ := session
      cases transport with
      | loopback loopback => simp only [decided, answering, hsession]
      | recording recording =>
          simp only [decided, answering, hsession]
          change ((network.setTransport key _).session? place).map read = _
          rw [session?_setTransport]
          split
          next heq =>
            rw [heq, hsession]
            exact congrArg some (hsame name recording attached _)
          next => rfl

/-- A decision does not matter to what is under way: who listens to which stream stays the
same. -/
theorem isUnderWay_decided (network : Network α) (answer : Answering α) (key : SessionKey)
    (exchange : Exchange) :
    (network.decided answer key).isUnderWay exchange = network.isUnderWay exchange := by
  obtain ⟨sessions, surroundings, heq⟩ := decided_eq network answer key
  have hknows : ∀ place listener,
      (((network.amid sessions surroundings).session? place).any fun session =>
        session.transport.knows listener) =
        (network.session? place).any fun session => session.transport.knows listener := by
    intro place listener
    have hmap := map_session?_decided (fun session => session.transport.knows listener)
      (fun _ _ _ _ => rfl) network answer key place
    rw [heq network rfl rfl] at hmap
    have hany := congrArg (Option.any id) hmap
    rwa [Option.any_map, Option.any_map] at hany
  have halive : (network.amid sessions surroundings).isChannelAlive = network.isChannelAlive :=
    funext fun other => isChannelAlive_congr rfl rfl (fun _ => rfl) fun place =>
      hknows place (.channel other)
  rw [heq network rfl rfl]
  simp only [isUnderWay, halive]
  rfl

/-- A decision is a change of the session, and of what is remembered. -/
theorem decided_cases (network : Network α) (answer : Answering α) (key : SessionKey) :
    network.decided answer key = network ∨
      ∃ name before attached recording surroundings,
        network.session? key = some ⟨name, .recording before, attached⟩ ∧
        network.decided answer key =
          { network.undergo (.moveSession key (.recording recording)) with surroundings } := by
  unfold decided
  simp only [answering]
  split
  next name recording attached hsession =>
    let given := answer key recording.refusal network.surroundings
    refine .inr ⟨name, recording, attached, { recording with refusal := given.1 }, given.2,
      hsession, ?_⟩
    have hstays : (recording.isClosed && !recording.isClosed) = false := by
      cases recording.isClosed <;> rfl
    simp only [undergo, moveSession, hsession, Transport.isClosed, hstays]
    rfl
  next => exact .inl rfl

/-- Where no session changes its mind, the surroundings only look on. -/
theorem answering_steadfast : answering (steadfast : Answering α) = quiet := by
  funext moment network
  cases moment with
  | openingStream key =>
      simp only [answering]
      split
      next name recording attached hsession =>
        have htable : network.sessions.modify key.number (fun found =>
            { found with transport := .recording recording }) = network.sessions :=
          Table.modify_eq_self fun found hfound => by
            obtain rfl := Option.some.inj (hsession.symm.trans hfound)
            rfl
        have hsame : network.setTransport key (.recording recording) = network := by
          rw [setTransport, modifySession, htable]
        exact hsame
      next => rfl
  | _ => rfl

private theorem openStream_answering (network : Network α) (key : SessionKey)
    (request : Http.Request) (listener : Listener) :
    network.openStream (answering answer) key request listener =
      (network.decided answer key).openStream quiet key request listener := by
  cases hsession : network.session? key with
  | none => simp [openStream, decided, answering, hsession]
  | some session =>
      obtain ⟨name, transport, attached⟩ := session
      cases transport with
      | loopback loopback => simp only [openStream, decided, answering, hsession]
      | recording recording =>
          have hdecided : (network.decided answer key).session? key =
              some ⟨name, .recording { recording with
                refusal := (answer key recording.refusal network.surroundings).1 }, attached⟩ := by
            simp only [decided, answering, hsession]
            refine (session?_setTransport network key key _).trans ?_
            rw [if_pos rfl, hsession]
            rfl
          have hfold : answering answer (.openingStream key) network =
            network.decided answer key := rfl
          simp only [openStream, hsession, hfold, hdecided, quiet]
          rfl

/-- A channel that comes as far as its session asks it for a stream. -/
theorem sendOnChannel_decided (hchannel : network.channel? id = some channel)
    (answer : Answering α) (hexchange : network.exchange? target = some exchange)
    (hunresolved : exchange.isResolved = false) (hfree : network.isUnderWay exchange = false)
    (howner : (network.bind id target).ownerIsClosed channel = false) :
    network.sendOnChannel (answering answer) id target =
      (network.decided answer channel.session).sendOnChannel quiet id target := by
  have hunderWay := isUnderWay_decided network answer channel.session exchange
  obtain ⟨sessions, surroundings, heq⟩ := decided_eq network answer channel.session
  rw [heq network rfl rfl] at hunderWay ⊢
  -- What the send looks at before it asks for a stream does not depend on the answer.
  have hchannel' : (network.amid sessions surroundings).channel? id = some channel := hchannel
  have hexchange' : (network.amid sessions surroundings).exchange? target = some exchange :=
    hexchange
  have howner' : ((network.amid sessions surroundings).bind id target).ownerIsClosed channel =
      (network.bind id target).ownerIsClosed channel := rfl
  have hbound : (network.bind id target).amid sessions surroundings =
      (network.amid sessions surroundings).bind id target := rfl
  simp only [sendOnChannel, hchannel, hexchange, hunresolved, hfree, howner, hchannel',
    hexchange', hunderWay, howner', openStream_answering, heq (network.bind id target) rfl rfl,
    hbound]
  rfl

theorem sendOnChannel_answering (hchannel : network.channel? id = some channel)
    (answer : Answering α) (target : ExchangeId) :
    network.sendOnChannel (answering answer) id target = network.sendOnChannel quiet id target ∨
      network.sendOnChannel (answering answer) id target =
        (network.decided answer channel.session).sendOnChannel quiet id target := by
  cases hexchange : network.exchange? target with
  | none => exact .inl (by simp [sendOnChannel, hchannel, hexchange])
  | some exchange =>
      cases hresolved : exchange.isResolved with
      | true => exact .inl (by simp [sendOnChannel, hchannel, hexchange, hresolved])
      | false =>
      cases hbusy : network.isUnderWay exchange with
      | true => exact .inl (by simp [sendOnChannel, hchannel, hexchange, hresolved, hbusy])
      | false =>
      cases hclosed : (network.bind id target).ownerIsClosed channel with
      | true =>
          exact .inl (by simp [sendOnChannel, hchannel, hexchange, hresolved, hbusy, hclosed])
      | false =>
          exact .inr (sendOnChannel_decided hchannel answer hexchange hresolved hbusy hclosed)

/-- Whether a session makes up its mind before or after a channel is registered does not
matter. -/
private theorem decided_registered (network : Network α) (answer : Answering α)
    (session : SessionKey) (key : ConnectionKey) (connection : Connection) (target : ExchangeId)
    (request : Http.Request) :
    (network.registered key connection target request).decided answer session =
      (network.decided answer session).registered key connection target request := by
  obtain ⟨sessions, surroundings, heq⟩ := decided_eq network answer session
  rw [heq network rfl rfl, heq (network.registered key connection target request) rfl rfl]
  rfl

section Sends

variable {connection : Connection}
  (hconnection : network.connection? key = some connection)
  (hexchange : network.exchange? target = some exchange)
  (hunresolved : exchange.isResolved = false)
  (hnormalizes : exchange.request.normalize.2 = .ok ()) (hopen : connection.isClosed = false)
include hconnection hexchange hunresolved hnormalizes hopen

/-- A send that comes as far as the new channel does so whatever the session answers. -/
theorem send_decided_eq (answer : Answering α) :
    (network.decided answer connection.session).send quiet key target =
      ((network.registered key connection target exchange.request.normalize.1).decided answer
        connection.session).sendRegistered quiet key network.nextChannel target := by
  rw [decided_registered]
  obtain ⟨sessions, surroundings, heq⟩ := decided_eq network answer connection.session
  rw [heq network rfl rfl]
  have hconnection' : (network.amid sessions surroundings).connection? key = some connection :=
    hconnection
  have hexchange' : (network.amid sessions surroundings).exchange? target = some exchange :=
    hexchange
  exact send_eq_sendRegistered quiet hconnection' hexchange' hunresolved hnormalizes hopen

/-- A send that comes as far as the session asks it for a stream. -/
theorem send_decided (answer : Answering α)
    (hbinding : ∀ channel, exchange.binding = some channel →
      (network.channel? channel).isSome = true)
    (hfree : network.isUnderWay exchange = false) :
    network.send (answering answer) key target =
      (network.decided answer connection.session).send quiet key target := by
  have hready : (network.registered key connection target
      exchange.request.normalize.1).exchange? target =
        some { exchange with request := exchange.request.normalize.1 } := by
    rw [exchange?_registered, if_pos rfl, hexchange]
    rfl
  have hasked := sendOnChannel_decided (channel?_newcomer _) answer hready hunresolved
    ((isUnderWay_registered _ hbinding).trans hfree) (ownerIsClosed_newcomer _ hconnection hopen)
  rw [send_decided_eq hconnection hexchange hunresolved hnormalizes hopen,
    send_eq_sendRegistered _ hconnection hexchange hunresolved hnormalizes hopen]
  simp only [sendRegistered, hasked]
  rfl

end Sends

/-- A send asks one session for a stream, or none. -/
theorem send_answering (network : Network α) (answer : Answering α) (key : ConnectionKey)
    (target : ExchangeId) :
    network.send (answering answer) key target = network.send quiet key target ∨
      ∃ connection, network.connection? key = some connection ∧
        network.send (answering answer) key target =
          (network.decided answer connection.session).send quiet key target := by
  cases hconnection : network.connection? key with
  | none => exact .inl (by simp [send, hconnection])
  | some connection =>
  cases hexchange : network.exchange? target with
  | none => exact .inl (by simp [send, hconnection, hexchange])
  | some exchange =>
  cases hresolved : exchange.isResolved with
  | true => exact .inl (by simp [send, hconnection, hexchange, hresolved])
  | false =>
  cases hverdict : exchange.request.normalize.2 with
  | error error => exact .inl (by simp [send, hconnection, hexchange, hresolved, hverdict])
  | ok accepted =>
  cases hclosed : connection.isClosed with
  | true => exact .inl (by simp [send, hconnection, hexchange, hresolved, hverdict, hclosed])
  | false =>
      have hnew : (network.registered key connection target
          exchange.request.normalize.1).channel? network.nextChannel =
            some (newcomer connection key) := channel?_newcomer _
      rw [send_eq_sendRegistered _ hconnection hexchange hresolved hverdict hclosed,
        send_eq_sendRegistered _ hconnection hexchange hresolved hverdict hclosed]
      rcases sendOnChannel_answering hnew answer target with hsame | hother
      · exact .inl (by simp only [sendRegistered, hsame])
      · refine .inr ⟨connection, rfl, ?_⟩
        rw [send_decided_eq hconnection hexchange hresolved hverdict hclosed]
        simp only [sendRegistered, hother]
        rfl

end Answers

end Network

end Multiplex
