import Multiplex.Proofs.Channel.Service
import Multiplex.Proofs.Connection.FailedSend

/-!
# What a channel leaves behind where a send on it fails

A send on a channel looks at four things, one after the other: whether the exchange has its
outcome, whether it is under way already, whether the connection that owns the channel is
closed, and whether the session opens a stream.  `objection?` is the first that stands in the
way.  The exchange is bound after the second and before the third, and so the failures are of
two kinds.

* An exchange that is *taken*, with its outcome or on its way, is turned down before anything is
  done.  Nothing is changed, and in particular an exchange that is under way on another channel
  goes on there.  But the channel is not given up either: it is as it was, and it can still take
  an exchange.
* At a closed connection or at the session the binding is undone, and the channel is given up:
  it is released and carries nothing.

Either way nobody is told, no session has a stream more, and nothing is bound to the channel
(`Declined`).  What has to be known of the channel is that it is new to exchanges (`Fresh`),
as every channel is that is not busy.
-/

namespace Multiplex.Network

variable {α : Type} {network first second final : Network α} {id : ChannelId} {channel : Channel}
  {target : ExchangeId} {exchange : Exchange} {answer : Answering α}

/-! ## Fresh channels -/

/-- A channel that carries nothing and is not released, and to which nothing is bound. -/
structure Fresh (network : Network α) (id : ChannelId) (channel : Channel) : Prop where
  channel? : network.channel? id = some channel
  idle : channel.isBusy = false
  unbound : ∀ {target exchange}, network.exchange? target = some exchange →
    exchange.binding ≠ some id

private theorem fresh_of_bindsBusy (hbinds : BindsBusy network)
    (hchannel : network.channel? id = some channel) (hidle : channel.isBusy = false) :
    network.Fresh id channel where
  channel? := hchannel
  idle := hidle
  unbound := by
    intro target exchange hexchange hbinding
    have hbusy := hbinds hexchange hbinding
    rw [isBusy, hchannel, Option.any_some, hidle] at hbusy
    exact Bool.false_ne_true hbusy

private theorem fresh_run (surroundings : α) (operations : List Operation)
    (hchannel : ((blank surroundings).run operations).channel? id = some channel)
    (hidle : channel.isBusy = false) : ((blank surroundings).run operations).Fresh id channel :=
  fresh_of_bindsBusy
    (BindsBusy.run (bindsBusy_blank surroundings) (sound_blank surroundings) operations)
    hchannel hidle

theorem Fresh.released (hfresh : network.Fresh id channel) : channel.released = false :=
  (Bool.or_eq_false_iff.mp hfresh.idle).2

theorem Fresh.slot (hfresh : network.Fresh id channel) : channel.exchange = none := by
  have hidle := hfresh.idle
  rw [Channel.isBusy, Bool.or_eq_false_iff] at hidle
  simpa using hidle.1

/-! ## What stands in the way -/

/-- What keeps an exchange from a channel. -/
def objection? (network : Network α) (answer : Answering α) (channel : Channel)
    (exchange : Exchange) : Option DispatchError :=
  if exchange.isResolved then some .alreadyResolved
  else if network.isUnderWay exchange then some .alreadyBound
  else if network.ownerIsClosed channel then some .closed
  else (network.refusal? answer channel.session).map .session

private theorem ownerIsClosed_decided (network : Network α) (answer : Answering α)
    (session : SessionKey) (channel : Channel) :
    (network.decided answer session).ownerIsClosed channel = network.ownerIsClosed channel := by
  obtain ⟨sessions, surroundings, heq⟩ := decided_eq network answer session
  rw [heq network rfl rfl]
  rfl

private theorem aside_decided (network : Network α) (answer : Answering α) (session : SessionKey) :
    Aside network (network.decided answer session) := by
  obtain ⟨hexchanges, hchannels, hconnections, hpools, -, hnext⟩ :=
    decided_frame network answer session
  exact ⟨hexchanges, hchannels, hconnections, hnext,
    map_session?_decided Session.outline (fun _ _ _ _ => rfl) network answer session,
    fun key => by rw [hpools]⟩

theorem isTaken_eq (hexchange : network.exchange? target = some exchange) :
    network.isTaken target = (exchange.isResolved || network.isUnderWay exchange) := by
  rw [isTaken, hexchange, Option.any_some]

/-! ## What is left -/

/-- What a send leaves that failed.  If the exchange was taken, nothing is changed; otherwise it
is bound to nothing and the channel is given up.  In any case the channel carries nothing and
nothing is bound to it, and neither connections nor pools nor sessions learned of the send. -/
structure Declined (first second : Network α) (id : ChannelId) (channel : Channel)
    (target : ExchangeId) (exchange : Exchange) : Prop where
  unchanged : first.isTaken target = true → second = first
  channel_after : second.channel? id =
    some (if first.isTaken target then channel else channel.giveUp)
  exchange_after : second.exchange? target =
    some (if first.isTaken target then exchange else exchange.rebind none)
  channel? : ∀ other, other ≠ id → second.channel? other = first.channel? other
  exchange? : ∀ other, other ≠ target → second.exchange? other = first.exchange? other
  carried? : second.carried? id = none
  unbound : ∀ {other found}, second.exchange? other = some found → found.binding ≠ some id
  connection? : second.connection? = first.connection?
  pool? : second.pool? = first.pool?
  streams : ∀ place, (second.session? place).map (fun found => found.transport.streams) =
    (first.session? place).map fun found => found.transport.streams
  trace : second.trace = first.trace

theorem carried?_of_slot (hchannel : network.channel? id = some channel)
    (hslot : channel.exchange = none) : network.carried? id = none := by
  refine Option.eq_none_iff_forall_ne_some.mpr fun target hcarried => ?_
  obtain ⟨found, hfound, -, hcarries, -⟩ := carried?_eq_some.mp hcarried
  obtain rfl := Option.some.inj (hchannel.symm.trans hfound)
  simp [hslot] at hcarries

/-! ## Asking the session -/

section Asked

variable (hchannel : network.channel? id = some channel)
  (hexchange : network.exchange? target = some exchange)
  (hunresolved : exchange.isResolved = false) (hfree : network.isUnderWay exchange = false)
  (hopen : network.ownerIsClosed channel = false)
include hchannel hexchange hunresolved hfree hopen

private theorem sendOnChannel_of_denial {error : SessionError}
    (hdenied : network.denial? channel.session = some error) :
    ∃ final, network.sendOnChannel quiet id target = (final, .error (.session error)) ∧
      Aside ((network.modifyChannel id Channel.giveUp).modifyExchange target
        (Exchange.rebind none)) final ∧
      final.session? = network.session? ∧ final.trace = network.trace := by
  have howner : (network.bind id target).ownerIsClosed channel = false := hopen
  have hbound : (network.bind id target).denial? channel.session = some error := hdenied
  obtain ⟨hrefused, hsession⟩ :=
    openStream_of_denial hbound exchange.request (.channel id)
  obtain ⟨-, hrefuses⟩ :=
    sendOnChannel_of_asked quiet hchannel hexchange hunresolved hfree howner
  have hsent := hrefuses (Prod.ext rfl hrefused)
  rcases sendOnChannel_cases hchannel hexchange hunresolved hfree with
    ⟨failure, final, heq, haside, htrace⟩ | ⟨stream, final, heq, -⟩
  · obtain ⟨hfinal, hfailure⟩ := Prod.ext_iff.mp (heq.symm.trans hsent)
    refine ⟨final, heq.trans (Prod.ext rfl hfailure), haside, ?_, htrace⟩
    rw [show final = _ from hfinal]
    exact hsession
  · rw [heq] at hsent
    simp at hsent

private theorem sendOnChannel_of_clear (hclear : network.denial? channel.session = none) :
    ∃ stream final, network.sendOnChannel quiet id target = (final, .ok stream) := by
  have howner : (network.bind id target).ownerIsClosed channel = false := hopen
  obtain ⟨found, hfound, hwilling⟩ := denial?_eq_none_iff.mp hclear
  have hbound : (network.bind id target).session? channel.session = some found := hfound
  obtain ⟨transport, hopened, -⟩ :=
    openStream_of_clear hbound hwilling exchange.request (.channel id)
  obtain ⟨hopens, -⟩ := sendOnChannel_of_asked quiet hchannel hexchange hunresolved hfree howner
  exact ⟨_, _, hopens (Prod.ext rfl hopened)⟩

end Asked

/-! ## Why a send fails -/

section Ends

variable (hfresh : network.Fresh id channel)
  (hexchange : network.exchange? target = some exchange)
include hfresh hexchange

theorem declined_of_taken (htaken : network.isTaken target = true) :
    Declined network network id channel target exchange where
  unchanged _ := rfl
  channel_after := by rw [htaken, if_pos rfl, hfresh.channel?]
  exchange_after := by rw [htaken, if_pos rfl, hexchange]
  channel? _ _ := rfl
  exchange? _ _ := rfl
  carried? := carried?_of_slot hfresh.channel? hfresh.slot
  unbound := hfresh.unbound
  connection? := rfl
  pool? := rfl
  streams _ := rfl
  trace := rfl

theorem declined_of_givenUp (hfree : network.isTaken target = false)
    (haside : Aside ((network.modifyChannel id Channel.giveUp).modifyExchange target
      (Exchange.rebind none)) final)
    (hpool : final.pool? = network.pool?)
    (hstreams : ∀ place, (final.session? place).map (fun found => found.transport.streams) =
      (network.session? place).map fun found => found.transport.streams)
    (htrace : final.trace = network.trace) :
    Declined network final id channel target exchange := by
  have hchannel : ∀ other, final.channel? other =
      if other = id then (network.channel? other).map Channel.giveUp
      else network.channel? other := by
    intro other
    rw [haside.channel?]
    exact channel?_modifyChannel network id other Channel.giveUp
  have hexchanges : ∀ other, final.exchange? other =
      if other = target then (network.exchange? other).map (Exchange.rebind none)
      else network.exchange? other := by
    intro other
    rw [haside.exchange?]
    exact exchange?_modifyExchange _ target other (Exchange.rebind none)
  have hgivenUp : final.channel? id = some channel.giveUp := by
    rw [hchannel, if_pos rfl, hfresh.channel?, Option.map_some]
  exact
    { unchanged := fun htaken => absurd (hfree.symm.trans htaken) Bool.false_ne_true
      channel_after := by rw [hgivenUp, hfree, if_neg Bool.false_ne_true]
      exchange_after := by
        rw [hexchanges, if_pos rfl, hexchange, hfree, if_neg Bool.false_ne_true, Option.map_some]
      channel? := fun other hne => by rw [hchannel, if_neg hne]
      exchange? := fun other hne => by rw [hexchanges, if_neg hne]
      carried? := carried?_of_slot hgivenUp rfl
      unbound := by
        intro other found hfound
        rw [hexchanges] at hfound
        split at hfound
        · obtain ⟨before, -, rfl⟩ := Option.map_eq_some_iff.mp hfound
          exact (Option.some_ne_none id).symm
        · exact hfresh.unbound hfound
      connection? := haside.connection?
      pool? := hpool
      streams := hstreams
      trace := htrace }

private theorem sendOnChannel_of_objection :
    (∃ error final, network.objection? answer channel exchange = some error ∧
      network.sendOnChannel (answering answer) id target = (final, .error error) ∧
      Declined network final id channel target exchange) ∨
    ∃ stream final, network.objection? answer channel exchange = none ∧
      network.sendOnChannel (answering answer) id target = (final, .ok stream) := by
  have hchannel := hfresh.channel?
  have htaken := isTaken_eq hexchange
  unfold objection?
  cases hresolved : exchange.isResolved with
  | true =>
      rw [hresolved, Bool.true_or] at htaken
      refine .inl ⟨.alreadyResolved, network, if_pos rfl, ?_,
        declined_of_taken hfresh hexchange htaken⟩
      simp [sendOnChannel, hchannel, hexchange, hresolved]
  | false =>
  rw [if_neg Bool.false_ne_true]
  cases hbusy : network.isUnderWay exchange with
  | true =>
      rw [hbusy, Bool.or_true] at htaken
      exact .inl ⟨.alreadyBound, network, if_pos rfl,
        sendOnChannel_of_underWay _ hchannel hexchange hresolved hbusy,
        declined_of_taken hfresh hexchange htaken⟩
  | false =>
  rw [hresolved, hbusy, Bool.or_false] at htaken
  rw [if_neg Bool.false_ne_true]
  cases hclosed : network.ownerIsClosed channel with
  | true =>
      refine .inl ⟨.closed, (network.bind id target).giveUp id target, if_pos rfl, ?_, ?_⟩
      · have howner : (network.bind id target).ownerIsClosed channel = true := hclosed
        simp [sendOnChannel, hchannel, hexchange, hresolved, hbusy, howner]
      · exact declined_of_givenUp hfresh hexchange htaken (aside_giveUp_bind network id target) rfl
          (fun _ => rfl) rfl
  | false =>
  rw [if_neg Bool.false_ne_true]
  -- The session makes up its mind, and that is all that matters of the answer.
  let asked := network.decided answer channel.session
  obtain ⟨hexchanges, hchannels, -, hpools, htrace, -⟩ :=
    decided_frame network answer channel.session
  have hchannel' : asked.channel? id = some channel := by rw [hchannels, hchannel]
  have hexchange' : asked.exchange? target = some exchange := by rw [hexchanges, hexchange]
  have hfree : asked.isUnderWay exchange = false := (isUnderWay_decided ..).trans hbusy
  have hopen : asked.ownerIsClosed channel = false := (ownerIsClosed_decided ..).trans hclosed
  rw [sendOnChannel_decided hchannel answer hexchange hresolved hbusy hclosed]
  cases hrefusal : network.refusal? answer channel.session with
  | some error =>
      obtain ⟨final, hsent, haside, hsession, htold⟩ :=
        sendOnChannel_of_denial hchannel' hexchange' hresolved hfree hopen hrefusal
      have hpool := asked.pool?_sendOnChannel id target
      rw [hsent] at hpool
      refine .inl ⟨.session error, final, rfl, hsent, declined_of_givenUp hfresh hexchange htaken
        ((((aside_decided ..).modifyChannel id _).modifyExchange target _).trans haside)
        (hpool.trans hpools) (fun place => ?_) (htold.trans htrace)⟩
      rw [hsession]
      exact map_session?_decided (fun found => found.transport.streams) (fun _ _ _ _ => rfl)
        network answer channel.session place
  | none =>
      obtain ⟨stream, final, hsent⟩ :=
        sendOnChannel_of_clear hchannel' hexchange' hresolved hfree hopen hrefusal
      exact .inr ⟨stream, final, rfl, hsent⟩

end Ends

/-- A send on a fresh channel fails exactly if there is an objection, and with the first.  Then
it is undone: nobody has been told, no session has a stream more, nothing is bound to the
channel, and the channel carries nothing.  An exchange that is under way is left on its way.  The
channel is given up, unless the exchange was taken. -/
theorem failed_send_is_undone (network : Network α) (answer : Answering α) (id : ChannelId)
    (target : ExchangeId) (hfresh : network.Fresh id channel)
    (hexchange : network.exchange? target = some exchange) :
    let sent := network.sendOnChannel (answering answer) id target
    (∀ error, sent.2 = .error error ↔
      network.objection? answer channel exchange = some error) ∧
    ∀ error, sent.2 = .error error →
      Declined network sent.1 id channel target exchange ∧
      (∃ left, sent.1.channel? id = some left ∧ left.released = !network.isTaken target) ∧
      (network.isUnderWay exchange = true →
        sent.1.exchange? target = some exchange ∧ sent.1.isUnderWay exchange = true) := by
  intro sent
  rcases sendOnChannel_of_objection hfresh hexchange with
    ⟨error, final, hobjection, heq, hdeclined⟩ | ⟨stream, final, hnone, heq⟩
  · have hsent : sent = (final, .error error) := heq
    rw [hsent, hobjection]
    refine ⟨fun other => by simp, fun other _ => ⟨hdeclined, ⟨_, hdeclined.channel_after, ?_⟩, ?_⟩⟩
    · cases network.isTaken target with
      | true => exact hfresh.released
      | false => rfl
    · intro hbusy
      have htaken : network.isTaken target = true := by
        rw [isTaken_eq hexchange, hbusy, Bool.or_true]
      rw [hdeclined.unchanged htaken]
      exact ⟨hexchange, hbusy⟩
  · have hsent : sent = (final, .ok stream) := heq
    rw [hsent, hnone]
    exact ⟨fun error => by simp, fun error hfailed => by simp at hfailed⟩

/-- A session refuses, and the channel is given up. -/
theorem failed_send_is_undone_at_refusal :
    let network := (blank ()).run handmadeSteps
    let refusing : Answering Unit := fun _ _ memory => (some (.tooManyStreams 0), memory)
    let sent := network.sendOnChannel (answering refusing) ⟨1⟩ ⟨1⟩
    sent.2 = .error (.session (.tooManyStreams 0)) ∧ sent.1.carried? ⟨1⟩ = none ∧
      ∃ left, sent.1.channel? ⟨1⟩ = some left ∧ left.released = true := by
  intro network refusing sent
  have hfresh : network.Fresh ⟨1⟩ ⟨⟨1⟩, none, ⟨1⟩, none, none, none, [], false, false, 1⟩ :=
    fresh_run () handmadeSteps rfl rfl
  obtain ⟨hfails, hundone⟩ := failed_send_is_undone network refusing ⟨1⟩ ⟨1⟩ hfresh rfl
  have hfailed := (hfails (.session (.tooManyStreams 0))).mpr rfl
  obtain ⟨hdeclined, hleft, -⟩ := hundone _ hfailed
  exact ⟨hfailed, hdeclined.carried?, hleft⟩

/-- A channel that is asked to take an exchange which is under way on another channel fails, and
so it does once the exchange has its outcome.  It is not released either time, and takes
another exchange afterwards. -/
theorem turned_down_channel_is_not_given_up :
    let network := (blank ()).run (handmadeSteps ++ [.makeChannel ⟨1⟩ none ⟨1⟩])
    let carrying := network.run [.sendOnChannel ⟨1⟩ ⟨1⟩]
    let resolved := carrying.run [.abort ⟨1⟩ .timedOut]
    let turnedDown := (carrying.sendOnChannel quiet ⟨2⟩ ⟨1⟩).1
    let refused := (resolved.sendOnChannel quiet ⟨2⟩ ⟨1⟩).1
    carrying.isBusy ⟨2⟩ = false ∧
      (carrying.sendOnChannel quiet ⟨2⟩ ⟨1⟩).2 = .error .alreadyBound ∧
      (turnedDown.channel? ⟨2⟩).map Channel.released = some false ∧
      (turnedDown.sendOnChannel quiet ⟨2⟩ ⟨2⟩).2 = .ok ⟨3⟩ ∧
      resolved.isBusy ⟨2⟩ = false ∧
      (resolved.sendOnChannel quiet ⟨2⟩ ⟨1⟩).2 = .error .alreadyResolved ∧
      (refused.channel? ⟨2⟩).map Channel.released = some false ∧
      (refused.sendOnChannel quiet ⟨2⟩ ⟨2⟩).2 = .ok ⟨3⟩ := by
  intro network carrying resolved turnedDown refused
  refine ⟨?_, ?_, ?_, ?_, ?_, ?_, ?_, ?_⟩ <;> decide +kernel

end Multiplex.Network
