import Multiplex.Proofs.Stress.Filling

/-!
# What plain dealings keep

Plain dealings let nobody go who holds an exchange, and open streams only for exchanges that
are sent.  As long as exchanges are dispatched and nothing else is done, no exchange gets an
outcome, every channel carries an exchange that was sent, and every stream that was opened is
still the stream of a channel that is listed.

All this is shown for one operation, of which there are few kinds here: most are upkeep, and
the rest are sends.
-/

namespace Multiplex

/-- A dealing in which an exchange is made or dispatched through a pool, or a connection is let
go. -/
def Dealing.isDispatching : Dealing → Bool
  | .send .. | .outside (.makeExchange _) _ | .outside (.letGoConnection _) _ => true
  | _ => false

theorem Dealing.isPlain_of_isDispatching {dealing : Dealing}
    (hdispatching : dealing.isDispatching = true) : dealing.isPlain = true := by
  cases dealing with
  | send => rfl
  | outside operation hoperation =>
      cases operation with
      | makeExchange | letGoConnection => rfl
      | _ => exact Bool.noConfusion hdispatching
  | _ => exact Bool.noConfusion hdispatching

private theorem Dealing.isDelivery_of_isDispatching {dealing : Dealing}
    (hdispatching : dealing.isDispatching = true) : dealing.isDelivery = false := by
  cases dealing with
  | send | outside => rfl
  | _ => exact Bool.noConfusion hdispatching

private theorem Dealing.asks_of_isDelivery {dealing : Dealing}
    (hdelivery : dealing.isDelivery = true) (place : PoolKey) : dealing.asks place = false := by
  cases dealing with
  | advance | deliver => rfl
  | _ => exact Bool.noConfusion hdelivery

namespace Network

variable {α : Type} {network first second : Network α} {id : ChannelId} {key : ConnectionKey}
  {connection : Connection} {target : ExchangeId} {exchange : Exchange} {place : PoolKey}
  {session : SessionKey} {operation : Operation} {dealing : Dealing} {happening : Happening}

/-! ## Handles of exchanges -/

/-- How many handles of an exchange there are. -/
def handles? (network : Network α) (target : ExchangeId) : Option Nat :=
  (network.exchange? target).map Exchange.handles

private theorem holds_congr (hhandles : second.handles? target = first.handles? target) :
    second.holds target = first.holds target := by
  have hany : ∀ network : Network α,
      network.holds target = (network.handles? target).any fun count => count != 0 := by
    intro network
    rw [holds, handles?, Option.any_map]
    rfl
  rw [hany, hany, hhandles]

private theorem Brings.handles?_eq (hbrings : Brings first happening second) (target : ExchangeId) :
    second.handles? target = first.handles? target := by
  by_cases hunsent : ∀ key other, happening ≠ .sent key other
  · exact hbrings.map_exchange? Exchange.handles (fun _ _ => rfl) (fun _ _ => rfl) hunsent target
  · cases hbrings with
    | undispatched _ hundispatched =>
        rcases hundispatched.exchange target with heq | ⟨rfl, found, _, _, hfound, hafter, -⟩
        · rw [handles?, handles?, heq]
        · rw [handles?, handles?, hfound, hafter]
          rfl
    | dispatched _ _ hexchange _ hdispatched =>
        have hafter := hdispatched.exchange? target
        split at hafter
        next heq => rw [handles?, handles?, hafter, heq, hexchange]; rfl
        next => rw [handles?, handles?, hafter]
    | _ => exact absurd (fun _ _ => Happening.noConfusion) hunsent

/-- An operation of a plain dealing that comes to nothing leaves the exchanges alone that there
are. -/
theorem Does.exchange?_of_nothing (hdoes : network.Does dealing operation)
    (hplain : dealing.isPlain = true) (hnothing : network.happening operation = .nothing)
    (hthere : (network.exchange? target).isSome = true) :
    (network.undergo operation).exchange? target = network.exchange? target := by
  cases hdirect : operation.isDirect with
  | true => rw [undergo_eq_self hdirect hnothing]
  | false =>
  cases hdoes with
  | takes =>
      simp only [undergo]
      split <;> rfl
  | @opens _ pool _ _ hpool =>
      simp only [undergo, hpool]
      rcases openConnection_cases hpool with
        ⟨error, final, heq, hmisses⟩ | ⟨transport, final, heq, hopens⟩
      · rw [heq, hmisses.exchange?]
      · rw [heq, hopens.exchange?]
  | tunes recording _ => exact congrFun (network.moveSession_frame _ _).1 target
  | moves key transport _ => exact congrFun (network.moveSession_frame _ _).1 target
  | sends | closes => exact Bool.noConfusion hdirect
  | letsGo =>
      simp only [undergo, release]
      split <;> rfl
  | shuts | passes => rfl
  | hears listener event _ =>
      cases listener with
      | channel id => exact Bool.noConfusion hdirect
      | observer name => rfl
  | acts operation hoperation =>
      cases operation with
      | makePool => rfl
      | makeExchange request =>
          have hne : target ≠ network.nextExchange := by
            rintro rfl
            simp at hthere
          simp only [undergo, exchange?_addExchange, if_neg hne]
      | letGoConnection key =>
          simp only [undergo, release]
          split <;> rfl
      | _ => exact Bool.noConfusion hplain

/-- Plain dealings let nobody go who holds an exchange. -/
theorem holds_deal (hsound : Sound network) (hstocked : Stocked network) (answer : Answering α)
    (dealing : Dealing) (hplain : dealing.isPlain = true) (hheld : network.holds target = true) :
    (network.deal answer dealing).holds target = true := by
  refine deal_induction (motive := fun reached => reached.holds target = true) hsound hstocked
    (fun _ _ hkept => hkept) (fun _ _ _ hkept => hkept) answer hheld ?_
  intro reached operation hsound hstocked hdoes hkept
  by_cases hnothing : reached.happening operation = .nothing
  · obtain ⟨exchange, hexchange, -⟩ := holds_iff.mp hkept
    have hthere : (reached.exchange? target).isSome = true := by rw [hexchange, Option.isSome_some]
    rw [holds, hdoes.exchange?_of_nothing hplain hnothing hthere]
    exact hkept
  · rw [holds_congr ((brings_undergo hsound hnothing).handles?_eq target)]
    exact hkept

/-! ## Dispatching -/

private theorem Does.sent_or_nothing (hdoes : network.Does dealing operation)
    (hdispatching : dealing.isDispatching = true) :
    network.happening operation = .nothing ∨ ∃ key target,
      operation = .send key target ∧ network.happening operation = .sent key target := by
  cases hdoes with
  | takes | opens | tunes | letsGo => exact .inl rfl
  | @sends _ target key =>
      simp only [happening]
      split
      · exact .inr ⟨key, target, rfl, rfl⟩
      · exact .inl rfl
  | shuts | closes | passes => exact Bool.noConfusion hdispatching
  | moves _ _ hdelivery | hears _ _ hdelivery =>
      simp [Dealing.isDelivery_of_isDispatching hdispatching] at hdelivery
  | acts operation hoperation =>
      cases operation with
      | makeExchange | letGoConnection => exact .inl rfl
      | _ => exact Bool.noConfusion hdispatching

/-- While exchanges are dispatched, an operation is upkeep, or a send that fails or is
accepted. -/
inductive Proceedings (first second : Network α) (operation : Operation) : Prop
  | upkeep : Calm first second → first.happening operation = .nothing →
      Proceedings first second operation
  | refused {target : ExchangeId} : Undispatched first second target →
      Proceedings first second operation
  | accepted {key : ConnectionKey} {target : ExchangeId} {connection : Connection}
      {exchange : Exchange} {stream : StreamId} : operation = .send key target →
      first.connection? key = some connection → first.exchange? target = some exchange →
      Dispatched first second key connection target exchange stream →
      Proceedings first second operation

theorem Does.proceedings (hdoes : network.Does dealing operation)
    (hdispatching : dealing.isDispatching = true) (hsound : Sound network) :
    Proceedings network (network.undergo operation) operation := by
  rcases hdoes.sent_or_nothing hdispatching with hnothing | ⟨key, target, rfl, hsent⟩
  · exact .upkeep (.undergo hnothing) hnothing
  · have hsomething : network.happening (.send key target) ≠ .nothing := by simp [hsent]
    have hbrings := brings_undergo hsound hsomething
    rw [hsent] at hbrings
    cases hbrings with
    | undispatched _ hundispatched => exact .refused hundispatched
    | dispatched _ hconnection hexchange _ hdispatched =>
        exact .accepted rfl hconnection hexchange hdispatched

/-- While exchanges are dispatched, none gets an outcome. -/
theorem outcome?_deal (hsound : Sound network) (hstocked : Stocked network)
    (answer : Answering α) (hdispatching : dealing.isDispatching = true)
    (hthere : (network.exchange? target).isSome = true) :
    (network.deal answer dealing).outcome? target = network.outcome? target := by
  refine (deal_induction (motive := fun reached => (reached.exchange? target).isSome = true ∧
    reached.outcome? target = network.outcome? target) hsound hstocked (fun _ _ hkept => hkept)
    (fun _ _ _ hkept => hkept) answer ⟨hthere, rfl⟩ ?_).2
  rintro reached operation hsound hstocked hdoes ⟨hstill, hkept⟩
  refine ⟨(later_undergo hsound operation).isSome hstill, Eq.trans ?_ hkept⟩
  cases hdoes.proceedings hdispatching hsound with
  | upkeep _ hnothing =>
      rw [outcome?, hdoes.exchange?_of_nothing (Dealing.isPlain_of_isDispatching hdispatching)
        hnothing hstill]
      rfl
  | refused hundispatched =>
      rcases hundispatched.exchange target with heq | ⟨rfl, found, _, _, hfound, hafter, -⟩
      · rw [outcome?, heq]
        rfl
      · rw [outcome?, outcome?, hfound, hafter]
        rfl
  | accepted _ _ hexchange hdispatched =>
      rw [outcome?, outcome?, hdispatched.exchange?]
      split
      next heq => rw [heq, hexchange]; rfl
      next => rfl

/-- While exchanges are dispatched, no release is counted, and nothing is cut off. -/
theorem releases_of_dispatching (hsound : Sound network) (hstocked : Stocked network)
    (answer : Answering α) (hdispatching : dealing.isDispatching = true) (place : PoolKey) :
    (network.deal answer dealing).releases place = network.releases place ∧
      cutOffs place (network.closings dealing) = [] := by
  cases dealing with
  | send => exact ⟨releases_of_pooled hsound hstocked answer rfl place, rfl⟩
  | outside operation hoperation =>
      cases operation with
      | makeExchange request => exact ⟨rfl, rfl⟩
      | letGoConnection key =>
          refine ⟨releases_congr ?_, rfl⟩
          simp only [deal, undergo, release]
          split <;> rfl
      | _ => exact Bool.noConfusion hdispatching
  | _ => exact Bool.noConfusion hdispatching

/-! ## What channels carry -/

/-- Channels carry some exchanges at most. -/
def CarriesOnly (network : Network α) (targets : List ExchangeId) : Prop :=
  ∀ id channel target, network.channel? id = some channel → channel.exchange = some target →
    target ∈ targets

namespace CarriesOnly

variable {targets : List ExchangeId} (hcarries : first.CarriesOnly targets)
include hcarries

theorem mono {others : List ExchangeId} (hsubset : targets ⊆ others) :
    first.CarriesOnly others :=
  fun id channel target hchannel hslot => hsubset (hcarries id channel target hchannel hslot)

/-- What only ends channels makes none carry another exchange. -/
theorem of_ends {finished : ChannelId → Prop} (hends : Ends first second finished) :
    second.CarriesOnly targets := by
  intro id after target hafter hslot
  cases hbefore : first.channel? id with
  | none => simp [hends.newChannel hbefore hafter] at hslot
  | some before =>
      rcases hends.slot hbefore hafter with hsame | hnone
      · exact hcarries id before target hbefore (hsame ▸ hslot)
      · simp [hnone] at hslot

private theorem of_dispatched {stream : StreamId}
    (hdispatched : Dispatched first second key connection target exchange stream)
    (hmem : target ∈ targets) : second.CarriesOnly targets := by
  intro id after other hafter hslot
  rw [hdispatched.channel?] at hafter
  split at hafter
  next =>
    obtain rfl := Option.some.inj hafter
    obtain rfl := Option.some.inj hslot
    exact hmem
  next => exact hcarries id after other hafter hslot

end CarriesOnly

/-- While exchanges are dispatched, channels carry only those that were sent. -/
theorem CarriesOnly.deal {targets : List ExchangeId} (hcarries : network.CarriesOnly targets)
    (hsound : Sound network) (hstocked : Stocked network) (answer : Answering α)
    (hdispatching : dealing.isDispatching = true)
    (hsends : ∀ place target, dealing = .send place target → target ∈ targets) :
    (network.deal answer dealing).CarriesOnly targets := by
  refine deal_induction (motive := fun reached => reached.CarriesOnly targets) hsound hstocked
    (fun _ _ hkept => hkept) (fun _ _ _ hkept => hkept) answer hcarries ?_
  intro reached operation hsound hstocked hdoes hkept
  cases hdoes.proceedings hdispatching hsound with
  | upkeep hcalm => exact hkept.of_ends hcalm.ends
  | refused hundispatched => exact hkept.of_ends hundispatched.spares.ends
  | accepted hsend _ _ hdispatched =>
      subst hsend
      refine hkept.of_dispatched hdispatched ?_
      cases hdoes with
      | sends => exact hsends _ _ rfl
      | acts operation hoperation => exact Bool.noConfusion hdispatching

/-! ## Streams that were opened -/

/-- Every stream that a session opened belongs to a channel that its connection lists. -/
def Unspent (network : Network α) (session : SessionKey) : Prop :=
  network.streamsOpened session = 0 ∨ ∃ key connection,
    network.connection? key = some connection ∧ connection.session = session ∧
      network.streamsOpened session ≤ connection.live.length

theorem Unspent.proceedings (hunspent : first.Unspent session)
    (halone : ∀ {key other connection found}, first.connection? key = some connection →
      first.connection? other = some found → connection.session = session →
      found.session = session → key = other)
    (hproceedings : Proceedings first second operation) : second.Unspent session := by
  cases hproceedings with
  | upkeep hcalm =>
      rw [Unspent, hcalm.streamsOpened]
      refine hunspent.imp_right fun ⟨key, before, hbefore, hover, hle⟩ => ?_
      obtain ⟨after, hafter, hrests⟩ := (hcalm.connection key).exists_after hbefore
      exact ⟨key, after, hafter, hrests.session.trans hover, hrests.live ▸ hle⟩
  | refused hundispatched =>
      have hopened : second.streamsOpened session = first.streamsOpened session := by
        rw [streamsOpened, hundispatched.trace]
        rfl
      rwa [Unspent, hopened, hundispatched.connection?]
  | @accepted key target connection exchange stream _ hconnection _ hdispatched =>
      have hlive : (connection.register first.nextChannel).live.length =
          connection.live.length + 1 := by simp [Connection.register]
      have hregistered : second.connection? key = some (connection.register first.nextChannel) :=
        (hdispatched.connection? key).trans (if_pos rfl)
      by_cases hover : connection.session = session
      · have hopened : second.streamsOpened session = first.streamsOpened session + 1 := by
          simp [streamsOpened, hdispatched.trace, Notice.opensStream, hover]
        refine .inr ⟨key, _, hregistered, hover, ?_⟩
        rcases hunspent with hnone | ⟨other, found, hfound, hgoes, hle⟩
        · omega
        · obtain rfl := halone hconnection hfound hover hgoes
          obtain rfl := Option.some.inj (hconnection.symm.trans hfound)
          omega
      · have hopened : second.streamsOpened session = first.streamsOpened session := by
          refine streamsOpened_of_notices hdispatched.trace fun notice hmem => ?_
          obtain rfl := List.mem_singleton.mp hmem
          simpa [Notice.opensStream] using hover
        rw [Unspent, hopened]
        refine hunspent.imp_right fun ⟨other, found, hfound, hgoes, hle⟩ => ?_
        have hne : other ≠ key := by
          rintro rfl
          obtain rfl := Option.some.inj (hconnection.symm.trans hfound)
          exact hover hgoes
        exact ⟨other, found, (hdispatched.connection? other).trans ((if_neg hne).trans hfound),
          hgoes, hle⟩

private theorem Does.respects_of_dispatching (hdoes : network.Does dealing operation)
    (hdispatching : dealing.isDispatching = true) : network.Respects session operation := by
  cases dealing with
  | send => exact hdoes.respects rfl (by simp)
  | outside other hoperation =>
      cases hdoes with
      | acts => cases operation <;> trivial
      | takes _ hasks | opens hasks => exact Bool.noConfusion hasks
      | moves _ _ hdelivery | hears _ _ hdelivery => exact Bool.noConfusion hdelivery
  | _ => exact Bool.noConfusion hdispatching

/-- While exchanges are dispatched, no stream ends. -/
theorem Unspent.deal (hunspent : network.Unspent session) (hinStep : InStep network session)
    (answer : Answering α) (hdispatching : dealing.isDispatching = true) :
    (network.deal answer dealing).Unspent session := by
  obtain ⟨acts, hcourse, hfits⟩ := course_deal hinStep.sound answer dealing
  have hrespects : ∀ act ∈ acts, act.network.Respects session act.operation :=
    fun act hmem => (hfits act hmem).respects_of_dispatching hdispatching
  refine hinStep.induction (motive := fun reached => reached.Unspent session)
    (fun _ _ hkept => hkept) (fun _ _ _ hkept => hkept) hcourse hrespects hunspent ?_
  intro reached operation hthere hmem hkept
  exact hkept.proceedings hthere.mirrored.alone
    ((hfits _ hmem).proceedings hdispatching hthere.sound)

/-! ## Deliveries -/

private theorem Does.ends_of_delivery (hdoes : network.Does dealing operation)
    (hdelivery : dealing.isDelivery = true) (hsound : Sound network) :
    (∃ finished, Ends network (network.undergo operation) finished) ∧
      ∀ session, (network.undergo operation).streamsOpened session =
        network.streamsOpened session := by
  have hupkeep : network.happening operation = .nothing →
      (∃ finished, Ends network (network.undergo operation) finished) ∧
        ∀ session, (network.undergo operation).streamsOpened session =
          network.streamsOpened session := fun hnothing =>
    ⟨⟨_, (Calm.undergo hnothing).ends⟩, (Calm.undergo hnothing).streamsOpened⟩
  cases hdoes with
  | passes | moves => exact hupkeep rfl
  | hears listener event _ =>
      cases listener with
      | observer name => exact hupkeep rfl
      | channel id =>
          have hsomething : network.happening (.hears (.channel id) event) ≠ .nothing := by
            simp [happening]
          have hbrings : Brings network (.event id event)
              (network.undergo (.hears (.channel id) event)) := brings_undergo hsound hsomething
          generalize network.undergo (.hears (.channel id) event) = second at hbrings ⊢
          cases hbrings with
          | unheard => exact ⟨⟨_, (Calm.refl network).ends⟩, fun _ => rfl⟩
          | absorbed => exact ⟨⟨_, (spares_absorb ..).ends⟩, fun _ => rfl⟩
          | reported _ _ _ hends htrace => exact ⟨⟨_, hends⟩, streamsOpened_of_parting htrace⟩
  | takes _ hasks | opens hasks => simp [Dealing.asks_of_isDelivery hdelivery] at hasks
  | tunes | sends | letsGo | shuts | closes | acts => exact Bool.noConfusion hdelivery

/-- When time passes, no channel is made to carry anything, and no stream is opened. -/
theorem carriesOnly_advance {targets : List ExchangeId} (hcarries : network.CarriesOnly targets)
    (hsound : Sound network) (hstocked : Stocked network) (answer : Answering α)
    (milliseconds : Nat) :
    (network.deal answer (.advance milliseconds)).CarriesOnly targets ∧
      ∀ session, (network.deal answer (.advance milliseconds)).streamsOpened session =
        network.streamsOpened session := by
  refine deal_induction (motive := fun reached => reached.CarriesOnly targets ∧
    ∀ session, reached.streamsOpened session = network.streamsOpened session) hsound hstocked
    (fun _ _ hkept => hkept) (fun _ _ _ hkept => hkept) answer ⟨hcarries, fun _ => rfl⟩ ?_
  rintro reached operation hsound - hdoes ⟨hkept, hopened⟩
  obtain ⟨⟨finished, hends⟩, hsame⟩ := hdoes.ends_of_delivery rfl hsound
  exact ⟨hkept.of_ends hends, fun session => (hsame session).trans (hopened session)⟩

end Network

end Multiplex
