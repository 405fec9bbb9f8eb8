import Multiplex.Proofs.Channel.Partings
import Multiplex.Proofs.Exchange.Outcome
import Multiplex.Proofs.Lists
import Multiplex.Proofs.Loopback.Mirror

/-!
# A channel serves one exchange

A channel is made for one exchange: from the first send on it, it carries the exchange until it
is released, and it is released for good (`isBusy_run`).  What is not checked where an exchange
is sent on a channel is just this, that the channel is not busy; only the exchange is looked at
(`isTaken`).  So the channel serves one exchange as long as nobody sends a second on it that is
free to go (`sparesBusy`), and if somebody does, the second displaces the first
(`second_exchange_displaces_the_first`).

The exchange that was accepted is settled by the first happening that can decide it, which is
followed as in the case of channels that a connection made.  There the connection lists the
channel; here somebody holds it and nobody else is bound to it (`Serves`).
-/

namespace Multiplex

/-! ## Busy channels -/

/-- Whether a channel carries an exchange or is released. -/
def Channel.isBusy (channel : Channel) : Bool := channel.exchange.isSome || channel.released

namespace Channel

theorem isBusy_of_released {channel : Channel} (hreleased : channel.released = true) :
    channel.isBusy = true := by
  rw [isBusy, hreleased, Bool.or_true]

theorem isBusy_of_slot {channel : Channel} {target : ExchangeId}
    (hslot : channel.exchange = some target) : channel.isBusy = true := by
  rw [isBusy, hslot]
  rfl

private theorem isBusy_cut (aborted : Bool) {channel : Channel} (hbusy : channel.isBusy = true) :
    (channel.cut aborted).isBusy = true := by
  cases aborted with
  | false => exact hbusy
  | true => exact isBusy_of_released channel.cancel.released_retire

end Channel

namespace Network

variable {α : Type} {first second network : Network α} {id : ChannelId} {target : ExchangeId}

/-- Whether a channel is there and carries an exchange or is released. -/
def isBusy (network : Network α) (id : ChannelId) : Bool :=
  (network.channel? id).any Channel.isBusy

theorem isBusy_iff :
    network.isBusy id = true ↔
      ∃ channel, network.channel? id = some channel ∧ channel.isBusy = true := by
  unfold isBusy
  cases network.channel? id <;> simp

theorem isBusy_of_some {channel : Channel} (hchannel : network.channel? id = some channel)
    (hbusy : channel.isBusy = true) : network.isBusy id = true :=
  isBusy_iff.mpr ⟨channel, hchannel, hbusy⟩

/-- A channel that is busy stays so in every step. -/
theorem Brings.isBusy {happening : Happening} (hstep : Brings first happening second)
    (hbusy : first.isBusy id = true) : second.isBusy id = true := by
  obtain ⟨channel, hchannel, hcarries⟩ := isBusy_iff.mp hbusy
  cases hstep with
  | unheard | decided | unsent => exact hbusy
  | @absorbed place event =>
      have hafter := channel?_modifyChannel first place id (Channel.absorb event)
      rw [hchannel] at hafter
      split at hafter
      · refine isBusy_of_some hafter ?_
        obtain ⟨-, -, -, hslot, -, -, hreleased, -⟩ := channel.absorb_frame event
        rw [Channel.isBusy, hslot, hreleased]
        exact hcarries
      · exact isBusy_of_some hafter hcarries
  | reported _ _ hstops | cancelled _ _ _ _ hstops =>
      refine isBusy_of_some (hstops.channel_after hchannel) ?_
      split
      · exact Channel.isBusy_of_released (Channel.released_retire _)
      · exact hcarries
  | withdrawn => exact isBusy_of_some hchannel hcarries
  | closed _ _ hcloses =>
      have hafter := hcloses.channel? id
      rw [hchannel] at hafter
      split at hafter
      · exact isBusy_of_some hafter (Channel.isBusy_cut _ hcarries)
      · exact isBusy_of_some hafter hcarries
  | undispatched _ hundispatched =>
      exact isBusy_of_some (hundispatched.channel_after hchannel) hcarries
  | dispatched _ _ _ _ hdispatched =>
      have hafter := hdispatched.channel? id
      split at hafter
      · exact isBusy_of_some hafter (Channel.isBusy_of_slot rfl)
      · exact isBusy_of_some (hafter.trans hchannel) hcarries
  | givenUp _ _ _ _ hhandles =>
      refine isBusy_of_some (hhandles.channel_after hchannel) ?_
      split
      · exact Channel.isBusy_of_released rfl
      · exact hcarries
  | sentOn _ _ _ _ _ _ _ hhandles =>
      refine isBusy_of_some (hhandles.channel_after hchannel) ?_
      split
      · exact Channel.isBusy_of_slot rfl
      · exact hcarries

theorem isBusy_undergo (hsound : Sound network) (hbusy : network.isBusy id = true)
    (operation : Operation) : (network.undergo operation).isBusy id = true := by
  by_cases hnothing : network.happening operation = .nothing
  · obtain ⟨channel, hchannel, hcarries⟩ := isBusy_iff.mp hbusy
    obtain ⟨after, hafter, rfl⟩ := ((Calm.undergo hnothing).channel id).exists_after hchannel
    exact isBusy_of_some hafter hcarries
  · exact (brings_undergo hsound hnothing).isBusy hbusy

private theorem isBusy_run (hsound : Sound network) (hbusy : network.isBusy id = true)
    (operations : List Operation) : (network.run operations).isBusy id = true := by
  induction operations generalizing network with
  | nil => exact hbusy
  | cons operation operations ih =>
      exact ih (hsound.undergo operation) (isBusy_undergo hsound hbusy operation)

/-- Whatever is bound to a channel made the channel busy. -/
def BindsBusy (network : Network α) : Prop :=
  ∀ {target exchange id}, network.exchange? target = some exchange →
    exchange.binding = some id → network.isBusy id = true

theorem bindsBusy_blank (surroundings : α) : BindsBusy (blank surroundings) := by
  intro target exchange id hexchange
  simp at hexchange

theorem BindsBusy.undergo (hbinds : BindsBusy network) (hsound : Sound network)
    (operation : Operation) : BindsBusy (network.undergo operation) := by
  intro target after id hafter hbinding
  rcases ends_or_carries_undergo hsound operation with
    ⟨finished, hends⟩ | ⟨-, other, exchange, place, channel, hcarries⟩
  · cases hbefore : network.exchange? target with
    | none => simp [hends.newExchange hbefore hafter] at hbinding
    | some before =>
        rcases hends.binding hbefore hafter with hsame | ⟨hnone, -⟩
        · exact isBusy_undergo hsound (hbinds hbefore (hsame.symm.trans hbinding)) operation
        · simp [hnone] at hbinding
  · by_cases heq : target = other
    · subst heq
      obtain rfl := hcarries.binding_after hafter hbinding
      exact isBusy_of_some hcarries.slot.1 (Channel.isBusy_of_slot hcarries.slot.2)
    · rw [hcarries.exchange? target heq] at hafter
      exact isBusy_undergo hsound (hbinds hafter hbinding) operation

theorem BindsBusy.run (hbinds : BindsBusy network) (hsound : Sound network)
    (operations : List Operation) : BindsBusy (network.run operations) := by
  induction operations generalizing network with
  | nil => exact hbinds
  | cons operation operations ih =>
      exact ih (hbinds.undergo hsound operation) (hsound.undergo operation)

end Network

/-! ## What decides -/

namespace Happening

/-- What a happening decides about an exchange that travels over a channel which has heard some
events; the channel is listed by a connection, or it was made by hand and is listed by none. -/
def decisionOf? (lister : Option ConnectionKey) (id : ChannelId) (target : ExchangeId)
    (past : List StreamEvent) : Happening → Option Outcome
  | .event place heard => if place = id then heard.verdict? past else none
  | .aborted other error => if other = target then some (.error error) else none
  | .closed other reason => if lister = some other then some (.error (.aborted reason)) else none
  | _ => none

private theorem decisionOf?_some (key : ConnectionKey) (id : ChannelId) (target : ExchangeId)
    (past : List StreamEvent) (happening : Happening) :
    happening.decisionOf? (some key) id target past = happening.decision? key id target past := by
  cases happening with
  | closed other reason => simp only [decisionOf?, decision?, Option.some.injEq, eq_comm]
  | _ => rfl

end Happening

/-- What the first happening that decides anything about an exchange decides. -/
def firstDecisionOf? (lister : Option ConnectionKey) (id : ChannelId) (target : ExchangeId) :
    List StreamEvent → List Happening → Option Outcome
  | _, [] => none
  | past, happening :: rest =>
    match happening.decisionOf? lister id target past with
    | some outcome => some outcome
    | none => firstDecisionOf? lister id target (past ++ (happening.heard? id).toList) rest

private theorem firstDecisionOf?_some (key : ConnectionKey) (id : ChannelId) (target : ExchangeId)
    (past : List StreamEvent) (happenings : List Happening) :
    firstDecisionOf? (some key) id target past happenings =
      firstDecision? key id target past happenings := by
  induction happenings generalizing past with
  | nil => rfl
  | cons happening rest ih =>
      rw [firstDecisionOf?, firstDecision?, Happening.decisionOf?_some]
      cases happening.decision? key id target past with
      | none => exact ih _
      | some outcome => rfl

theorem StreamEvent.isSome_verdict? (past : List StreamEvent) (event : StreamEvent) :
    (event.verdict? past).isSome = event.isLast := by
  cases event with
  | response head => rfl
  | data piece ended =>
      cases ended with
      | false => rfl
      | true =>
          simp only [verdict?, if_true, isLast]
          cases lastHead? past <;> rfl
  | reset code => rfl
  | failure error => rfl

private theorem isSome_firstDecisionOf? {lister : Option ConnectionKey} {id : ChannelId}
    {target : ExchangeId} {past : List StreamEvent} {happenings : List Happening}
    {event : StreamEvent} (hmem : .event id event ∈ happenings) (hlast : event.isLast = true) :
    (firstDecisionOf? lister id target past happenings).isSome = true := by
  induction happenings generalizing past with
  | nil => cases hmem
  | cons happening rest ih =>
      rw [firstDecisionOf?]
      cases hdecision : happening.decisionOf? lister id target past with
      | some outcome => rfl
      | none =>
          rcases List.mem_cons.mp hmem with rfl | hlater
          · have hverdict := event.isSome_verdict? past
            rw [Happening.decisionOf?, if_pos rfl] at hdecision
            rw [hdecision, hlast] at hverdict
            exact absurd hverdict Bool.false_ne_true
          · exact ih hlater

/-- Events from which a channel would have collected what it has. -/
def Channel.heard (channel : Channel) : List StreamEvent :=
  channel.head.toList.map .response ++ [.data channel.body false]

private theorem Channel.lastHead?_heard (channel : Channel) :
    lastHead? channel.heard = channel.head := by
  rw [heard]
  cases channel.head <;> rfl

private theorem Channel.wholeBody_heard (channel : Channel) :
    wholeBody channel.heard = channel.body := by
  rw [heard]
  cases channel.head <;> simp [wholeBody, StreamEvent.piece]

namespace Network

variable {α : Type} {first second network : Network α} {id : ChannelId} {target : ExchangeId}
  {past : List StreamEvent}

/-! ## Serving an exchange -/

/-- A channel that somebody holds carries an exchange that waits, and has collected what it
heard; and nothing else is bound to it. -/
structure Serves (network : Network α) (id : ChannelId) (target : ExchangeId)
    (past : List StreamEvent) : Prop where
  exchange : ∃ exchange, network.exchange? target = some exchange ∧ exchange.outcome = none ∧
    exchange.binding = some id
  channel : ∃ channel, network.channel? id = some channel ∧ channel.isHeld = true ∧
    channel.released = false ∧ channel.exchange = some target ∧
    channel.head = lastHead? past ∧ channel.body = wholeBody past
  alone : ∀ {other exchange}, network.exchange? other = some exchange →
    exchange.binding = some id → other = target

/-- Where an exchange is resolved or under way on some channel, a send is turned down. -/
def isTaken (network : Network α) (target : ExchangeId) : Bool :=
  (network.exchange? target).any fun exchange =>
    exchange.isResolved || network.isUnderWay exchange

theorem sendOnChannel_of_isTaken (htaken : network.isTaken target = true) (id : ChannelId) :
    ∃ error, network.sendOnChannel quiet id target = (network, .error error) := by
  obtain ⟨exchange, hexchange, hboth⟩ := (Option.any_eq_true ..).mp htaken
  exact sendOnChannel_turnedDown hexchange (by simpa using hboth)

namespace Serves

variable (hserves : first.Serves id target past)
include hserves

theorem isUnderWay {exchange : Exchange} (hexchange : first.exchange? target = some exchange) :
    first.isUnderWay exchange = true := by
  obtain ⟨found, hfound, -, hbinding⟩ := hserves.exchange
  obtain rfl := Option.some.inj (hexchange.symm.trans hfound)
  obtain ⟨channel, hchannel, hheld, hreleased, -⟩ := hserves.channel
  simp [Network.isUnderWay, hbinding, isChannelAlive, hchannel, hheld, hreleased]

theorem isBusy : first.isBusy id = true := by
  obtain ⟨channel, hchannel, -, -, hslot, -⟩ := hserves.channel
  exact isBusy_of_some hchannel (Channel.isBusy_of_slot hslot)

theorem not_registered (hsound : Sound first) (key : ConnectionKey) :
    ¬ first.Registered key id := by
  obtain ⟨channel, hchannel, hheld, -⟩ := hserves.channel
  exact not_registered_of_isHeld hsound.coherent hchannel hheld key

theorem carried? (hheld : first.holds target = true) : first.carried? id = some target := by
  obtain ⟨channel, hchannel, -, hreleased, hslot, -⟩ := hserves.channel
  exact carried?_eq_some.mpr ⟨channel, hchannel, hreleased, hslot, hheld⟩

theorem carried_once (hsound : Sound first) {place : ChannelId}
    (hcarried : first.carried? place = some target) : place = id := by
  obtain ⟨exchange, hexchange, hnone, hbinding⟩ := hserves.exchange
  obtain ⟨channel, hchannel, hreleased, hslot, hheld⟩ := carried?_eq_some.mp hcarried
  obtain ⟨found, hfound, hkept⟩ := holds_iff.mp hheld
  obtain rfl := Option.some.inj (hexchange.symm.trans hfound)
  have hwaits : exchange.isResolved = false := by rw [Exchange.isResolved, hnone]; rfl
  have hbound := hsound.coherent.carried hchannel hreleased hslot hexchange hkept hwaits
  exact Option.some.inj (hbound.symm.trans hbinding)

/-- The service goes on while the channel and the exchange are left alone and nothing else is
bound to the channel. -/
theorem of_same (hchannel : second.channel? id = first.channel? id)
    (hexchange : ∀ {before}, first.exchange? target = some before → ∃ after,
      second.exchange? target = some after ∧ after.outcome = before.outcome ∧
        after.binding = before.binding)
    (hother : ∀ {other after}, second.exchange? other = some after → after.binding = some id →
      ∃ before, first.exchange? other = some before ∧ before.binding = some id) :
    second.Serves id target past where
  exchange := by
    obtain ⟨before, hbefore, hnone, hbinding⟩ := hserves.exchange
    obtain ⟨after, hafter, houtcome, hbound⟩ := hexchange hbefore
    exact ⟨after, hafter, houtcome.trans hnone, hbound.trans hbinding⟩
  channel := by
    rw [hchannel]
    exact hserves.channel
  alone := by
    intro other after hafter hbinding
    obtain ⟨before, hbefore, hbound⟩ := hother hafter hbinding
    exact hserves.alone hbefore hbound

end Serves

/-! ## One step -/

/-- What a happening decides is what the exchange gets; where it decides nothing, the service
goes on. -/
structure Furthers (second : Network α) (id : ChannelId) (target : ExchangeId)
    (past : List StreamEvent) (happening : Happening) : Prop where
  decided : ∀ {outcome}, happening.decisionOf? none id target past = some outcome →
    second.outcome? target = some outcome
  undecided : happening.decisionOf? none id target past = none →
    second.Serves id target (past ++ (happening.heard? id).toList)

theorem furthers_of_decision {happening : Happening} {outcome : Outcome}
    (hdecision : happening.decisionOf? none id target past = some outcome)
    (houtcome : second.outcome? target = some outcome) :
    Furthers second id target past happening where
  decided hsame := by rw [houtcome, ← hdecision, hsame]
  undecided hnone := by simp [hdecision] at hnone

theorem furthers_of_serves {happening : Happening}
    (hdecision : happening.decisionOf? none id target past = none)
    (hheard : happening.heard? id = none) (hserves : second.Serves id target past) :
    Furthers second id target past happening where
  decided hsome := by simp [hdecision] at hsome
  undecided _ := by simpa [hheard] using hserves

section OneStep

variable (hsound : Sound first) (hserves : first.Serves id target past)
include hsound hserves

private theorem furthers_event (hheld : first.holds target = true) {place : ChannelId}
    {event : StreamEvent} (hstep : Brings first (.event place event) second) :
    Furthers second id target past (.event place event) := by
  obtain ⟨exchange, hexchange, hnone, hbinding⟩ := hserves.exchange
  obtain ⟨channel, hchannel, hkept, hreleased, hslot, hhead, hbody⟩ := hserves.channel
  by_cases hplace : place = id
  · subst hplace
    have hdecision : (Happening.event place event).decisionOf? none place target past =
        event.verdict? past := if_pos rfl
    rcases event_of_carried hexchange hnone hchannel (hserves.carried? hheld) hhead hbody hstep with
      ⟨outcome, hverdict, houtcome⟩ | ⟨hverdict, rfl, hhead', hbody'⟩
    · exact furthers_of_decision (hdecision.trans hverdict) houtcome
    · obtain ⟨-, -, -, hslot', -, -, hreleased', hhandles'⟩ := channel.absorb_frame event
      refine ⟨fun hsome => by simp [hdecision, hverdict] at hsome, fun _ => ?_⟩
      refine ⟨⟨exchange, hexchange, hnone, hbinding⟩,
        ⟨channel.absorb event, ?_, ?_, ?_, ?_, ?_, ?_⟩, hserves.alone⟩
      · rw [channel?_modifyChannel, if_pos rfl, hchannel, Option.map_some]
      · rw [Channel.isHeld, hhandles']
        exact hkept
      · exact hreleased'.trans hreleased
      · exact hslot'.trans hslot
      · simpa [Happening.heard?] using hhead'
      · simpa [Happening.heard?] using hbody'
  · -- Other channels may do what they like.
    refine furthers_of_serves (if_neg hplace) (if_neg hplace) ?_
    cases hstep with
    | unheard => exact hserves
    | absorbed =>
        refine hserves.of_same ?_ (fun hbefore => ⟨_, hbefore, rfl, rfl⟩) fun hafter hbound =>
          ⟨_, hafter, hbound⟩
        rw [channel?_modifyChannel, if_neg (Ne.symm hplace)]
    | reported _ _ hstops =>
        refine hserves.of_same ?_ ?_ ?_
        · rw [hstops.channel?, if_neg (Ne.symm hplace)]
        · intro before hbefore
          refine ⟨_, hstops.exchange_after hbefore, ?_⟩
          rw [if_neg fun hcarried => hplace (hserves.carried_once hsound hcarried)]
          exact ⟨rfl, rfl⟩
        · intro other after hafter hbound
          rw [hstops.exchange?] at hafter
          obtain ⟨before, hbefore, rfl⟩ := Option.map_eq_some_iff.mp hafter
          refine ⟨before, hbefore, ?_⟩
          split at hbound
          · exact hbound
          · exact hbound

omit hsound in
private theorem furthers_aborted {other : ExchangeId} {error : ExchangeError}
    (hstep : Brings first (.aborted other error) second) :
    Furthers second id target past (.aborted other error) := by
  obtain ⟨exchange, hexchange, hnone, hbinding⟩ := hserves.exchange
  by_cases hother : other = target
  · subst hother
    exact furthers_of_decision (if_pos rfl) (outcome_of_aborted hexchange hnone hbinding hstep)
  · refine furthers_of_serves (if_neg hother) rfl ?_
    cases hstep with
    | decided => exact hserves
    | withdrawn =>
        refine hserves.of_same rfl ?_ ?_
        · intro before hbefore
          refine ⟨before, ?_, rfl, rfl⟩
          rw [exchange?_modifyExchange, if_neg (Ne.symm hother), hbefore]
        · intro found after hafter hbound
          rw [exchange?_modifyExchange] at hafter
          split at hafter
          · obtain ⟨before, -, rfl⟩ := Option.map_eq_some_iff.mp hafter
            cases hbound
          · exact ⟨after, hafter, hbound⟩
    | @cancelled _ _ found place _ hfound _ _ hbound hstops =>
        -- The channel of another exchange is another channel.
        have hne : id ≠ place := by
          rintro rfl
          exact hother (hserves.alone hfound hbound)
        refine hserves.of_same ?_ ?_ ?_
        · rw [hstops.channel?, if_neg hne]
        · intro before hbefore
          refine ⟨_, hstops.exchange_after hbefore, ?_⟩
          rw [if_neg (Ne.symm hother)]
          exact ⟨rfl, rfl⟩
        · intro another after hafter hbound
          rw [hstops.exchange?] at hafter
          obtain ⟨before, hbefore, rfl⟩ := Option.map_eq_some_iff.mp hafter
          split at hbound
          · cases hbound
          · exact ⟨before, hbefore, hbound⟩

private theorem furthers_closed {other : ConnectionKey} {reason : CloseReason}
    (hstep : Brings first (.closed other reason) second) :
    Furthers second id target past (.closed other reason) := by
  refine furthers_of_serves rfl rfl ?_
  cases hstep with
  | @closed _ _ connection _ hconnection _ hcloses =>
      have hunlisted : id ∉ connection.live := by
        intro hlive
        exact hserves.not_registered hsound other ⟨connection, hconnection, hlive⟩
      refine hserves.of_same ?_ ?_ ?_
      · rw [hcloses.channel?, if_neg hunlisted]
      · intro before hbefore
        refine ⟨before, ?_, rfl, rfl⟩
        rw [hcloses.exchange?, if_neg, hbefore]
        intro hmem
        obtain ⟨place, hlive, hcarried⟩ := List.mem_filterMap.mp hmem
        exact hunlisted (hserves.carried_once hsound hcarried ▸ hlive)
      · intro found after hafter hbound
        rw [hcloses.exchange?] at hafter
        split at hafter
        · obtain ⟨before, -, rfl⟩ := Option.map_eq_some_iff.mp hafter
          cases hbound
        · exact ⟨after, hafter, hbound⟩

omit hsound in
private theorem furthers_sent {other : ConnectionKey} {sent : ExchangeId}
    (hstep : Brings first (.sent other sent) second) :
    Furthers second id target past (.sent other sent) := by
  refine furthers_of_serves rfl rfl ?_
  obtain ⟨channel, hchannel, -⟩ := hserves.channel
  cases hstep with
  | undispatched _ hundispatched =>
      refine hserves.of_same ?_ ?_ ?_
      · rw [hundispatched.channel_after hchannel, hchannel]
      · intro before hbefore
        obtain ⟨request, binding, hafter, hsame | ⟨-, hfree⟩⟩ :=
          hundispatched.exchange_after hbefore
        · exact ⟨_, hafter, rfl, hsame⟩
        · simp [hserves.isUnderWay hbefore] at hfree
      · intro another after hafter hbound
        cases hbefore : first.exchange? another with
        | none => simp [hundispatched.spares.newExchange hbefore hafter] at hbound
        | some before =>
            obtain ⟨request, binding, hfound, hsame⟩ := hundispatched.exchange_after hbefore
            obtain rfl := Option.some.inj (hafter.symm.trans hfound)
            refine ⟨before, rfl, ?_⟩
            rcases hsame with hsame | ⟨hnone, -⟩
            · exact hsame.symm.trans hbound
            · simp [hnone] at hbound
  | dispatched _ _ hexchange _ hdispatched =>
      have hne : id ≠ first.nextChannel := by
        rintro rfl
        simp at hchannel
      have hother : sent ≠ target := by
        rintro rfl
        have hfree := hdispatched.free
        simp [hserves.isUnderWay hexchange] at hfree
      refine hserves.of_same ?_ ?_ ?_
      · rw [hdispatched.channel?, if_neg hne]
      · intro before hbefore
        refine ⟨before, ?_, rfl, rfl⟩
        rw [hdispatched.exchange?, if_neg (Ne.symm hother), hbefore]
      · intro another after hafter hbound
        rw [hdispatched.exchange?] at hafter
        split at hafter
        · obtain rfl := Option.some.inj hafter
          exact absurd (Option.some.inj hbound).symm hne
        · exact ⟨after, hafter, hbound⟩

omit hsound in
private theorem furthers_sentOn {place : ChannelId} {sent : ExchangeId} (hplace : place ≠ id)
    (hstep : Brings first (.sentOn place sent) second) :
    Furthers second id target past (.sentOn place sent) := by
  refine furthers_of_serves rfl rfl ?_
  -- What is free to go is another exchange, and it is bound to the other channel or to none.
  have hhandled : ∀ {change binding exchange}, first.exchange? sent = some exchange →
      first.isUnderWay exchange = false → binding ≠ some id →
      Handles first second place sent change binding → second.Serves id target past := by
    intro change binding exchange hexchange hfree hbinding hhandles
    have hother : sent ≠ target := by
      rintro rfl
      simp [hserves.isUnderWay hexchange] at hfree
    refine hserves.of_same ?_ ?_ ?_
    · rw [hhandles.channel?, if_neg (Ne.symm hplace)]
    · intro before hbefore
      refine ⟨before, ?_, rfl, rfl⟩
      rw [hhandles.exchange?, if_neg (Ne.symm hother), hbefore]
    · intro another after hafter hbound
      rw [hhandles.exchange?] at hafter
      split at hafter
      · obtain ⟨before, -, rfl⟩ := Option.map_eq_some_iff.mp hafter
        exact absurd hbound hbinding
      · exact ⟨after, hafter, hbound⟩
  cases hstep with
  | unsent => exact hserves
  | givenUp _ _ hexchange hfree hhandles =>
      refine hhandled hexchange hfree ?_ hhandles
      exact (Option.some_ne_none id).symm
  | sentOn _ _ hexchange _ _ hfree _ hhandles =>
      refine hhandled hexchange hfree ?_ hhandles
      intro hsame
      exact hplace (Option.some.inj hsame)

/-- One operation decides, or the service goes on, if it sends nothing on the channel that is
free to go. -/
private theorem furthers_undergo (hheld : first.holds target = true) (operation : Operation)
    (htaken : ∀ sent, operation = .sendOnChannel id sent → first.isTaken sent = true) :
    Furthers (first.undergo operation) id target past (first.happening operation) := by
  by_cases hnothing : first.happening operation = .nothing
  · have hcalm := Calm.undergo hnothing
    obtain ⟨channel, hchannel, -⟩ := hserves.channel
    obtain ⟨after, hafter, rfl⟩ := (hcalm.channel id).exists_after hchannel
    rw [hnothing]
    refine furthers_of_serves rfl rfl (hserves.of_same (hafter.trans hchannel.symm) ?_ ?_)
    · intro before hbefore
      obtain ⟨later, hlater, hrests⟩ := (hcalm.exchange target).exists_after hbefore
      exact ⟨later, hlater, hrests.outcome, hrests.binding⟩
    · intro other later hlater hbound
      cases hbefore : first.exchange? other with
      | none => simp [((hcalm.exchange other).fresh_of_none hbefore hlater).2] at hbound
      | some before =>
          have hrests := (hcalm.exchange other).change_of_some hbefore hlater
          exact ⟨before, rfl, hrests.binding.symm.trans hbound⟩
  · have hstep := brings_undergo hsound hnothing
    have hoccurs := occurs_happening hnothing
    cases hhappening : first.happening operation with
    | nothing => exact absurd hhappening hnothing
    | event place event => exact furthers_event hsound hserves hheld (hhappening ▸ hstep)
    | sent other sent => exact furthers_sent hserves (hhappening ▸ hstep)
    | aborted other error => exact furthers_aborted hserves (hhappening ▸ hstep)
    | closed other reason => exact furthers_closed hsound hserves (hhappening ▸ hstep)
    | sentOn place sent =>
        by_cases hplace : place = id
        · subst hplace
          rw [hhappening] at hoccurs
          obtain ⟨error, heq⟩ : ∃ error, first.sendOnChannel quiet place sent =
              (first, .error error) := by
            cases hoccurs
            exact sendOnChannel_of_isTaken (htaken sent rfl) place
          rw [undergo_eq_bring hnothing, hhappening, bring, heq]
          exact furthers_of_serves rfl rfl hserves
        · exact furthers_sentOn hserves hplace (hhappening ▸ hstep)

end OneStep

/-! ## Whole runs -/

/-- Where an operation sends on a busy channel, the exchange is resolved or under way. -/
def sparesBusy (network : Network α) (id : ChannelId) : Operation → Bool
  | .sendOnChannel place target => place != id || !network.isBusy id || network.isTaken target
  | _ => true

/-- The same for all operations of a run. -/
def sparesBusyAll (network : Network α) (id : ChannelId) : List Operation → Bool
  | [] => true
  | operation :: rest =>
    network.sparesBusy id operation && (network.undergo operation).sparesBusyAll id rest

theorem isTaken_of_sparesBusy (hspares : network.sparesBusy id (.sendOnChannel id target) = true)
    (hbusy : network.isBusy id = true) : network.isTaken target = true := by
  simpa [sparesBusy, hbusy] using hspares

private theorem sparesBusyAll_append {before after : List Operation}
    (hspares : network.sparesBusyAll id (before ++ after) = true) :
    (network.run before).sparesBusyAll id after = true := by
  induction before generalizing network with
  | nil => exact hspares
  | cons operation before ih => exact ih (Bool.and_eq_true_iff.mp hspares).2

/-- What is served gets the outcome that the first happening decides that can. -/
theorem Serves.outcome_run (hsound : Sound network) (hserves : network.Serves id target past)
    {operations : List Operation} (hspares : network.sparesBusyAll id operations = true)
    (hheld : (network.run operations).holds target = true) :
    (network.run operations).outcome? target =
      firstDecisionOf? none id target past (network.happenings operations) := by
  induction operations generalizing network past with
  | nil =>
      obtain ⟨exchange, hexchange, hnone, -⟩ := hserves.exchange
      rw [run_nil, outcome?, hexchange, Option.bind_some, hnone]
      rfl
  | cons operation rest ih =>
      obtain ⟨hnow, hlater⟩ := Bool.and_eq_true_iff.mp hspares
      have hthere : (network.exchange? target).isSome = true := by
        obtain ⟨exchange, hexchange, -⟩ := hserves.exchange
        rw [hexchange, Option.isSome_some]
      -- Handles are only let go, so who holds the exchange at the end holds it now.
      have hthen : network.holds target = true :=
        (later_run hsound (operation :: rest)).holds_before hthere hheld
      have hnext : Sound (network.undergo operation) := hsound.undergo operation
      have htaken : ∀ sent, operation = .sendOnChannel id sent →
          network.isTaken sent = true := by
        rintro sent rfl
        exact isTaken_of_sparesBusy hnow hserves.isBusy
      have hfurthers := furthers_undergo hsound hserves hthen operation htaken
      rw [run_cons, happenings, firstDecisionOf?]
      split
      next outcome hdecision =>
        exact (later_run hnext rest).outcome_after (hfurthers.decided hdecision)
      next hdecision => exact ih hnext (hfurthers.undecided hdecision) hlater hheld

/-- The events from which a channel would have collected what it has. -/
def heardOn (network : Network α) (id : ChannelId) : List StreamEvent :=
  match network.channel? id with
  | none => []
  | some channel => channel.heard

/-- A send that is accepted: by hand on a channel, or on a connection that makes the channel
for it and lists it. -/
inductive TakesOn (network : Network α) (id : ChannelId) (target : ExchangeId) :
    Operation → Option ConnectionKey → Prop
  | byHand {stream : StreamId} (hfree : (network.channel? id).any Channel.isHeld = true)
      (hheld : network.holds target = true)
      (haccepted : (network.sendOnChannel quiet id target).2 = .ok stream) :
      TakesOn network id target (.sendOnChannel id target) none
  | dispatched {key : ConnectionKey} (hmade : id = network.nextChannel)
      (hheld : network.holds target = true)
      (haccepted : (network.send quiet key target).2 = .ok ()) :
      TakesOn network id target (.send key target) (some key)

section Taking

variable {operation : Operation} {lister : Option ConnectionKey}

private theorem TakesOn.isBusy_eq_false (htakes : network.TakesOn id target operation lister)
    (hspares : network.sparesBusy id operation = true) : network.isBusy id = false := by
  cases htakes with
  | byHand _ _ haccepted =>
      cases hbusy : network.isBusy id with
      | false => rfl
      | true =>
          obtain ⟨error, heq⟩ :=
            sendOnChannel_of_isTaken (isTaken_of_sparesBusy hspares hbusy) id
          rw [heq] at haccepted
          cases haccepted
  | dispatched hmade =>
      rw [isBusy, hmade, channel?_nextChannel]
      rfl

/-- A send by hand makes the channel carry the exchange, which is then alone. -/
theorem serves_of_accepted (hbinds : BindsBusy network) (hidle : network.isBusy id = false)
    (hfree : (network.channel? id).any Channel.isHeld = true)
    (hheld : network.holds target = true) {stream : StreamId}
    (haccepted : (network.sendOnChannel quiet id target).2 = .ok stream) :
    (network.undergo (.sendOnChannel id target)).Serves id target (network.heardOn id) := by
  obtain ⟨channel, hchannel, hkept⟩ := (Option.any_eq_true ..).mp hfree
  obtain ⟨exchange, hexchange, -⟩ := holds_iff.mp hheld
  have hundergo : network.undergo (.sendOnChannel id target) =
      (network.sendOnChannel quiet id target).1 := if_pos (by rw [hfree, hheld]; rfl)
  have hnot : ¬ (exchange.isResolved = true ∨ network.isUnderWay exchange = true) := by
    intro hdown
    obtain ⟨error, heq⟩ : ∃ error, network.sendOnChannel quiet id target =
        (network, .error error) := sendOnChannel_turnedDown hexchange hdown
    rw [heq] at haccepted
    cases haccepted
  obtain ⟨hunresolved, hgoes⟩ := not_or.mp hnot
  have hempty : channel.isBusy = false := by
    rw [isBusy, hchannel] at hidle
    exact hidle
  rw [hundergo]
  rcases sendOnChannel_cases hchannel hexchange (by simpa using hunresolved)
    (by simpa using hgoes) with ⟨error, final, heq, -⟩ | ⟨stream, final, heq, haside, -⟩
  · rw [heq] at haccepted
    cases haccepted
  · rw [heq]
    have hhandles := handles_of_aside haside
    have hafter := hhandles.exchange_after hexchange
    have hcarries := hhandles.channel_after hchannel
    rw [if_pos rfl] at hafter hcarries
    refine ⟨⟨_, hafter, ?_, rfl⟩, ⟨_, hcarries, hkept, ?_, rfl, ?_, ?_⟩, ?_⟩
    · have hnone : exchange.outcome = none := by simpa [Exchange.isResolved] using hunresolved
      exact hnone
    · exact (Bool.or_eq_false_iff.mp hempty).2
    · rw [heardOn, hchannel]
      exact channel.lastHead?_heard.symm
    · rw [heardOn, hchannel]
      exact channel.wholeBody_heard.symm
    · intro other found hfound hbinding
      rw [hhandles.exchange?] at hfound
      split at hfound
      · assumption
      · simp [hbinds hfound hbinding] at hidle

theorem TakesOn.isBusy_undergo (htakes : network.TakesOn id target operation lister)
    (hsound : Sound network) (hbinds : BindsBusy network) (hidle : network.isBusy id = false) :
    (network.undergo operation).isBusy id = true := by
  cases htakes with
  | byHand hfree hheld haccepted =>
      exact (serves_of_accepted hbinds hidle hfree hheld haccepted).isBusy
  | dispatched hmade hheld haccepted =>
      obtain ⟨connection, exchange, stream, -, -, -, hsent⟩ :=
        dispatched_of_accepted hsound hheld haccepted
      obtain ⟨channel, hchannel, hslot, -⟩ := hsent.awaits.channel
      exact isBusy_of_some (hmade ▸ hchannel) (Channel.isBusy_of_slot hslot)

/-- What was taken gets the outcome that the first happening decides that can. -/
theorem TakesOn.outcome_run (htakes : network.TakesOn id target operation lister)
    (hsound : Sound network) (hbinds : BindsBusy network) (hidle : network.isBusy id = false)
    {after : List Operation}
    (hspares : (network.undergo operation).sparesBusyAll id after = true)
    (hheld : ((network.undergo operation).run after).holds target = true) :
    ((network.undergo operation).run after).outcome? target =
      firstDecisionOf? lister id target (network.heardOn id)
        ((network.undergo operation).happenings after) := by
  have hnext : Sound (network.undergo operation) := hsound.undergo operation
  cases htakes with
  | byHand hfree hthen haccepted =>
      exact (serves_of_accepted hbinds hidle hfree hthen haccepted).outcome_run hnext hspares hheld
  | dispatched hmade hthen haccepted =>
      obtain ⟨connection, exchange, stream, -, -, -, hsent⟩ :=
        dispatched_of_accepted hsound hthen haccepted
      have hnew : network.heardOn id = [] := by
        rw [heardOn, hmade, channel?_nextChannel]
      rw [firstDecisionOf?_some, hnew, hmade]
      exact hsent.awaits.outcome_run hnext after hheld

private theorem streamsOpened_sendOnChannel (network : Network α) (id : ChannelId)
    (target : ExchangeId) (place : SessionKey) :
    let after := network.undergo (.sendOnChannel id target)
    after.streamsOpened place ≤ network.streamsOpened place + 1 ∧
      (¬ network.TakesOn id target (.sendOnChannel id target) none →
        after.streamsOpened place = network.streamsOpened place) := by
  intro after
  have hsame : after.trace = network.trace →
      after.streamsOpened place ≤ network.streamsOpened place + 1 ∧
        (¬ network.TakesOn id target (.sendOnChannel id target) none →
          after.streamsOpened place = network.streamsOpened place) := by
    intro htrace
    have hstreams : after.streamsOpened place = network.streamsOpened place := by
      rw [streamsOpened, htrace, streamsOpened]
    exact ⟨by omega, fun _ => hstreams⟩
  by_cases hboth : (network.channel? id).any Channel.isHeld && network.holds target
  · have hundergo : after = (network.sendOnChannel quiet id target).1 := if_pos hboth
    obtain ⟨hfree, hheld⟩ := Bool.and_eq_true_iff.mp hboth
    obtain ⟨channel, hchannel, -⟩ := (Option.any_eq_true ..).mp hfree
    obtain ⟨exchange, hexchange, -⟩ := holds_iff.mp hheld
    by_cases hdown : exchange.isResolved = true ∨ network.isUnderWay exchange = true
    · obtain ⟨error, heq⟩ : ∃ error, network.sendOnChannel quiet id target =
          (network, .error error) := sendOnChannel_turnedDown hexchange hdown
      exact hsame (by rw [hundergo, heq])
    · obtain ⟨hunresolved, hgoes⟩ := not_or.mp hdown
      rcases sendOnChannel_cases hchannel hexchange (by simpa using hunresolved)
        (by simpa using hgoes) with
        ⟨error, final, heq, -, htrace⟩ | ⟨stream, final, heq, -, -, resets, htrace, honly, -⟩
      · exact hsame (by rw [hundergo, heq, htrace])
      · have htakes : network.TakesOn id target (.sendOnChannel id target) none :=
          .byHand hfree hheld (by rw [heq])
        refine ⟨?_, fun hnot => absurd htakes hnot⟩
        have hresets : resets.countP (Notice.opensStream place) = 0 := by
          refine List.countP_eq_zero.mpr ?_
          intro notice hmem
          rw [honly notice hmem]
          exact Bool.false_ne_true
        rw [hundergo, heq, streamsOpened, htrace, List.countP_append, List.countP_cons, hresets,
          streamsOpened]
        split <;> omega
  · have hundergo : after = network := if_neg hboth
    exact hsame (by rw [hundergo])

end Taking

/-! ## One exchange -/

/-- What a send by hand on a channel does: nothing while the channel is busy, and it opens a
stream only if it is accepted. -/
structure OpensIfAccepted (network : Network α) (id : ChannelId) (target : ExchangeId) : Prop where
  busy : network.isBusy id = true →
    ∃ error, network.sendOnChannel quiet id target = (network, .error error)
  atMostOne : ∀ place, (network.undergo (.sendOnChannel id target)).streamsOpened place ≤
    network.streamsOpened place + 1
  none : ¬ network.TakesOn id target (.sendOnChannel id target) none →
    ∀ place, (network.undergo (.sendOnChannel id target)).streamsOpened place =
      network.streamsOpened place

/-- An exchange that an operation put on a channel has the outcome that the first happening
decides that can.  The last event of the channel can, if nothing came before. -/
structure IsSettled (network : Network α) (id : ChannelId) (target : ExchangeId)
    (operation : Operation) (lister : Option ConnectionKey) (after : List Operation) : Prop where
  outcome : ((network.undergo operation).run after).outcome? target =
    firstDecisionOf? lister id target (network.heardOn id)
      ((network.undergo operation).happenings after)
  last : ∀ event, .event id event ∈ (network.undergo operation).happenings after →
    event.isLast = true → ((network.undergo operation).run after).isResolved target = true

/-- In a run a channel serves one exchange: at most one send on it is accepted, no other opens a
stream, and the exchange that was accepted is settled. -/
structure ServesOne (network : Network α) (id : ChannelId) (operations : List Operation) :
    Prop where
  accepted_once : ∀ before operation after target lister before' operation' after' target' lister',
    operations = before ++ operation :: after → operations = before' ++ operation' :: after' →
    (network.run before).TakesOn id target operation lister →
    (network.run before').TakesOn id target' operation' lister' → before = before'
  sends : ∀ before target after, operations = before ++ .sendOnChannel id target :: after →
    (network.run before).OpensIfAccepted id target
  settled : ∀ before operation after target lister, operations = before ++ operation :: after →
    (network.run before).TakesOn id target operation lister →
    (network.run operations).holds target = true →
    (network.run before).IsSettled id target operation lister after

/-- A channel that is spared while it is busy serves one exchange. -/
theorem channel_serves_one_exchange (surroundings : α) (operations : List Operation)
    (id : ChannelId) (hspares : (blank surroundings).sparesBusyAll id operations = true) :
    (blank surroundings).ServesOne id operations := by
  have hsound (before : List Operation) : Sound ((blank surroundings).run before) :=
    (sound_blank surroundings).run before
  have hbinds (before : List Operation) : BindsBusy ((blank surroundings).run before) :=
    BindsBusy.run (bindsBusy_blank surroundings) (sound_blank surroundings) before
  -- At each place of the run the rest of it spares the channel too.
  have hrest {before operation after} (hcut : operations = before ++ operation :: after) :
      ((blank surroundings).run before).sparesBusyAll id (operation :: after) = true := by
    refine sparesBusyAll_append ?_
    rw [← hcut]
    exact hspares
  have hidle {before operation after target lister}
      (hcut : operations = before ++ operation :: after)
      (htakes : ((blank surroundings).run before).TakesOn id target operation lister) :
      ((blank surroundings).run before).isBusy id = false :=
    htakes.isBusy_eq_false (Bool.and_eq_true_iff.mp (hrest hcut)).1
  -- After a send that was accepted the channel is busy, so no later one is.
  have honce {before operation after target lister between operation' after' target' lister'}
      (hcut : operations = before ++ operation :: after)
      (htakes : ((blank surroundings).run before).TakesOn id target operation lister)
      (hcut' : operations = (before ++ operation :: between) ++ operation' :: after')
      (htakes' : ((blank surroundings).run (before ++ operation :: between)).TakesOn id target'
        operation' lister') : False := by
    have hbusy := htakes.isBusy_undergo (hsound before) (hbinds before) (hidle hcut htakes)
    have hstill := isBusy_run ((hsound before).undergo operation) hbusy between
    have hnot := hidle hcut' htakes'
    rw [run_append, run_cons] at hnot
    exact Bool.false_ne_true (hnot.symm.trans hstill)
  refine ⟨?_, ?_, ?_⟩
  · intro before operation after target lister before' operation' after' target' lister'
      hcut hcut' htakes htakes'
    rcases eq_or_before (hcut.symm.trans hcut') with hsame | ⟨between, rfl⟩ | ⟨between, rfl⟩
    · exact hsame
    · exact (honce hcut htakes hcut' htakes').elim
    · exact (honce hcut' htakes' hcut htakes).elim
  · intro before target after hcut
    have hstreams := streamsOpened_sendOnChannel ((blank surroundings).run before) id target
    refine ⟨fun hbusy => ?_, fun place => (hstreams place).1, fun hnot place =>
      (hstreams place).2 hnot⟩
    have hnow := (Bool.and_eq_true_iff.mp (hrest hcut)).1
    exact sendOnChannel_of_isTaken (isTaken_of_sparesBusy hnow hbusy) id
  · intro before operation after target lister hcut htakes hheld
    rw [hcut, run_append, run_cons] at hheld
    have houtcome := htakes.outcome_run (hsound before) (hbinds before) (hidle hcut htakes)
      (Bool.and_eq_true_iff.mp (hrest hcut)).2 hheld
    refine ⟨houtcome, fun event hmem hlast => ?_⟩
    have hdecided : (firstDecisionOf? lister id target
        (((blank surroundings).run before).heardOn id)
        ((((blank surroundings).run before).undergo operation).happenings after)).isSome = true :=
      isSome_firstDecisionOf? hmem hlast
    rw [← houtcome] at hdecided
    obtain ⟨outcome, hsome⟩ := Option.isSome_iff_exists.mp hdecided
    exact isResolved_of_outcome hsome

/-- A run after which there are two exchanges and a channel that was made by hand. -/
def handmadeSteps : List Operation :=
  firstSteps ++
    [.makeExchange ⟨.connect, .absolute .https ⟨"b"⟩ .slash, .http2, ⟨[]⟩, []⟩,
      .makeChannel ⟨1⟩ none ⟨1⟩]

/-- The exchange that was sent is sent again and turned down, and gets the response. -/
theorem channel_serves_one_exchange_twice_sent :
    let head : Http.ResponseHead := ⟨200, ⟨[]⟩⟩
    let after : List Operation :=
      [.hears (.channel ⟨1⟩) (.response head), .sendOnChannel ⟨1⟩ ⟨1⟩,
        .hears (.channel ⟨1⟩) (.data [1] true)]
    let operations := handmadeSteps ++ .sendOnChannel ⟨1⟩ ⟨1⟩ :: after
    (blank ()).sparesBusyAll ⟨1⟩ operations = true ∧
      ((blank ()).run handmadeSteps).TakesOn ⟨1⟩ ⟨1⟩ (.sendOnChannel ⟨1⟩ ⟨1⟩) none ∧
      ((blank ()).run operations).outcome? ⟨1⟩ = some (.ok ⟨head, [1]⟩) := by
  intro head after operations
  have hspares : (blank ()).sparesBusyAll ⟨1⟩ operations = true := by decide
  have htakes : ((blank ()).run handmadeSteps).TakesOn ⟨1⟩ ⟨1⟩ (.sendOnChannel ⟨1⟩ ⟨1⟩) none := by
    have haccepted : (((blank ()).run handmadeSteps).sendOnChannel quiet ⟨1⟩ ⟨1⟩).2 = .ok ⟨1⟩ :=
      rfl
    exact .byHand (by decide) (by decide) haccepted
  have hheld : ((blank ()).run operations).holds ⟨1⟩ = true := by decide
  have hserves := channel_serves_one_exchange () operations ⟨1⟩ hspares
  refine ⟨hspares, htakes, ?_⟩
  show ((blank ()).run (handmadeSteps ++ _ :: after)).outcome? ⟨1⟩ = _
  rw [run_append, run_cons]
  exact (hserves.settled handmadeSteps _ after ⟨1⟩ none rfl htakes hheld).outcome

/-- A second exchange is accepted on a channel that carries the first, and a third once the
channel is released.  Each opens a stream.  The last event of the channel settles the second;
the first is left without an outcome, and so is the third. -/
theorem second_exchange_displaces_the_first :
    let carrying := (blank ()).run (handmadeSteps ++ [.sendOnChannel ⟨1⟩ ⟨1⟩])
    let released := carrying.run
      [.sendOnChannel ⟨1⟩ ⟨2⟩, .hears (.channel ⟨1⟩) (.reset .cancel),
        .makeExchange ⟨.connect, .absolute .https ⟨"c"⟩ .slash, .http2, ⟨[]⟩, []⟩]
    let final := released.run
      [.sendOnChannel ⟨1⟩ ⟨3⟩, .hears (.channel ⟨1⟩) (.reset .cancel)]
    carrying.isBusy ⟨1⟩ = true ∧ (carrying.sendOnChannel quiet ⟨1⟩ ⟨2⟩).2 = .ok ⟨3⟩ ∧
      released.isBusy ⟨1⟩ = true ∧ (released.sendOnChannel quiet ⟨1⟩ ⟨3⟩).2 = .ok ⟨5⟩ ∧
      final.streamsOpened ⟨1⟩ = 3 ∧
      final.outcome? ⟨1⟩ = none ∧ final.outcome? ⟨2⟩ = some (.error (.reset .cancel)) ∧
      final.outcome? ⟨3⟩ = none ∧ final.holds ⟨1⟩ = true ∧ final.holds ⟨3⟩ = true := by
  intro carrying released final
  refine ⟨?_, ?_, ?_, ?_, ?_, ?_, ?_, ?_, ?_, ?_⟩ <;> decide +kernel

end Network

end Multiplex
