import Multiplex.Proofs.Network.Delivery
import Multiplex.Proofs.Network.Teardown

/-!
# How channels end

A channel ends by its last stream event, by an abort of its exchange, or with its
connection.  In the first two cases one channel stops and nothing else does: `Stops` says
so, and that the places where an exchange under way is written down still agree.
-/

namespace Multiplex.Network

variable {α : Type} {first second network : Network α} {id : ChannelId} {channel : Channel}
  {target : ExchangeId} {exchange : Exchange}

/-- In the second network a channel of the first was marked and retired, and exchanges were
changed. -/
structure Stops (first second : Network α) (id : ChannelId)
    (change : ExchangeId → Exchange → Exchange) (mark : Channel → Channel) : Prop where
  exchange? : ∀ other, second.exchange? other = (first.exchange? other).map (change other)
  channel? : ∀ other, second.channel? other =
    if other = id then (first.channel? other).map fun found => (mark found).retire
    else first.channel? other
  connection? : ∀ key, second.connection? key =
    (first.connection? key).map fun found => found.drop id
  session : ∀ key, (second.session? key).map Session.outline =
    (first.session? key).map Session.outline
  pool : ∀ key, (second.pool? key).map Pool.outline = (first.pool? key).map Pool.outline

namespace Stops

variable {change : ExchangeId → Exchange → Exchange} {mark : Channel → Channel}
  (hstops : Stops first second id change mark)
include hstops

theorem exchange_after {target : ExchangeId} {before : Exchange}
    (hbefore : first.exchange? target = some before) :
    second.exchange? target = some (change target before) := by
  rw [hstops.exchange?, hbefore, Option.map_some]

theorem channel_after {other : ChannelId} {before : Channel}
    (hbefore : first.channel? other = some before) :
    second.channel? other = some (if other = id then (mark before).retire else before) := by
  rw [hstops.channel?, hbefore]
  split <;> rfl

theorem connection_after {key : ConnectionKey} {before : Connection}
    (hbefore : first.connection? key = some before) :
    second.connection? key = some (before.drop id) := by
  rw [hstops.connection?, hbefore, Option.map_some]

theorem houses (hhoused : Housed first) : Houses first second where
  connection key := by
    rw [hstops.connection?, Option.map_map]
    rfl
  closed := by
    intro key after hafter hclosed
    rw [hstops.connection?] at hafter
    obtain ⟨before, hbefore, rfl⟩ := Option.map_eq_some_iff.mp hafter
    simp [Connection.drop, hhoused.closed hbefore hclosed]
  session := hstops.session
  pool := hstops.pool

theorem later (hages : ∀ {target before}, first.exchange? target = some before →
      before.Ages (change target before))
    (hmark : ∀ channel : Channel, channel.Ages (mark channel)) : Later first second where
  exchange hbefore := ⟨_, hstops.exchange_after hbefore, hages hbefore⟩
  channel hbefore := by
    refine ⟨_, hstops.channel_after hbefore, ?_⟩
    split
    · exact (hmark _).trans (Channel.ages_retire _)
    · exact .refl _
  connection hbefore := ⟨_, hstops.connection_after hbefore, rfl, rfl, rfl,
    fun hclosed => hclosed⟩
  session := exists_session_after hstops.session

theorem ends (hages : ∀ {target before}, first.exchange? target = some before →
      before.Ages (change target before))
    (hbinding : ∀ {target before}, first.exchange? target = some before →
      (change target before).binding = before.binding ∨
        (change target before).binding = none ∧ (change target before).isResolved = true)
    (hresolved : ∀ {target before key other channel}, first.exchange? target = some before →
      before.isResolved = false → (change target before).isResolved = true →
      first.Registered key other → first.channel? other = some channel →
      channel.exchange = some target → other = id)
    (hsettled : ∀ {target before key channel}, first.exchange? target = some before →
      first.Registered key id → first.channel? id = some channel →
      channel.exchange = some target → before.isHeld = true →
      (change target before).isResolved = true)
    (hmark : ∀ channel : Channel, channel.Ages (mark channel))
    (hslot : ∀ channel : Channel, (mark channel).exchange = channel.exchange)
    (hnamed : ∀ {other channel target}, first.channel? other = some channel →
      channel.exchange = some target → ∃ exchange, first.exchange? target = some exchange) :
    Ends first second (· = id) where
  toLater := hstops.later hages hmark
  newExchange hbefore hafter := by simp [hstops.exchange?, hbefore] at hafter
  newChannel hbefore hafter := by simp [hstops.channel?, hbefore] at hafter
  newConnection hbefore hafter := by simp [hstops.connection?, hbefore] at hafter
  binding hbefore hafter := by
    obtain rfl := Option.some.inj ((hstops.exchange_after hbefore).symm.trans hafter)
    exact (hbinding hbefore).imp (fun hsame => hsame) fun ⟨hnone, hover⟩ => ⟨hnone, .inl hover⟩
  slot hbefore hafter := by
    obtain rfl := Option.some.inj ((hstops.channel_after hbefore).symm.trans hafter)
    split
    · have hretired := fun found => Channel.exchange_retire (mark found)
      simp only [hslot] at hretired
      exact hretired _
    · exact .inl rfl
  live hbefore hafter := by
    obtain rfl := Option.some.inj ((hstops.connection_after hbefore).symm.trans hafter)
    refine ⟨List.filter_sublist, fun other hmem => ?_⟩
    simp [hmem]
  kept _ hnot hbefore hafter := by
    obtain rfl := Option.some.inj ((hstops.channel_after hbefore).symm.trans hafter)
    rw [if_neg hnot]
    exact ⟨rfl, rfl, rfl⟩
  resolved hbefore hafter hunresolved hover hregistered hchannel hcarries := by
    obtain rfl := Option.some.inj ((hstops.exchange_after hbefore).symm.trans hafter)
    exact hresolved hbefore hunresolved hover hregistered hchannel hcarries
  settled := by
    rintro target after key other channel hafter hregistered hchannel hcarries rfl hheld
    obtain ⟨before, hbefore⟩ := hnamed hchannel hcarries
    obtain rfl := Option.some.inj ((hstops.exchange_after hbefore).symm.trans hafter)
    exact hsettled hbefore hregistered hchannel hcarries ((hages hbefore).held hheld)

end Stops

/-! ## Ending by an event -/

section Event

variable {event : StreamEvent} {outcome : Outcome}

/-- The last event of a channel stops it, and its exchange gets the outcome. -/
theorem stops_of_last (hhome : network.AtHome id) (hchannel : network.channel? id = some channel)
    (hverdict : channel.verdict? event = some outcome) :
    Stops network (network.channelHears quiet id event) id
      (fun target found => if network.carried? id = some target then found.resolve outcome
        else found) (Channel.absorb event) := by
  let absorbed := network.modifyChannel id (Channel.absorb event)
  obtain ⟨hchannels, hconnections, hsessions, hpools, -, -, -⟩ :=
    absorbed.resolveCarried_frame id outcome
  have hretires := retires_releaseChannel (hhome.absorb event outcome) none
  rw [channelHears_of_last hchannel hverdict]
  exact
    { exchange? := fun other => by
        rw [hretires.exchange?, exchange?_resolveCarried, carried?_absorb]
        split
        next => rfl
        next => simp
      channel? := fun other => by
        simp only [hretires.channel?, hchannels, absorbed, channel?_modifyChannel]
        split
        next => rw [Option.map_map]; rfl
        next => rfl
      connection? := fun key => by
        rw [hretires.connection?, hconnections]
        rfl
      session := fun key => by
        rw [hretires.session, hsessions]
        rfl
      pool := fun key => by
        rw [hretires.pool, hpools]
        rfl }

end Event

/-! ## Ending by an abort -/

section Abort

variable {error : ExchangeError}

/-- Aborting an exchange under way stops the channel that it is bound to. -/
theorem stops_of_abort (hhome : network.AtHome id)
    (hexchange : network.exchange? target = some exchange)
    (hunresolved : exchange.isResolved = false) (hbinding : exchange.binding = some id)
    (halive : network.isChannelAlive id = true) :
    Stops network (network.abort quiet target error).1 id
      (fun other found => if other = target then found.settle (.error error) else found)
      Channel.cancel := by
  have hretires : Retires ((network.modifyExchange target fun found =>
      found.settle (.error error)).modifyChannel id Channel.cancel)
      ((network.modifyExchange target fun found =>
        found.settle (.error error)).cancelChannel quiet id) id :=
    retires_cancelChannel hhome
  rw [abort_of_unresolved hexchange hunresolved]
  simp only [hbinding, halive, if_true]
  exact
    { exchange? := fun other => by
        rw [hretires.exchange?]
        simp only [modifyChannel_frame, exchange?_modifyExchange]
        split
        next => rfl
        next => simp
      channel? := fun other => by
        simp only [hretires.channel?, channel?_modifyChannel, modifyExchange_frame]
        split
        next => rw [Option.map_map]; rfl
        next => rfl
      connection? := hretires.connection?
      session := hretires.session
      pool := hretires.pool }

end Abort

/-! ## Agreement after an event -/

section Events

variable {event : StreamEvent} {outcome : Outcome}

/-- Taking in an event that is not the last spares everything. -/
theorem spares_absorb (network : Network α) (id : ChannelId) (event : StreamEvent) :
    Spares network (network.modifyChannel id (Channel.absorb event)) where
  exchange hbefore := ⟨_, hbefore, .refl _⟩
  channel := by
    intro other before hbefore
    rw [channel?_modifyChannel, hbefore]
    split
    · obtain ⟨hconnection, howner, hsession, -, hstream, -, hreleased, hhandles⟩ :=
        before.absorb_frame event
      exact ⟨_, rfl, hconnection, howner, hsession, hhandles, fun _ => hstream,
        fun hover => hreleased.trans hover⟩
    · exact ⟨before, rfl, .refl before⟩
  connection hbefore := ⟨_, hbefore, .refl _⟩
  session hbefore := ⟨_, hbefore, fun hclosed => hclosed⟩
  newExchange hbefore hafter := by
    simp only [modifyChannel_frame, hbefore] at hafter
    exact absurd hafter (by simp)
  newChannel hbefore hafter := by simp [channel?_modifyChannel, hbefore] at hafter
  connection? := rfl
  binding hbefore hafter := by
    simp only [modifyChannel_frame, hbefore, Option.some.injEq] at hafter
    exact .inl (congrArg Exchange.binding hafter.symm)
  slot := by
    intro other before after hbefore hafter
    rw [channel?_modifyChannel, hbefore] at hafter
    split at hafter
    · obtain rfl := Option.some.inj hafter
      exact .inl (before.absorb_frame event).2.2.2.1
    · obtain rfl := Option.some.inj hafter
      exact .inl rfl
  kept := by
    intro key other before after _ hbefore hafter
    rw [channel?_modifyChannel, hbefore] at hafter
    split at hafter
    · obtain rfl := Option.some.inj hafter
      obtain ⟨-, -, -, hslot, -, hcancelled, hreleased, -⟩ := before.absorb_frame event
      exact ⟨hreleased, hcancelled, hslot⟩
    · obtain rfl := Option.some.inj hafter
      exact ⟨rfl, rfl, rfl⟩
  waits hbefore hafter hunresolved _ _ _ := by
    simp only [modifyChannel_frame, hbefore, Option.some.injEq] at hafter
    rw [← hafter, hunresolved]

theorem ends_of_last (hsound : Sound network) (hchannel : network.channel? id = some channel)
    (hverdict : channel.verdict? event = some outcome) :
    Ends network (network.channelHears quiet id event) (· = id) := by
  refine (stops_of_last (hsound.atHome id) hchannel hverdict).ends ?_ ?_ ?_ ?_ ?_ ?_
    hsound.coherent.named
  · intro target before _
    split
    · exact Exchange.ages_resolve _ _
    · exact .refl _
  · intro target before _
    left
    split <;> rfl
  · intro target before key other found _ hunresolved hresolved hregistered hfound hslot
    split at hresolved
    -- Only what the channel carries is resolved, and no other channel carries it.
    next hcarried => exact hsound.coherent.carried_once hcarried hregistered hfound hslot
    next => simp [hunresolved] at hresolved
  · intro target before key found hbefore hregistered hfound hslot hheld
    rw [if_pos]
    · exact Exchange.isResolved_resolve _ _
    · obtain ⟨_, _, -, hworks⟩ := hsound.coherent.works_of_registered hregistered hfound
      exact Coherent.carried?_of_slot hfound hworks.released hslot hbefore hheld
  · intro found
    obtain ⟨hconnection, howner, hsession, -, hstream, -, hreleased, hhandles⟩ :=
      found.absorb_frame event
    exact ⟨hconnection, howner, hsession, hhandles, fun _ => hstream,
      fun hover => hreleased.trans hover⟩
  · exact fun found => (found.absorb_frame event).2.2.2.1

end Events

/-! ## Agreement after an abort -/

section Aborts

variable {error : ExchangeError}

/-- Aborting an exchange that is bound ends the channel. -/
theorem ends_of_abort (hsound : Sound network)
    (hexchange : network.exchange? target = some exchange) (hheld : exchange.isHeld = true)
    (hunresolved : exchange.isResolved = false) (hbinding : exchange.binding = some id) :
    Ends network (network.abort quiet target error).1 (· = id) := by
  have hstops : Stops network (network.abort quiet target error).1 id
      (fun other found => if other = target then found.settle (.error error) else found)
      Channel.cancel :=
    stops_of_abort (hsound.atHome id) hexchange hunresolved hbinding
      (hsound.isChannelAlive hexchange hheld hunresolved hbinding)
  refine hstops.ends ?_ ?_ ?_ ?_ Channel.ages_cancel (fun _ => rfl) hsound.coherent.named
  · intro other before _
    split
    · exact Exchange.ages_settle _ _
    · exact .refl _
  · intro other before _
    split
    · exact .inr ⟨rfl, Exchange.isResolved_settle _ _⟩
    · exact .inl rfl
  · intro other before key found channel _ hwaits hresolved hregistered hfound hslot
    split at hresolved
    next heq =>
      obtain ⟨-, hbound⟩ := hsound.coherent.waits_of_registered hregistered hfound (heq ▸ hslot)
        hexchange hheld
      exact Option.some.inj (hbound.symm.trans hbinding)
    next => simp [hwaits] at hresolved
  · intro other before key found _ hregistered hfound hslot _
    -- The channel that ends is the binding of the exchange, so it carries no other.
    obtain ⟨same, hsame, hcarries⟩ := hsound.coherent.bound hexchange hbinding
    obtain rfl := Option.some.inj (hfound.symm.trans hsame)
    have heq : other = target := Option.some.inj (hslot.symm.trans (hcarries ⟨key, hregistered⟩))
    rw [if_pos heq]
    exact Exchange.isResolved_settle _ _

/-- Aborting an exchange that is not bound spares everything at work. -/
theorem spares_settle (hsound : Sound network)
    (hexchange : network.exchange? target = some exchange) (hheld : exchange.isHeld = true)
    (hbinding : exchange.binding = none) (outcome : Outcome) :
    Spares network (network.modifyExchange target fun found => found.settle outcome) where
  exchange := by
    intro other before hbefore
    rw [exchange?_modifyExchange, hbefore]
    split
    · exact ⟨_, rfl, Exchange.ages_settle _ _⟩
    · exact ⟨before, rfl, .refl before⟩
  channel hbefore := ⟨_, hbefore, .refl _⟩
  connection hbefore := ⟨_, hbefore, .refl _⟩
  session hbefore := ⟨_, hbefore, fun hclosed => hclosed⟩
  newExchange hbefore hafter := by simp [exchange?_modifyExchange, hbefore] at hafter
  newChannel hbefore hafter := by
    simp only [modifyExchange_frame, hbefore] at hafter
    exact absurd hafter (by simp)
  connection? := rfl
  binding := by
    intro other before after hbefore hafter
    rw [exchange?_modifyExchange, hbefore] at hafter
    split at hafter
    · obtain rfl := Option.some.inj hafter
      exact .inr ⟨rfl, .inl (Exchange.isResolved_settle _ _)⟩
    · exact .inl (congrArg Exchange.binding (Option.some.inj hafter).symm)
  slot hbefore hafter := by
    simp only [modifyExchange_frame, hbefore, Option.some.injEq] at hafter
    exact .inl (congrArg Channel.exchange hafter.symm)
  kept _ hbefore hafter := by
    simp only [modifyExchange_frame, hbefore, Option.some.injEq] at hafter
    subst hafter
    exact ⟨rfl, rfl, rfl⟩
  waits := by
    intro other before after key id channel hbefore hafter hwaits hregistered hchannel hslot
    rw [exchange?_modifyExchange, hbefore] at hafter
    split at hafter
    next heq =>
      -- A listed channel that carried the exchange would be its binding.
      obtain ⟨-, hbound⟩ := hsound.coherent.waits_of_registered hregistered hchannel (heq ▸ hslot)
        hexchange hheld
      simp [hbinding] at hbound
    next => rw [← Option.some.inj hafter, hwaits]

end Aborts

end Multiplex.Network
