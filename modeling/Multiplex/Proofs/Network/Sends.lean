import Multiplex.Proofs.Network.Coherence

/-!
# How exchanges are sent

A send that succeeds makes a channel carry the exchange; one that fails ends nothing.  This
is so whether the channel is new and a connection lists it, or somebody made the channel by
hand.  Either way the places where an exchange under way is written down still agree.
-/

namespace Multiplex.Network

variable {α : Type} {first second network : Network α} {id : ChannelId} {channel : Channel}
  {target : ExchangeId} {exchange : Exchange}

/-! ## Dispatches -/

section Dispatches

variable {key : ConnectionKey} {connection : Connection} {stream : StreamId}

/-- What an exchange looks like after a send that failed. -/
theorem Undispatched.exchange_after (hundispatched : Undispatched first second target)
    {other : ExchangeId} {before : Exchange} (hbefore : first.exchange? other = some before) :
    ∃ request binding, second.exchange? other = some { before with request, binding } ∧
      (binding = before.binding ∨ binding = none ∧ first.isUnderWay before = false) := by
  rcases hundispatched.exchange other with hsame |
    ⟨rfl, found, request, binding, hfound, hafter, hbinding⟩
  · exact ⟨before.request, before.binding, hsame.trans hbefore, .inl rfl⟩
  · obtain rfl := Option.some.inj (hbefore.symm.trans hfound)
    exact ⟨request, binding, hafter, hbinding⟩

/-- The channels that there were are as they were after a send that failed. -/
theorem Undispatched.channel_after (hundispatched : Undispatched first second target)
    {other : ChannelId} {before : Channel} (hbefore : first.channel? other = some before) :
    second.channel? other = some before := by
  rcases hundispatched.channel other with hsame | ⟨rfl, -⟩
  · exact hsame.trans hbefore
  · simp at hbefore

/-- A send that fails spares everything at work. -/
theorem Undispatched.spares (hundispatched : Undispatched first second target) :
    Spares first second where
  exchange hbefore := by
    obtain ⟨request, binding, hafter, -⟩ := hundispatched.exchange_after hbefore
    exact ⟨_, hafter, fun hheld => hheld, fun _ => rfl⟩
  channel hbefore := ⟨_, hundispatched.channel_after hbefore, .refl _⟩
  connection hbefore := ⟨_, by rw [hundispatched.connection?, hbefore], .refl _⟩
  session := exists_session_after hundispatched.session
  newExchange := by
    intro other after hbefore hafter
    rcases hundispatched.exchange other with hsame | ⟨rfl, found, -, -, hfound, -⟩
    · simp [hsame, hbefore] at hafter
    · simp [hbefore] at hfound
  newChannel := by
    intro other after hbefore hafter
    rcases hundispatched.channel other with hsame | ⟨rfl, found, hfound, -, hslot, -⟩
    · simp [hsame, hbefore] at hafter
    · obtain rfl := Option.some.inj (hafter.symm.trans hfound)
      exact hslot
  connection? := hundispatched.connection?
  binding hbefore hafter := by
    obtain ⟨request, binding, hfound, hbinding⟩ := hundispatched.exchange_after hbefore
    obtain rfl := Option.some.inj (hafter.symm.trans hfound)
    exact hbinding.imp (fun hsame => hsame) fun ⟨hnone, hfree⟩ => ⟨hnone, .inr hfree⟩
  slot hbefore hafter := by
    obtain rfl := Option.some.inj ((hundispatched.channel_after hbefore).symm.trans hafter)
    exact .inl rfl
  kept _ hbefore hafter := by
    obtain rfl := Option.some.inj ((hundispatched.channel_after hbefore).symm.trans hafter)
    exact ⟨rfl, rfl, rfl⟩
  waits hbefore hafter hunresolved _ _ _ := by
    obtain ⟨request, binding, hfound, -⟩ := hundispatched.exchange_after hbefore
    obtain rfl := Option.some.inj (hafter.symm.trans hfound)
    exact hunresolved

theorem Undispatched.houses (hundispatched : Undispatched first second target)
    (hhoused : Housed first) : Houses first second where
  connection key := by rw [hundispatched.connection?]
  closed := by
    rw [hundispatched.connection?]
    exact hhoused.closed
  session := hundispatched.session
  pool := hundispatched.pool

section Dispatched

variable (hdispatched : Dispatched first second key connection target exchange stream)
  (hconnection : first.connection? key = some connection)
  (hexchange : first.exchange? target = some exchange)
include hdispatched

theorem Dispatched.houses (hconnection : first.connection? key = some connection)
    (hhoused : Housed first) : Houses first second where
  connection other := by
    rw [hdispatched.connection?]
    split
    next heq =>
      rw [heq, hconnection]
      rfl
    next => rfl
  closed := by
    intro other after hafter hclosed
    rw [hdispatched.connection?] at hafter
    split at hafter
    next =>
      obtain rfl := Option.some.inj hafter
      have hopen : (connection.register first.nextChannel).isClosed = false := hdispatched.opened
      rw [hopen] at hclosed
      exact absurd hclosed Bool.false_ne_true
    next => exact hhoused.closed hafter hclosed
  session := hdispatched.session
  pool := hdispatched.pool

include hconnection hexchange

theorem Dispatched.later : Later first second where
  exchange := by
    intro other before hbefore
    rw [hdispatched.exchange?]
    split
    next heq =>
      obtain rfl := Option.some.inj (hexchange.symm.trans (heq ▸ hbefore))
      exact ⟨_, rfl, fun hheld => hheld, fun _ => rfl⟩
    next => exact ⟨before, hbefore, .refl before⟩
  channel := by
    intro other before hbefore
    refine ⟨before, ?_, .refl before⟩
    rw [hdispatched.channel?, if_neg, hbefore]
    intro heq
    simp [heq] at hbefore
  connection := by
    intro other before hbefore
    rw [hdispatched.connection?]
    split
    next heq =>
      obtain rfl := Option.some.inj (hconnection.symm.trans (heq ▸ hbefore))
      exact ⟨_, rfl, rfl, rfl, rfl, fun hclosed => hclosed⟩
    next => exact ⟨before, hbefore, .refl before⟩
  session := exists_session_after hdispatched.session

omit hconnection hexchange in
theorem Dispatched.registered : second.Registered key first.nextChannel := by
  refine ⟨connection.register first.nextChannel, ?_, ?_⟩
  · rw [hdispatched.connection?, if_pos rfl]
  · simp [Connection.register]

/-- A dispatch makes the new channel carry the exchange. -/
theorem Dispatched.carries (hcoherent : Coherent first) (hheld : exchange.isHeld = true) :
    Coherent.Carries first second target exchange first.nextChannel
      (carrier connection key target stream) where
  before := hexchange
  held := hheld
  unresolved := hdispatched.unresolved
  free := hdispatched.free
  after := ⟨_, (hdispatched.exchange? target).trans (if_pos rfl), rfl, hheld,
    hdispatched.unresolved⟩
  exchange? other hne := by rw [hdispatched.exchange?, if_neg hne]
  slot := by
    rw [hdispatched.channel?, if_pos rfl]
    exact ⟨rfl, rfl⟩
  channel? other hne := by rw [hdispatched.channel?, if_neg hne]
  connection := by
    intro other after hafter
    rw [hdispatched.connection?] at hafter
    split at hafter
    next heq =>
      obtain rfl := Option.some.inj hafter
      exact ⟨connection, heq ▸ hconnection, rfl,
        .inr ⟨rfl, heq ▸ rfl, rfl, rfl, rfl, rfl, rfl, rfl⟩⟩
    next => exact ⟨after, hafter, rfl, .inl rfl⟩
  listed hregistered := hcoherent.ne_nextChannel hregistered rfl
  home := .inl ⟨channel?_nextChannel first, key, hdispatched.registered⟩
  kept := by
    rintro other id ⟨found, hfound, hlive⟩
    by_cases heq : other = key
    · obtain rfl := Option.some.inj (hconnection.symm.trans (heq ▸ hfound))
      refine ⟨connection.register first.nextChannel, ?_, List.mem_append_left _ hlive⟩
      rw [hdispatched.connection?, if_pos heq]
    · exact ⟨found, by rw [hdispatched.connection?, if_neg heq, hfound], hlive⟩

end Dispatched

end Dispatches

/-! ## Sends by hand -/

section ByHand

variable {stream : StreamId}

/-- A channel that somebody holds is listed nowhere. -/
theorem not_registered_of_isHeld (hcoherent : Coherent network)
    (hchannel : network.channel? id = some channel) (hheld : channel.isHeld = true)
    (key : ConnectionKey) : ¬ network.Registered key id := by
  intro hregistered
  obtain ⟨_, _, -, hworks⟩ := hcoherent.works_of_registered hregistered hchannel
  simp [hworks.free] at hheld

/-- What a send by hand does is that it changes its channel and binds its exchange. -/
structure Handles (first second : Network α) (id : ChannelId) (target : ExchangeId)
    (change : Channel → Channel) (binding : Option ChannelId) : Prop where
  exchange? : ∀ other, second.exchange? other =
    if other = target then (first.exchange? other).map (Exchange.rebind binding)
    else first.exchange? other
  channel? : ∀ other, second.channel? other =
    if other = id then (first.channel? other).map change else first.channel? other
  connection? : second.connection? = first.connection?
  session : ∀ key, (second.session? key).map Session.outline =
    (first.session? key).map Session.outline
  pool : ∀ key, (second.pool? key).map Pool.outline = (first.pool? key).map Pool.outline

variable {change : Channel → Channel} {binding : Option ChannelId}

theorem handles_of_aside
    (haside : Aside ((network.modifyChannel id change).modifyExchange target
      (Exchange.rebind binding)) second) : Handles network second id target change binding where
  exchange? other := by simp only [haside.exchange?, exchange?_modifyExchange, modifyChannel_frame]
  channel? other := by simp only [haside.channel?, modifyExchange_frame, channel?_modifyChannel]
  connection? := haside.connection?
  session := haside.session
  pool := haside.pool

namespace Handles

variable (hhandles : Handles first second id target change binding)
include hhandles

theorem houses (hhoused : Housed first) : Houses first second where
  connection key := by rw [hhandles.connection?]
  closed := by
    rw [hhandles.connection?]
    exact hhoused.closed
  session := hhandles.session
  pool := hhandles.pool

theorem exchange_after {other : ExchangeId} {before : Exchange}
    (hbefore : first.exchange? other = some before) :
    second.exchange? other = some (if other = target then before.rebind binding else before) := by
  rw [hhandles.exchange?, hbefore]
  split <;> rfl

theorem channel_after {other : ChannelId} {before : Channel}
    (hbefore : first.channel? other = some before) :
    second.channel? other = some (if other = id then change before else before) := by
  rw [hhandles.channel?, hbefore]
  split <;> rfl

theorem later (hchange : ∀ before, first.channel? id = some before → before.Ages (change before)) :
    Later first second where
  exchange hbefore := by
    refine ⟨_, hhandles.exchange_after hbefore, ?_⟩
    split
    · exact ⟨fun hheld => hheld, fun _ => rfl⟩
    · exact .refl _
  channel hbefore := by
    refine ⟨_, hhandles.channel_after hbefore, ?_⟩
    split
    next heq => exact hchange _ (heq ▸ hbefore)
    next => exact .refl _
  connection hbefore := ⟨_, by rw [hhandles.connection?, hbefore], .refl _⟩
  session := exists_session_after hhandles.session

end Handles

/-- Giving up a channel that somebody holds spares everything that is listed. -/
theorem Handles.spares (hhandles : Handles first second id target Channel.giveUp none)
    (hcoherent : Coherent first) (hchannel : first.channel? id = some channel)
    (hheld : channel.isHeld = true) (hexchange : first.exchange? target = some exchange)
    (hfree : first.isUnderWay exchange = false) : Spares first second where
  toLater := hhandles.later fun before _ => ⟨rfl, rfl, rfl, rfl, fun _ => rfl, fun _ => rfl⟩
  newExchange hbefore hafter := by simp [hhandles.exchange?, hbefore] at hafter
  newChannel hbefore hafter := by simp [hhandles.channel?, hbefore] at hafter
  connection? := hhandles.connection?
  binding hbefore hafter := by
    obtain rfl := Option.some.inj ((hhandles.exchange_after hbefore).symm.trans hafter)
    split
    next heq =>
      obtain rfl := Option.some.inj (hexchange.symm.trans (heq ▸ hbefore))
      exact .inr ⟨rfl, .inr hfree⟩
    next => exact .inl rfl
  slot hbefore hafter := by
    obtain rfl := Option.some.inj ((hhandles.channel_after hbefore).symm.trans hafter)
    split
    · exact .inr rfl
    · exact .inl rfl
  kept := by
    intro key other before after hregistered hbefore hafter
    obtain rfl := Option.some.inj ((hhandles.channel_after hbefore).symm.trans hafter)
    rw [if_neg]
    · exact ⟨rfl, rfl, rfl⟩
    · -- The channel that is given up is held, so it is not a listed one.
      rintro rfl
      exact not_registered_of_isHeld hcoherent hchannel hheld key hregistered
  waits hbefore hafter hunresolved _ _ _ := by
    obtain rfl := Option.some.inj ((hhandles.exchange_after hbefore).symm.trans hafter)
    split
    · exact hunresolved
    · exact hunresolved

/-- A channel that somebody holds may carry another exchange. -/
theorem Handles.carries {stream : StreamId}
    (hhandles : Handles first second id target (Channel.carry target stream) (some id))
    (hcoherent : Coherent first) (hchannel : first.channel? id = some channel)
    (hheld : channel.isHeld = true) (hexchange : first.exchange? target = some exchange)
    (hkept : exchange.isHeld = true) (hunresolved : exchange.isResolved = false)
    (hfree : first.isUnderWay exchange = false) :
    Coherent.Carries first second target exchange id (channel.carry target stream) where
  before := hexchange
  held := hkept
  unresolved := hunresolved
  free := hfree
  after := by
    have hafter := hhandles.exchange_after hexchange
    rw [if_pos rfl] at hafter
    exact ⟨_, hafter, rfl, hkept, hunresolved⟩
  exchange? other hne := by rw [hhandles.exchange?, if_neg hne]
  slot := by
    have hafter := hhandles.channel_after hchannel
    rw [if_pos rfl] at hafter
    exact ⟨hafter, rfl⟩
  channel? other hne := by rw [hhandles.channel?, if_neg hne]
  connection hafter := by
    rw [hhandles.connection?] at hafter
    exact ⟨_, hafter, rfl, .inl rfl⟩
  listed hregistered := not_registered_of_isHeld hcoherent hchannel hheld _ hregistered
  home := by
    refine .inr ⟨hheld, fun key hregistered => ?_⟩
    obtain ⟨found, hfound, hlive⟩ := hregistered
    rw [hhandles.connection?] at hfound
    exact not_registered_of_isHeld hcoherent hchannel hheld key ⟨found, hfound, hlive⟩
  kept hregistered := by
    obtain ⟨found, hfound, hlive⟩ := hregistered
    exact ⟨found, by rwa [hhandles.connection?], hlive⟩

end ByHand

end Multiplex.Network
