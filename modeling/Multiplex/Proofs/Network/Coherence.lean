import Multiplex.Proofs.Network.Dispatch
import Multiplex.Proofs.Network.Handles

/-!
# Coherence

That an exchange is under way is written down in four places: it has no outcome, it is
bound to a channel, the channel carries it and is not released, and the connection lists
the channel.  `Coherent` says how these agree between operations.

An operation that does not dispatch anything ends some channels, possibly none.  `Ends`
says what such an operation may do to the four places, and `Coherent.of_ends` that they
still agree afterwards.
-/

namespace Multiplex

/-! ## Growing older -/

/-- What time does to an exchange: it is dropped, and it keeps its outcome. -/
structure Exchange.Ages (before after : Exchange) : Prop where
  held : after.isHeld = true → before.isHeld = true
  outcome : before.isResolved = true → after.outcome = before.outcome

/-- What time does to a channel: it stays released, and it keeps its stream unless
somebody holds it and sends on it again. -/
structure Channel.Ages (before after : Channel) : Prop where
  connection : after.connection = before.connection
  owner : after.owner = before.owner
  session : after.session = before.session
  handles : after.handles = before.handles
  stream : before.isHeld = false → after.stream = before.stream
  released : before.released = true → after.released = true

/-- What time does to a connection: it stays closed. -/
structure Connection.Ages (before after : Connection) : Prop where
  id : after.id = before.id
  session : after.session = before.session
  limit : after.limit = before.limit
  closed : before.isClosed = true → after.isClosed = true

namespace Exchange

theorem Ages.refl (exchange : Exchange) : exchange.Ages exchange := ⟨id, fun _ => rfl⟩

theorem Ages.trans {first second third : Exchange} (hleft : first.Ages second)
    (hright : second.Ages third) : first.Ages third where
  held hheld := hleft.held (hright.held hheld)
  outcome hresolved := by
    have hkept : second.outcome = first.outcome := hleft.outcome hresolved
    have hsecond : second.isResolved = true := by rwa [isResolved, hkept]
    rw [hright.outcome hsecond, hkept]

theorem ages_resolve (exchange : Exchange) (outcome : Outcome) :
    exchange.Ages (exchange.resolve outcome) where
  held := id
  outcome hresolved := by rw [resolve_of_isResolved hresolved]

theorem ages_settle (exchange : Exchange) (outcome : Outcome) :
    exchange.Ages (exchange.settle outcome) :=
  ⟨id, (exchange.ages_resolve outcome).outcome⟩

@[simp] theorem isResolved_settle (exchange : Exchange) (outcome : Outcome) :
    (exchange.settle outcome).isResolved = true :=
  exchange.isResolved_resolve outcome

end Exchange

namespace Channel

theorem Ages.refl (channel : Channel) : channel.Ages channel :=
  ⟨rfl, rfl, rfl, rfl, fun _ => rfl, id⟩

theorem Ages.trans {first second third : Channel} (hleft : first.Ages second)
    (hright : second.Ages third) : first.Ages third where
  connection := hright.connection.trans hleft.connection
  owner := hright.owner.trans hleft.owner
  session := hright.session.trans hleft.session
  handles := hright.handles.trans hleft.handles
  stream hfree := by
    have hsecond : second.isHeld = false := by rwa [isHeld, hleft.handles]
    rw [hright.stream hsecond, hleft.stream hfree]
  released hreleased := hright.released (hleft.released hreleased)

theorem ages_retire (channel : Channel) : channel.Ages channel.retire := by
  unfold retire
  split
  · exact .refl channel
  · exact ⟨rfl, rfl, rfl, rfl, fun _ => rfl, fun _ => rfl⟩

theorem ages_cancel (channel : Channel) : channel.Ages channel.cancel :=
  ⟨rfl, rfl, rfl, rfl, fun _ => rfl, id⟩

/-- A channel that was retired carries nothing, or what it carried before. -/
theorem exchange_retire (channel : Channel) :
    channel.retire.exchange = channel.exchange ∨ channel.retire.exchange = none := by
  unfold retire
  split
  · exact .inl rfl
  · exact .inr rfl

end Channel

namespace Connection

theorem Ages.refl (connection : Connection) : connection.Ages connection :=
  ⟨rfl, rfl, rfl, fun hclosed => hclosed⟩

theorem Ages.trans {first second third : Connection} (hleft : first.Ages second)
    (hright : second.Ages third) : first.Ages third :=
  ⟨hright.id.trans hleft.id, hright.session.trans hleft.session,
    hright.limit.trans hleft.limit, fun hclosed => hright.closed (hleft.closed hclosed)⟩

end Connection

/-- A channel that is at work for a connection and carries an exchange. -/
structure Channel.Works (channel : Channel) (key : ConnectionKey) (connection : Connection)
    (target : ExchangeId) : Prop where
  owner : channel.owner = some key
  session : channel.session = connection.session
  exchange : channel.exchange = some target
  stream : channel.stream.isSome = true
  released : channel.released = false
  cancelled : channel.cancelled = false
  free : channel.isHeld = false

namespace Network

variable {α : Type} {first second third : Network α}

/-- The second network is what time may make of the first. -/
structure Later (first second : Network α) : Prop where
  exchange : ∀ {id before}, first.exchange? id = some before →
    ∃ after, second.exchange? id = some after ∧ before.Ages after
  channel : ∀ {id before}, first.channel? id = some before →
    ∃ after, second.channel? id = some after ∧ before.Ages after
  connection : ∀ {key before}, first.connection? key = some before →
    ∃ after, second.connection? key = some after ∧ before.Ages after
  session : ∀ {key before}, first.session? key = some before →
    ∃ after, second.session? key = some after ∧
      (before.transport.isClosed = true → after.transport.isClosed = true)

namespace Later

theorem refl (network : Network α) : Later network network where
  exchange hfound := ⟨_, hfound, .refl _⟩
  channel hfound := ⟨_, hfound, .refl _⟩
  connection hfound := ⟨_, hfound, .refl _⟩
  session hfound := ⟨_, hfound, id⟩

theorem trans (hleft : Later first second) (hright : Later second third) :
    Later first third where
  exchange hfound := by
    obtain ⟨middle, hmiddle, hages⟩ := hleft.exchange hfound
    obtain ⟨after, hafter, hlater⟩ := hright.exchange hmiddle
    exact ⟨after, hafter, hages.trans hlater⟩
  channel hfound := by
    obtain ⟨middle, hmiddle, hages⟩ := hleft.channel hfound
    obtain ⟨after, hafter, hlater⟩ := hright.channel hmiddle
    exact ⟨after, hafter, hages.trans hlater⟩
  connection hfound := by
    obtain ⟨middle, hmiddle, hages⟩ := hleft.connection hfound
    obtain ⟨after, hafter, hlater⟩ := hright.connection hmiddle
    exact ⟨after, hafter, hages.trans hlater⟩
  session hfound := by
    obtain ⟨middle, hmiddle, hages⟩ := hleft.session hfound
    obtain ⟨after, hafter, hlater⟩ := hright.session hmiddle
    exact ⟨after, hafter, fun hclosed => hlater (hages hclosed)⟩

end Later

/-! ## What channels carry -/

theorem carried?_eq_some {network : Network α} {id : ChannelId} {target : ExchangeId} :
    network.carried? id = some target ↔ ∃ channel, network.channel? id = some channel ∧
      channel.released = false ∧ channel.exchange = some target ∧
      (network.exchange? target).any Exchange.isHeld = true := by
  unfold carried?
  cases network.channel? id with
  | none => simp
  | some channel =>
      cases hreleased : channel.released with
      | true => simp [hreleased]
      | false =>
          cases hslot : channel.exchange with
          | none => simp [hslot]
          | some other =>
              simp only [Option.bind_eq_bind, Option.bind_some, hreleased, hslot,
                Bool.false_eq_true, if_false, Option.some.injEq, exists_eq_left', true_and]
              constructor
              · intro hcarried
                split at hcarried
                next hheld =>
                  obtain rfl := Option.some.inj hcarried
                  exact ⟨rfl, hheld⟩
                next => simp at hcarried
              · rintro ⟨rfl, hheld⟩
                rw [if_pos hheld]

/-- What a channel carries depends on the channel and on who is held. -/
theorem carried?_congr {id : ChannelId} (hchannel : second.channel? id = first.channel? id)
    (hheld : ∀ target, (second.exchange? target).any Exchange.isHeld =
      (first.exchange? target).any Exchange.isHeld) :
    second.carried? id = first.carried? id := by
  simp only [carried?, hchannel, hheld]

/-! ## Agreement -/

/-- The four places agree. -/
structure Coherent (network : Network α) : Prop where
  nodup : ∀ {key connection}, network.connection? key = some connection → connection.live.Nodup
  /-- A listed channel is at work, and its exchange has no outcome unless it was dropped. -/
  works : ∀ {key connection id}, network.connection? key = some connection →
    id ∈ connection.live → ∃ channel target exchange, network.channel? id = some channel ∧
      channel.Works key connection target ∧ network.exchange? target = some exchange ∧
      (exchange.isHeld = true → exchange.isResolved = false)
  /-- What a channel carries exists. -/
  named : ∀ {id channel target}, network.channel? id = some channel →
    channel.exchange = some target → ∃ exchange, network.exchange? target = some exchange
  /-- An exchange that waits for its outcome is bound to the channel that carries it. -/
  carried : ∀ {id channel target exchange}, network.channel? id = some channel →
    channel.released = false → channel.exchange = some target →
    network.exchange? target = some exchange → exchange.isHeld = true →
    exchange.isResolved = false → exchange.binding = some id
  /-- An exchange that waits for its outcome and is bound to a channel nobody holds is
  carried by that channel, and the channel is listed. -/
  waiting : ∀ {target exchange id channel}, network.exchange? target = some exchange →
    exchange.isHeld = true → exchange.isResolved = false → exchange.binding = some id →
    network.channel? id = some channel → channel.isHeld = false →
    channel.exchange = some target ∧ ∃ key, network.Registered key id
  /-- An exchange is bound to a channel that exists; if the channel is listed, it carries
  the exchange. -/
  bound : ∀ {target exchange id}, network.exchange? target = some exchange →
    exchange.binding = some id → ∃ channel, network.channel? id = some channel ∧
      ((∃ key, network.Registered key id) → channel.exchange = some target)

/-- The second network comes from the first by ending some channels, and by nothing else
that concerns the four places. -/
structure Ends (first second : Network α) (finished : ChannelId → Prop) : Prop
    extends Later first second where
  newExchange : ∀ {id after}, first.exchange? id = none → second.exchange? id = some after →
    after.binding = none
  newChannel : ∀ {id after}, first.channel? id = none → second.channel? id = some after →
    after.exchange = none
  newConnection : ∀ {key after}, first.connection? key = none →
    second.connection? key = some after → after.live = []
  binding : ∀ {id before after}, first.exchange? id = some before →
    second.exchange? id = some after → after.binding = before.binding ∨
      after.binding = none ∧ (after.isResolved = true ∨ first.isUnderWay before = false)
  slot : ∀ {id before after}, first.channel? id = some before →
    second.channel? id = some after → after.exchange = before.exchange ∨ after.exchange = none
  live : ∀ {key before after}, first.connection? key = some before →
    second.connection? key = some after → after.live.Sublist before.live ∧
      ∀ id ∈ before.live, id ∈ after.live ↔ ¬ finished id
  /-- A listed channel that is not ended stays at work. -/
  kept : ∀ {key id before after}, first.Registered key id → ¬ finished id →
    first.channel? id = some before → second.channel? id = some after →
    after.released = before.released ∧ after.cancelled = before.cancelled ∧
      after.exchange = before.exchange
  /-- Only exchanges of ended channels get an outcome. -/
  resolved : ∀ {target before after key id channel}, first.exchange? target = some before →
    second.exchange? target = some after → before.isResolved = false →
    after.isResolved = true → first.Registered key id → first.channel? id = some channel →
    channel.exchange = some target → finished id
  /-- The exchanges of ended channels have their outcome unless they were dropped. -/
  settled : ∀ {target after key id channel}, second.exchange? target = some after →
    first.Registered key id → first.channel? id = some channel →
    channel.exchange = some target → finished id → after.isHeld = true → after.isResolved = true

namespace Ends

variable {finished : ChannelId → Prop} (hends : Ends first second finished)
include hends

/-- What is listed afterwards was listed before and is not over. -/
theorem registered_before {key : ConnectionKey} {id : ChannelId}
    (hregistered : second.Registered key id) : first.Registered key id ∧ ¬ finished id := by
  obtain ⟨after, hafter, hlive⟩ := hregistered
  cases hbefore : first.connection? key with
  | none => simp [hends.newConnection hbefore hafter] at hlive
  | some before =>
      obtain ⟨hsublist, hmem⟩ := hends.live hbefore hafter
      have hlisted : id ∈ before.live := hsublist.subset hlive
      exact ⟨⟨before, hbefore, hlisted⟩, (hmem id hlisted).mp hlive⟩

theorem registered_after {key : ConnectionKey} {id : ChannelId}
    (hregistered : first.Registered key id) (hnot : ¬ finished id) : second.Registered key id := by
  obtain ⟨before, hbefore, hlive⟩ := hregistered
  obtain ⟨after, hafter, -⟩ := hends.connection hbefore
  exact ⟨after, hafter, ((hends.live hbefore hafter).2 id hlive).mpr hnot⟩

/-- An exchange that waits afterwards waited before, if it was there. -/
theorem waited {target : ExchangeId} {before after : Exchange}
    (hbefore : first.exchange? target = some before)
    (hafter : second.exchange? target = some after) (hheld : after.isHeld = true)
    (hunresolved : after.isResolved = false) :
    before.isHeld = true ∧ before.isResolved = false ∧
      (after.binding = before.binding ∨
        after.binding = none ∧ first.isUnderWay before = false) := by
  obtain ⟨found, hfound, hages⟩ := hends.exchange hbefore
  obtain rfl := Option.some.inj (hafter.symm.trans hfound)
  refine ⟨hages.held hheld, ?_, ?_⟩
  · cases hresolved : before.isResolved with
    | false => rfl
    | true =>
        have hsame := hages.outcome hresolved
        rw [Exchange.isResolved, hsame, ← Exchange.isResolved, hresolved] at hunresolved
        exact hunresolved
  -- A binding is dissolved with the outcome, or because the exchange was free.
  · rcases hends.binding hbefore hafter with hsame | ⟨hnone, hover | hfree⟩
    · exact .inl hsame
    · simp [hunresolved] at hover
    · exact .inr ⟨hnone, hfree⟩

theorem carried_before {id : ChannelId} {after : Channel} {target : ExchangeId}
    (hafter : second.channel? id = some after) (hslot : after.exchange = some target) :
    ∃ before, first.channel? id = some before ∧ before.exchange = some target ∧
      before.Ages after := by
  cases hbefore : first.channel? id with
  | none => simp [hends.newChannel hbefore hafter] at hslot
  | some before =>
      obtain ⟨found, hfound, hages⟩ := hends.channel hbefore
      obtain rfl := Option.some.inj (hafter.symm.trans hfound)
      rcases hends.slot hbefore hafter with hsame | hnone
      · exact ⟨before, rfl, hsame.symm.trans hslot, hages⟩
      · simp [hnone] at hslot

theorem bound_before {target : ExchangeId} {after : Exchange} {id : ChannelId}
    (hafter : second.exchange? target = some after) (hbinding : after.binding = some id) :
    ∃ before, first.exchange? target = some before ∧ before.binding = some id := by
  cases hbefore : first.exchange? target with
  | none => simp [hends.newExchange hbefore hafter] at hbinding
  | some before =>
      rcases hends.binding hbefore hafter with hsame | ⟨hnone, -⟩
      · exact ⟨before, rfl, hsame.symm.trans hbinding⟩
      · simp [hnone] at hbinding

end Ends

/-- The connections are as they were, and so is everything at work on them. -/
structure Spares (first second : Network α) : Prop extends Later first second where
  newExchange : ∀ {id after}, first.exchange? id = none → second.exchange? id = some after →
    after.binding = none
  newChannel : ∀ {id after}, first.channel? id = none → second.channel? id = some after →
    after.exchange = none
  connection? : second.connection? = first.connection?
  binding : ∀ {id before after}, first.exchange? id = some before →
    second.exchange? id = some after → after.binding = before.binding ∨
      after.binding = none ∧ (after.isResolved = true ∨ first.isUnderWay before = false)
  slot : ∀ {id before after}, first.channel? id = some before →
    second.channel? id = some after → after.exchange = before.exchange ∨ after.exchange = none
  kept : ∀ {key id before after}, first.Registered key id →
    first.channel? id = some before → second.channel? id = some after →
    after.released = before.released ∧ after.cancelled = before.cancelled ∧
      after.exchange = before.exchange
  waits : ∀ {target before after key id channel}, first.exchange? target = some before →
    second.exchange? target = some after → before.isResolved = false →
    first.Registered key id → first.channel? id = some channel →
    channel.exchange = some target → after.isResolved = false

/-- Where everything at work is spared, nothing ends. -/
theorem Spares.ends (hspares : Spares first second) : Ends first second fun _ => False where
  toLater := hspares.toLater
  newExchange := hspares.newExchange
  newChannel := hspares.newChannel
  newConnection hbefore hafter := by simp [hspares.connection?, hbefore] at hafter
  binding := hspares.binding
  slot := hspares.slot
  live hbefore hafter := by
    rw [hspares.connection?, hbefore] at hafter
    obtain rfl := Option.some.inj hafter
    exact ⟨List.Sublist.refl _, fun other hmem => iff_of_true hmem not_false⟩
  kept hregistered _ := hspares.kept hregistered
  resolved hbefore hafter hunresolved hresolved hregistered hchannel hslot := by
    rw [hspares.waits hbefore hafter hunresolved hregistered hchannel hslot] at hresolved
    exact Bool.false_ne_true hresolved
  settled _ _ _ _ hfinished := hfinished.elim

namespace Coherent

variable {network : Network α}

section Listed

variable (hcoherent : Coherent network) {key : ConnectionKey} {id : ChannelId} {channel : Channel}
  {target : ExchangeId} {exchange : Exchange}
include hcoherent

theorem exists_channel (hregistered : network.Registered key id) :
    ∃ channel, network.channel? id = some channel := by
  obtain ⟨connection, hconnection, hlive⟩ := hregistered
  obtain ⟨channel, -, -, hchannel, -⟩ := hcoherent.works hconnection hlive
  exact ⟨channel, hchannel⟩

/-- A listed channel works for the connection that lists it. -/
theorem works_of_registered (hregistered : network.Registered key id)
    (hchannel : network.channel? id = some channel) :
    ∃ connection target, network.connection? key = some connection ∧
      channel.Works key connection target := by
  obtain ⟨connection, hconnection, hlive⟩ := hregistered
  obtain ⟨same, target, -, hsame, hworks, -⟩ := hcoherent.works hconnection hlive
  obtain rfl := Option.some.inj (hchannel.symm.trans hsame)
  exact ⟨connection, target, hconnection, hworks⟩

omit hcoherent in
/-- A channel that is not released carries the exchange that it names, if somebody holds it. -/
theorem carried?_of_slot (hchannel : network.channel? id = some channel)
    (hreleased : channel.released = false) (hslot : channel.exchange = some target)
    (hexchange : network.exchange? target = some exchange) (hheld : exchange.isHeld = true) :
    network.carried? id = some target := by
  refine carried?_eq_some.mpr ⟨channel, hchannel, hreleased, hslot, ?_⟩
  rw [hexchange, Option.any_some, hheld]

/-- The exchange of a listed channel waits for its outcome while somebody holds it, and it is
bound to the channel. -/
theorem waits_of_registered (hregistered : network.Registered key id)
    (hchannel : network.channel? id = some channel) (hslot : channel.exchange = some target)
    (hexchange : network.exchange? target = some exchange) (hheld : exchange.isHeld = true) :
    exchange.isResolved = false ∧ exchange.binding = some id := by
  obtain ⟨connection, hconnection, hlive⟩ := hregistered
  obtain ⟨same, other, found, hsame, hworks, hfound, hwaits⟩ := hcoherent.works hconnection hlive
  obtain rfl := Option.some.inj (hchannel.symm.trans hsame)
  obtain rfl := Option.some.inj (hslot.symm.trans hworks.exchange)
  obtain rfl := Option.some.inj (hexchange.symm.trans hfound)
  have hunresolved : exchange.isResolved = false := hwaits hheld
  exact ⟨hunresolved,
    hcoherent.carried hchannel hworks.released hslot hexchange hheld hunresolved⟩

theorem atHome (hhoused : Housed network) (id : ChannelId) : network.AtHome id := by
  intro key hregistered
  obtain ⟨channel, hchannel⟩ := hcoherent.exists_channel hregistered
  obtain ⟨connection, target, -, hworks⟩ := hcoherent.works_of_registered hregistered hchannel
  exact ⟨channel, hchannel, hworks.released, hworks.owner, (hhoused.of_registered hregistered).1⟩

theorem listed_once {other : ConnectionKey} (hleft : network.Registered key id)
    (hright : network.Registered other id) : key = other := by
  obtain ⟨channel, hchannel⟩ := hcoherent.exists_channel hleft
  obtain ⟨_, _, -, hworks⟩ := hcoherent.works_of_registered hleft hchannel
  obtain ⟨_, _, -, hworks'⟩ := hcoherent.works_of_registered hright hchannel
  exact Option.some.inj (hworks.owner.symm.trans hworks'.owner)

/-- The channel that carries an exchange is the only listed one that does. -/
theorem carried_once {other : ChannelId} {found : Channel}
    (hcarried : network.carried? id = some target) (hregistered : network.Registered key other)
    (hfound : network.channel? other = some found) (hslot : found.exchange = some target) :
    other = id := by
  obtain ⟨carrying, hcarrying, hreleased, hcarries, hheld⟩ := carried?_eq_some.mp hcarried
  obtain ⟨exchange, hexchange⟩ := hcoherent.named hfound hslot
  rw [hexchange, Option.any_some] at hheld
  obtain ⟨hunresolved, hleft⟩ :=
    hcoherent.waits_of_registered hregistered hfound hslot hexchange hheld
  have hright := hcoherent.carried hcarrying hreleased hcarries hexchange hheld hunresolved
  exact Option.some.inj (hleft.symm.trans hright)

/-- The channel that an unresolved exchange is bound to is there. -/
theorem isChannelAlive (hhoused : Housed network)
    (hexchange : network.exchange? target = some exchange) (hheld : exchange.isHeld = true)
    (hunresolved : exchange.isResolved = false) (hbinding : exchange.binding = some id) :
    network.isChannelAlive id = true := by
  obtain ⟨channel, hchannel, -⟩ := hcoherent.bound hexchange hbinding
  cases hfree : channel.isHeld with
  | true => simp [Network.isChannelAlive, hchannel, hfree]
  | false =>
      -- Nobody holds the channel, so it is its connection that keeps it.
      obtain ⟨-, key, hregistered⟩ :=
        hcoherent.waiting hexchange hheld hunresolved hbinding hchannel hfree
      obtain ⟨_, _, -, hworks⟩ := hcoherent.works_of_registered hregistered hchannel
      obtain ⟨halive, connection, hconnection, hlive, -⟩ := hhoused.of_registered hregistered
      simp [Network.isChannelAlive, hchannel, hworks.owner, halive, hconnection, hlive]

/-- An exchange that a channel carries is under way. -/
theorem isUnderWay (hhoused : Housed network) (hchannel : network.channel? id = some channel)
    (hreleased : channel.released = false) (hslot : channel.exchange = some target)
    (hexchange : network.exchange? target = some exchange) (hheld : exchange.isHeld = true)
    (hunresolved : exchange.isResolved = false) : network.isUnderWay exchange = true := by
  have hbinding := hcoherent.carried hchannel hreleased hslot hexchange hheld hunresolved
  have halive := hcoherent.isChannelAlive hhoused hexchange hheld hunresolved hbinding
  simp [Network.isUnderWay, hbinding, halive, hchannel, hreleased]

end Listed

/-- Ending channels keeps the four places in agreement. -/
theorem of_ends {finished : ChannelId → Prop} (hcoherent : Coherent first) (hhoused : Housed first)
    (hends : Ends first second finished) : Coherent second where
  nodup := by
    intro key after hafter
    cases hbefore : first.connection? key with
    | none => simp [hends.newConnection hbefore hafter]
    | some before =>
        exact (hends.live hbefore hafter).1.nodup (hcoherent.nodup hbefore)
  works := by
    intro key after id hafter hlive
    obtain ⟨hregistered, hnot⟩ := hends.registered_before ⟨after, hafter, hlive⟩
    have ⟨before, hbefore, hlisted⟩ := hregistered
    obtain ⟨channel, target, exchange, hchannel, hworks, hexchange, hwaits⟩ :=
      hcoherent.works hbefore hlisted
    obtain ⟨found, hfound, hconnection⟩ := hends.connection hbefore
    obtain rfl := Option.some.inj (hafter.symm.trans hfound)
    obtain ⟨kept, hkept, hages⟩ := hends.channel hchannel
    obtain ⟨later, hlater, hexchanges⟩ := hends.exchange hexchange
    obtain ⟨hreleased, hcancelled, hslot⟩ := hends.kept hregistered hnot hchannel hkept
    refine ⟨kept, target, later, hkept, ?_, hlater, fun hheld => ?_⟩
    · exact
        { owner := hages.owner.trans hworks.owner
          session := by rw [hages.session, hworks.session, hconnection.session]
          exchange := hslot.trans hworks.exchange
          stream := by rw [hages.stream hworks.free, hworks.stream]
          released := hreleased.trans hworks.released
          cancelled := hcancelled.trans hworks.cancelled
          free := by rw [Channel.isHeld, hages.handles, ← Channel.isHeld, hworks.free] }
    · cases hresolved : later.isResolved with
      | false => rfl
      | true =>
          -- An exchange gets an outcome when its channel ends, and this one did not.
          have hwaited := hwaits (hexchanges.held hheld)
          exact absurd (hends.resolved hexchange hlater hwaited hresolved hregistered hchannel
            hworks.exchange) hnot
  named := by
    intro id after target hafter hslot
    obtain ⟨before, hbefore, hcarried, -⟩ := hends.carried_before hafter hslot
    obtain ⟨exchange, hexchange⟩ := hcoherent.named hbefore hcarried
    obtain ⟨later, hlater, -⟩ := hends.exchange hexchange
    exact ⟨later, hlater⟩
  carried := by
    intro id after target later hafter hreleased hslot hlater hheld hunresolved
    obtain ⟨before, hbefore, hcarried, hages⟩ := hends.carried_before hafter hslot
    obtain ⟨exchange, hexchange⟩ := hcoherent.named hbefore hcarried
    obtain ⟨hthen, hwaits, hbinding⟩ := hends.waited hexchange hlater hheld hunresolved
    have hunreleased : before.released = false := by
      cases hover : before.released with
      | false => rfl
      | true => simp [hages.released hover] at hreleased
    -- The binding was not dissolved, since the exchange was under way.
    rcases hbinding with hsame | ⟨-, hfree⟩
    · rw [hsame, hcoherent.carried hbefore hunreleased hcarried hexchange hthen hwaits]
    · rw [hcoherent.isUnderWay hhoused hbefore hunreleased hcarried hexchange hthen hwaits]
        at hfree
      exact absurd hfree Bool.false_ne_true.symm
  waiting := by
    intro target later id after hlater hheld hunresolved hbinding hafter hfree
    obtain ⟨exchange, hexchange, hbound⟩ := hends.bound_before hlater hbinding
    obtain ⟨hthen, hwaits, -⟩ := hends.waited hexchange hlater hheld hunresolved
    obtain ⟨before, hbefore, -⟩ := hcoherent.bound hexchange hbound
    obtain ⟨found, hfound, hages⟩ := hends.channel hbefore
    obtain rfl := Option.some.inj (hafter.symm.trans hfound)
    have hunheld : before.isHeld = false := by rwa [Channel.isHeld, ← hages.handles]
    obtain ⟨hslot, key, hregistered⟩ :=
      hcoherent.waiting hexchange hthen hwaits hbound hbefore hunheld
    -- An ended channel would have left the exchange with an outcome.
    have hnot : ¬ finished id := fun hover => by
      simp [hends.settled hlater hregistered hbefore hslot hover hheld] at hunresolved
    obtain ⟨-, -, hkept⟩ := hends.kept hregistered hnot hbefore hafter
    exact ⟨hkept.trans hslot, key, hends.registered_after hregistered hnot⟩
  bound := by
    intro target later id hlater hbinding
    obtain ⟨exchange, hexchange, hbound⟩ := hends.bound_before hlater hbinding
    obtain ⟨before, hbefore, hcarries⟩ := hcoherent.bound hexchange hbound
    obtain ⟨after, hafter, -⟩ := hends.channel hbefore
    refine ⟨after, hafter, fun ⟨key, hregistered⟩ => ?_⟩
    obtain ⟨hlisted, hnot⟩ := hends.registered_before hregistered
    obtain ⟨-, -, hkept⟩ := hends.kept hlisted hnot hbefore hafter
    exact hkept.trans (hcarries ⟨key, hlisted⟩)

/-! ### Dispatching -/

section Dispatching

variable {key : ConnectionKey} {connection : Connection} {target : ExchangeId}
  {exchange : Exchange} {stream : StreamId} {id : ChannelId} {channel : Channel}

/-- A channel that a connection lists is there. -/
theorem ne_nextChannel (hcoherent : Coherent network)
    (hregistered : network.Registered key id) : id ≠ network.nextChannel := by
  obtain ⟨found, hfound, hlive⟩ := hregistered
  obtain ⟨channel, other, waits, hchannel, -⟩ := hcoherent.works hfound hlive
  intro heq
  simp [heq] at hchannel

/-- An exchange that is free to be dispatched is carried by no channel under way. -/
theorem ne_target (hcoherent : Coherent network) (hhoused : Housed network)
    (hexchange : network.exchange? target = some exchange) (hheld : exchange.isHeld = true)
    (hunresolved : exchange.isResolved = false) (hfree : network.isUnderWay exchange = false)
    (hchannel : network.channel? id = some channel) (hreleased : channel.released = false) :
    channel.exchange ≠ some target := by
  intro hslot
  rw [hcoherent.isUnderWay hhoused hchannel hreleased hslot hexchange hheld hunresolved] at hfree
  exact absurd hfree Bool.false_ne_true.symm

/-- In the second network an exchange that was free is carried by a channel.  The channel
is new and was listed by a connection, or somebody holds it. -/
structure Carries (first second : Network α) (target : ExchangeId) (exchange : Exchange)
    (id : ChannelId) (channel : Channel) : Prop where
  before : first.exchange? target = some exchange
  held : exchange.isHeld = true
  unresolved : exchange.isResolved = false
  free : first.isUnderWay exchange = false
  after : ∃ later, second.exchange? target = some later ∧ later.binding = some id ∧
    later.isHeld = true ∧ later.isResolved = false
  exchange? : ∀ other, other ≠ target → second.exchange? other = first.exchange? other
  slot : second.channel? id = some channel ∧ channel.exchange = some target
  channel? : ∀ other, other ≠ id → second.channel? other = first.channel? other
  connection : ∀ {key found}, second.connection? key = some found →
    ∃ connection, first.connection? key = some connection ∧
      found.session = connection.session ∧ (found.live = connection.live ∨
        found.live = connection.live ++ [id] ∧ channel.Works key found target)
  listed : ∀ {key}, first.Registered key id → False
  home : (first.channel? id = none ∧ ∃ key, second.Registered key id) ∨
    channel.isHeld = true ∧ ∀ key, ¬ second.Registered key id
  kept : ∀ {key other}, first.Registered key other → second.Registered key other

namespace Carries

variable (hcarries : Carries first second target exchange id channel)
include hcarries

/-- The exchange that is carried is bound to the channel that carries it. -/
theorem binding_after {later : Exchange} {other : ChannelId}
    (hlater : second.exchange? target = some later) (hbinding : later.binding = some other) :
    other = id := by
  obtain ⟨bound, hbound, hid, -⟩ := hcarries.after
  obtain rfl := Option.some.inj (hlater.symm.trans hbound)
  exact Option.some.inj (hbinding.symm.trans hid)

theorem slot_after {after : Channel} {found : ExchangeId} (hafter : second.channel? id = some after)
    (hslot : after.exchange = some found) : found = target := by
  obtain rfl := Option.some.inj (hafter.symm.trans hcarries.slot.1)
  exact Option.some.inj (hslot.symm.trans hcarries.slot.2)

/-- What a connection lists was listed before, unless it is the channel that is new. -/
theorem registered_before_of_ne {key : ConnectionKey} {other : ChannelId} (hne : other ≠ id)
    (hregistered : second.Registered key other) : first.Registered key other := by
  obtain ⟨after, hafter, hlive⟩ := hregistered
  obtain ⟨before, hbefore, -, hsame | ⟨hnew, -⟩⟩ := hcarries.connection hafter
  · exact ⟨before, hbefore, hsame ▸ hlive⟩
  · rw [hnew, List.mem_append, List.mem_singleton] at hlive
    exact ⟨before, hbefore, hlive.resolve_right hne⟩

theorem works_of_mem (hcoherent : Coherent first) {key : ConnectionKey}
    {before after : Connection} {other : ChannelId}
    (hbefore : first.connection? key = some before) (hsession : after.session = before.session)
    (hmem : other ∈ before.live) :
    ∃ found place waiting, second.channel? other = some found ∧ found.Works key after place ∧
      second.exchange? place = some waiting ∧
      (waiting.isHeld = true → waiting.isResolved = false) := by
  obtain ⟨found, place, waiting, hfound, hworks, hwaiting, hunresolved⟩ :=
    hcoherent.works hbefore hmem
  have hne : other ≠ id := fun heq => hcarries.listed ⟨before, hbefore, heq ▸ hmem⟩
  have hsame : second.channel? other = some found := (hcarries.channel? other hne).trans hfound
  have hstill : found.Works key after place :=
    ⟨hworks.owner, hworks.session.trans hsession.symm, hworks.exchange, hworks.stream,
      hworks.released, hworks.cancelled, hworks.free⟩
  by_cases heq : place = target
  · obtain ⟨later, hlater, -, -, hwaits⟩ := hcarries.after
    exact ⟨found, place, later, hsame, hstill, heq ▸ hlater, fun _ => hwaits⟩
  · exact ⟨found, place, waiting, hsame, hstill,
      (hcarries.exchange? place heq).trans hwaiting, hunresolved⟩

end Carries

/-- Carrying one more exchange leaves the four places in agreement. -/
theorem of_carries (hcoherent : Coherent first) (hhoused : Housed first)
    (hcarries : Carries first second target exchange id channel) : Coherent second where
  nodup := by
    intro key after hafter
    obtain ⟨before, hbefore, -, hsame | ⟨hnew, -⟩⟩ := hcarries.connection hafter
    · rw [hsame]
      exact hcoherent.nodup hbefore
    · rw [hnew]
      have hnot : id ∉ before.live := fun hmem => hcarries.listed ⟨before, hbefore, hmem⟩
      refine List.nodup_append.mpr ⟨hcoherent.nodup hbefore, by simp, ?_⟩
      rintro other hother found hfound rfl
      exact hnot (List.mem_singleton.mp hfound ▸ hother)
  works := by
    intro key after other hafter hlive
    obtain ⟨before, hbefore, hsession, hsame | ⟨hnew, hworks⟩⟩ := hcarries.connection hafter
    · exact hcarries.works_of_mem hcoherent hbefore hsession (hsame ▸ hlive)
    · rw [hnew, List.mem_append, List.mem_singleton] at hlive
      rcases hlive with hmem | rfl
      · exact hcarries.works_of_mem hcoherent hbefore hsession hmem
      · obtain ⟨later, hlater, -, -, hwaits⟩ := hcarries.after
        exact ⟨channel, target, later, hcarries.slot.1, hworks, hlater, fun _ => hwaits⟩
  named := by
    intro other after found hafter hslot
    by_cases htarget : found = target
    · obtain ⟨later, hlater, -⟩ := hcarries.after
      exact ⟨later, htarget ▸ hlater⟩
    · have hne : other ≠ id := fun heq => htarget (hcarries.slot_after (heq ▸ hafter) hslot)
      rw [hcarries.channel? other hne] at hafter
      rw [hcarries.exchange? found htarget]
      exact hcoherent.named hafter hslot
  carried := by
    intro other after found later hafter hreleased hslot hlater hheld hunresolved
    by_cases heq : other = id
    · obtain ⟨bound, hbound, hbinding, -⟩ := hcarries.after
      rw [hcarries.slot_after (heq ▸ hafter) hslot, hbound] at hlater
      rw [← Option.some.inj hlater, hbinding, heq]
    · rw [hcarries.channel? other heq] at hafter
      -- The exchange was free, so no other channel carries it.
      have hne : found ≠ target := fun hsame =>
        hcoherent.ne_target hhoused hcarries.before hcarries.held hcarries.unresolved
          hcarries.free hafter hreleased (hsame ▸ hslot)
      rw [hcarries.exchange? found hne] at hlater
      exact hcoherent.carried hafter hreleased hslot hlater hheld hunresolved
  waiting := by
    intro found later other after hlater hheld hunresolved hbinding hafter hfree
    by_cases htarget : found = target
    · subst htarget
      obtain rfl := hcarries.binding_after hlater hbinding
      obtain rfl := Option.some.inj (hafter.symm.trans hcarries.slot.1)
      refine ⟨hcarries.slot.2, ?_⟩
      rcases hcarries.home with ⟨-, hregistered⟩ | ⟨hcontra, -⟩
      · exact hregistered
      · simp [hfree] at hcontra
    · rw [hcarries.exchange? found htarget] at hlater
      obtain ⟨before, hbefore, -⟩ := hcoherent.bound hlater hbinding
      -- Other exchanges are bound to other channels, unless somebody holds the channel.
      have hne : other ≠ id := by
        rintro rfl
        rcases hcarries.home with ⟨hnone, -⟩ | ⟨hcontra, -⟩
        · simp [hnone] at hbefore
        · obtain rfl := Option.some.inj (hafter.symm.trans hcarries.slot.1)
          simp [hfree] at hcontra
      rw [hcarries.channel? other hne] at hafter
      obtain ⟨hslot, key, hregistered⟩ :=
        hcoherent.waiting hlater hheld hunresolved hbinding hafter hfree
      exact ⟨hslot, key, hcarries.kept hregistered⟩
  bound := by
    intro found later other hlater hbinding
    by_cases htarget : found = target
    · subst htarget
      obtain rfl := hcarries.binding_after hlater hbinding
      exact ⟨channel, hcarries.slot.1, fun _ => hcarries.slot.2⟩
    · rw [hcarries.exchange? found htarget] at hlater
      obtain ⟨before, hbefore, hslot⟩ := hcoherent.bound hlater hbinding
      by_cases heq : other = id
      · -- An old channel that carries the exchange is held, so no connection lists it.
        subst heq
        rcases hcarries.home with ⟨hnone, -⟩ | ⟨-, hnot⟩
        · simp [hbefore] at hnone
        · exact ⟨channel, hcarries.slot.1, fun ⟨key, hlisted⟩ => absurd hlisted (hnot key)⟩
      · exact ⟨before, (hcarries.channel? other heq).trans hbefore, fun ⟨key, hlisted⟩ =>
          hslot ⟨key, hcarries.registered_before_of_ne heq hlisted⟩⟩

end Dispatching

end Coherent

/-! ## Soundness -/

section Soundness

variable {network : Network α} {id : ChannelId} {channel : Channel} {target : ExchangeId}
  {exchange : Exchange}

/-- What holds between operations. -/
structure Sound (network : Network α) : Prop where
  housed : Housed network
  coherent : Coherent network

namespace Sound

variable (hsound : Sound network)
include hsound

theorem atHome (id : ChannelId) : network.AtHome id := hsound.coherent.atHome hsound.housed id

/-- The channel that an unresolved exchange is bound to is there. -/
theorem isChannelAlive (hexchange : network.exchange? target = some exchange)
    (hheld : exchange.isHeld = true) (hunresolved : exchange.isResolved = false)
    (hbinding : exchange.binding = some id) : network.isChannelAlive id = true :=
  hsound.coherent.isChannelAlive hsound.housed hexchange hheld hunresolved hbinding

/-- Whether an unresolved exchange is under way can be read off the channel that it is bound to. -/
theorem isUnderWay_eq (hexchange : network.exchange? target = some exchange)
    (hheld : exchange.isHeld = true) (hunresolved : exchange.isResolved = false) :
    network.isUnderWay exchange = exchange.binding.any fun id =>
      (network.channel? id).any fun found => !found.released := by
  cases hbinding : exchange.binding with
  | none => simp only [Network.isUnderWay, hbinding, Option.any_none]
  | some id =>
      have halive := hsound.isChannelAlive hexchange hheld hunresolved hbinding
      simp only [Network.isUnderWay, hbinding, Option.any_some, halive, Bool.true_and]

/-- The channel that an exchange is bound to exists. -/
theorem isSome_of_binding (hexchange : network.exchange? target = some exchange)
    (hbinding : exchange.binding = some id) : (network.channel? id).isSome = true := by
  obtain ⟨channel, hchannel, -⟩ := hsound.coherent.bound hexchange hbinding
  rw [hchannel, Option.isSome_some]

/-- No connection lists the channel that comes next. -/
theorem nextChannel_notMem {key : ConnectionKey} {connection : Connection}
    (hconnection : network.connection? key = some connection) :
    network.nextChannel ∉ connection.live :=
  fun hlive => hsound.coherent.ne_nextChannel ⟨connection, hconnection, hlive⟩ rfl

end Sound

end Soundness

end Network

end Multiplex
