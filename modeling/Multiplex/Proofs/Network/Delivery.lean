import Multiplex.Proofs.Network.Release

/-!
# What a stream event does

An event is the last that a channel waits for, or it is not.  If it is not, the channel
takes it in, and nothing else happens.  If it is, the exchange that the channel carries
gets the outcome, and the channel is released without a reset.
-/

namespace Multiplex

/-- The outcome that an event brings, if the channel waits for no other after it. -/
def Channel.verdict? (channel : Channel) : StreamEvent → Option Outcome
  | .response _ => none
  | .data piece ended => if ended then some (channel.collectBody piece).collected else none
  | .reset code => some (.error (.reset code))
  | .failure error => some (.error (.stream error))

/-- A channel that took in an event. -/
def Channel.absorb (event : StreamEvent) (channel : Channel) : Channel :=
  match event with
  | .response head => channel.collectHead head
  | .data piece ended =>
    if ended then (channel.collectBody piece).forgetCollected else channel.collectBody piece
  | .reset _ => channel
  | .failure _ => channel

namespace Channel

/-- Taking in an event is a matter of head and body. -/
theorem absorb_frame (event : StreamEvent) (channel : Channel) :
    (channel.absorb event).connection = channel.connection ∧
      (channel.absorb event).owner = channel.owner ∧
      (channel.absorb event).session = channel.session ∧
      (channel.absorb event).exchange = channel.exchange ∧
      (channel.absorb event).stream = channel.stream ∧
      (channel.absorb event).cancelled = channel.cancelled ∧
      (channel.absorb event).released = channel.released ∧
      (channel.absorb event).handles = channel.handles := by
  cases event with
  | data piece ended => cases ended <;> exact ⟨rfl, rfl, rfl, rfl, rfl, rfl, rfl, rfl⟩
  | response head => exact ⟨rfl, rfl, rfl, rfl, rfl, rfl, rfl, rfl⟩
  | reset code => exact ⟨rfl, rfl, rfl, rfl, rfl, rfl, rfl, rfl⟩
  | failure error => exact ⟨rfl, rfl, rfl, rfl, rfl, rfl, rfl, rfl⟩

end Channel

namespace Network

variable {α : Type} {network : Network α} {id : ChannelId} {channel : Channel}

/-- Gives an outcome to the exchange that a channel carries. -/
def resolveCarried (network : Network α) (id : ChannelId) (outcome : Outcome) : Network α :=
  match network.carried? id with
  | some exchange => network.modifyExchange exchange fun found => found.resolve outcome
  | none => network

@[simp] theorem resolveCarried_frame (network : Network α) (id : ChannelId)
    (outcome : Outcome) :
    (network.resolveCarried id outcome).channel? = network.channel? ∧
      (network.resolveCarried id outcome).connection? = network.connection? ∧
      (network.resolveCarried id outcome).session? = network.session? ∧
      (network.resolveCarried id outcome).pool? = network.pool? ∧
      (network.resolveCarried id outcome).nextChannel = network.nextChannel ∧
      (network.resolveCarried id outcome).isConnectionAlive = network.isConnectionAlive ∧
      (network.resolveCarried id outcome).trace = network.trace := by
  unfold resolveCarried
  split <;> exact ⟨rfl, rfl, rfl, rfl, rfl, rfl, rfl⟩

theorem exchange?_resolveCarried (network : Network α) (id : ChannelId) (outcome : Outcome)
    (other : ExchangeId) :
    (network.resolveCarried id outcome).exchange? other =
      if network.carried? id = some other then
        (network.exchange? other).map fun found => found.resolve outcome
      else network.exchange? other := by
  unfold resolveCarried
  split
  next exchange hcarried =>
    rw [exchange?_modifyExchange, hcarried]
    simp only [Option.some.injEq, eq_comm]
  next hcarried => simp [hcarried]

/-- What a channel carries does not depend on head and body. -/
theorem carried?_absorb (network : Network α) (id : ChannelId) (event : StreamEvent)
    (other : ChannelId) :
    (network.modifyChannel id (Channel.absorb event)).carried? other =
      network.carried? other := by
  simp only [carried?, channel?_modifyChannel, modifyChannel_frame]
  split
  · cases network.channel? other with
    | none => rfl
    | some channel =>
        obtain ⟨-, -, -, hexchange, -, -, hreleased, -⟩ := channel.absorb_frame event
        simp [hexchange, hreleased]
  · rfl

/-- A channel that takes in its last event is where it was before. -/
theorem AtHome.absorb (hhome : network.AtHome id) (event : StreamEvent) (outcome : Outcome) :
    ((network.modifyChannel id (Channel.absorb event)).resolveCarried id outcome).AtHome id := by
  have habsorbed : (network.modifyChannel id (Channel.absorb event)).AtHome id :=
    hhome.modifyChannel id (fun found => (found.absorb_frame event).2.2.2.2.2.2.1) fun found =>
      (found.absorb_frame event).2.1
  obtain ⟨hchannels, hconnections, -, -, -, halive, -⟩ :=
    (network.modifyChannel id (Channel.absorb event)).resolveCarried_frame id outcome
  intro key ⟨connection, hconnection, hlive⟩
  rw [hconnections] at hconnection
  rw [hchannels, halive]
  exact habsorbed key ⟨connection, hconnection, hlive⟩

/-- Events for a channel that does not exist do nothing. -/
theorem channelHears_of_none (hchannel : network.channel? id = none) (event : StreamEvent) :
    network.channelHears quiet id event = network := by
  have hsame : ∀ change, network.modifyChannel id change = network := fun change =>
    modifyChannel_eq_self network fun channel hfound => by simp [hchannel] at hfound
  have hfinish : ∀ outcome, network.finishChannel quiet id outcome = network := fun outcome => by
    simp [finishChannel, carried?, releaseChannel, hchannel]
  cases event with
  | response head => exact hsame _
  | data piece ended =>
      simp only [channelHears, collectBody, hsame, hchannel]
      split <;> rfl
  | reset code => exact hfinish _
  | failure error => exact hfinish _

theorem channelHears_of_open {event : StreamEvent}
    (hverdict : channel.verdict? event = none) :
    network.channelHears quiet id event = network.modifyChannel id (Channel.absorb event) := by
  cases event with
  | response head => rfl
  | data piece ended =>
      cases ended with
      | false => rfl
      | true => simp [Channel.verdict?] at hverdict
  | reset code => simp [Channel.verdict?] at hverdict
  | failure error => simp [Channel.verdict?] at hverdict

/-- The last event is taken in, the exchange gets its outcome, and the channel is
released. -/
theorem channelHears_of_last (hchannel : network.channel? id = some channel)
    {event : StreamEvent} {outcome : Outcome} (hverdict : channel.verdict? event = some outcome) :
    network.channelHears quiet id event =
      ((network.modifyChannel id (Channel.absorb event)).resolveCarried id outcome
        ).releaseChannel quiet id none := by
  have hfinish : ∀ network : Network α, network.finishChannel quiet id outcome =
      (network.resolveCarried id outcome).releaseChannel quiet id none := fun network => rfl
  have hsame : network.modifyChannel id (fun channel => channel) = network :=
    modifyChannel_eq_self network fun _ _ => rfl
  cases event with
  | response head => simp [Channel.verdict?] at hverdict
  | data piece ended =>
      cases ended with
      | false => simp [Channel.verdict?] at hverdict
      | true =>
          have hcollected : (channel.collectBody piece).collected = outcome := by
            simpa [Channel.verdict?] using hverdict
          have hfound : (network.modifyChannel id fun found => found.collectBody piece).channel?
              id = some (channel.collectBody piece) := by
            rw [channel?_modifyChannel, if_pos rfl, hchannel, Option.map_some]
          simp only [channelHears, collectBody, hfound, hcollected, if_true, hfinish,
            modifyChannel_modifyChannel]
          rfl
  | reset code =>
      have houtcome : Except.error (.reset code) = outcome := by
        simpa [Channel.verdict?] using hverdict
      simp only [channelHears, houtcome, hfinish]
      exact (congrArg (fun found : Network α =>
        (found.resolveCarried id outcome).releaseChannel quiet id none) hsame).symm
  | failure error =>
      have houtcome : Except.error (.stream error) = outcome := by
        simpa [Channel.verdict?] using hverdict
      simp only [channelHears, houtcome, hfinish]
      exact (congrArg (fun found : Network α =>
        (found.resolveCarried id outcome).releaseChannel quiet id none) hsame).symm

end Network

end Multiplex
