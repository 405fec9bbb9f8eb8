import Multiplex.Proofs.Run.Step

/-!
# No orphan and no stale registration

An exchange that a send accepted has its outcome, or a connection lists a channel for it.
Nothing in between is possible: an exchange that waits is never left without its channel,
and a channel is never listed for an exchange that has its outcome.

What carries the argument is `Watched`: the channel that a send made for an exchange is
listed for as long as somebody waits for the outcome.
-/

namespace Multiplex.Network

variable {α : Type} {first second network : Network α} {key : ConnectionKey} {id : ChannelId}
  {target : ExchangeId}

/-- Some send in a run accepted an exchange. -/
def Accepted (network : Network α) (operations : List Operation) (target : ExchangeId) : Prop :=
  ∃ before key after, operations = before ++ .send key target :: after ∧
    (network.run before).holds target = true ∧
    ((network.run before).send quiet key target).2 = .ok ()

/-- A connection lists a channel, and the channel names the exchange or is named by it. -/
def Touches (network : Network α) (key : ConnectionKey) (id : ChannelId) (target : ExchangeId) :
    Prop :=
  network.Registered key id ∧
    ((∃ channel, network.channel? id = some channel ∧ channel.exchange = some target) ∨
      ∃ exchange, network.exchange? target = some exchange ∧ exchange.binding = some id)

/-- An open connection lists a channel that is under way, and the channel and the exchange
name each other. -/
structure Tracks (network : Network α) (key : ConnectionKey) (id : ChannelId)
    (target : ExchangeId) : Prop where
  registered : network.Registered key id
  channel : ∃ channel, network.channel? id = some channel ∧ channel.exchange = some target ∧
    channel.released = false
  binding : ∃ exchange, network.exchange? target = some exchange ∧ exchange.binding = some id
  opened : network.isOpen key = true

/-! ## Waiting -/

/-- While somebody waits for the outcome of an exchange, a connection lists a channel that
carries it. -/
def Watched (network : Network α) (key : ConnectionKey) (id : ChannelId) (target : ExchangeId) :
    Prop :=
  ∃ exchange, network.exchange? target = some exchange ∧
    (exchange.isHeld = true → exchange.isResolved = false →
      network.Registered key id ∧
        ∃ channel, network.channel? id = some channel ∧ channel.exchange = some target)

/-- An exchange is watched as soon as it was dispatched. -/
theorem Dispatched.watched {connection : Connection} {exchange : Exchange} {stream : StreamId}
    (hdispatched : Dispatched first second key connection target exchange stream) :
    second.Watched key first.nextChannel target := by
  refine ⟨_, (hdispatched.exchange? target).trans (if_pos rfl), fun _ _ => ?_⟩
  exact ⟨hdispatched.registered, _, (hdispatched.channel? _).trans (if_pos rfl), rfl⟩

namespace Watched

variable (hwatched : first.Watched key id target)
include hwatched

/-- Ending channels settles their exchanges, so it leaves nobody waiting in vain. -/
theorem of_ends {finished : ChannelId → Prop} (hends : Ends first second finished) :
    second.Watched key id target := by
  obtain ⟨before, hbefore, hwatch⟩ := hwatched
  obtain ⟨after, hafter, -⟩ := hends.exchange hbefore
  refine ⟨after, hafter, fun hheld hunresolved => ?_⟩
  -- Whoever waits now waited before, so the channel was listed.
  obtain ⟨hthen, hwaits, -⟩ := hends.waited hbefore hafter hheld hunresolved
  obtain ⟨hregistered, channel, hchannel, hslot⟩ := hwatch hthen hwaits
  have hnot : ¬ finished id := fun hover => by
    have hsettled := hends.settled hafter hregistered hchannel hslot hover hheld
    rw [hunresolved] at hsettled
    exact Bool.false_ne_true hsettled
  obtain ⟨later, hlater, -⟩ := hends.channel hchannel
  obtain ⟨-, -, hkept⟩ := hends.kept hregistered hnot hchannel hlater
  exact ⟨hends.registered_after hregistered hnot, later, hlater, hkept.trans hslot⟩

/-- Carrying another exchange takes nothing away from this one. -/
theorem of_carries {other : ExchangeId} {exchange : Exchange} {place : ChannelId}
    {channel : Channel} (hsound : Sound first)
    (hcarries : Coherent.Carries first second other exchange place channel) :
    second.Watched key id target := by
  obtain ⟨before, hbefore, hwatch⟩ := hwatched
  by_cases heq : target = other
  · -- A watched exchange that waits is under way, so it cannot be carried anew.
    subst heq
    obtain rfl := Option.some.inj (hcarries.before.symm.trans hbefore)
    obtain ⟨hregistered, found, hfound, hslot⟩ := hwatch hcarries.held hcarries.unresolved
    obtain ⟨_, _, -, hworks⟩ := hsound.coherent.works_of_registered hregistered hfound
    exact absurd hslot (hsound.coherent.ne_target hsound.housed hcarries.before hcarries.held
      hcarries.unresolved hcarries.free hfound hworks.released)
  · refine ⟨before, (hcarries.exchange? target heq).trans hbefore, fun hheld hunresolved => ?_⟩
    obtain ⟨hregistered, found, hfound, hslot⟩ := hwatch hheld hunresolved
    have hne : id ≠ place := fun hsame => hcarries.listed (hsame ▸ hregistered)
    exact ⟨hcarries.kept hregistered, found, (hcarries.channel? id hne).trans hfound, hslot⟩

theorem undergo (hsound : Sound first) (operation : Operation) :
    (first.undergo operation).Watched key id target := by
  rcases ends_or_carries_undergo hsound operation with
    ⟨finished, hends⟩ | ⟨-, other, exchange, place, channel, hcarries⟩
  · exact hwatched.of_ends hends
  · exact hwatched.of_carries hsound hcarries

omit hwatched in
/-- An exchange that is watched once is watched ever after. -/
theorem run (hwatched : network.Watched key id target) (hsound : Sound network)
    (operations : List Operation) : (network.run operations).Watched key id target := by
  induction operations generalizing network with
  | nil => exact hwatched
  | cons operation operations ih =>
      exact ih (hwatched.undergo hsound operation) (hsound.undergo operation)

end Watched

/-- What was accepted in a run is watched at its end. -/
theorem Accepted.watched {operations : List Operation} (hsound : Sound network)
    (haccepted : network.Accepted operations target) :
    ∃ key id, (network.run operations).Watched key id target := by
  obtain ⟨before, key, after, rfl, hheld, haccepted⟩ := haccepted
  have hthen : Sound (network.run before) := hsound.run before
  obtain ⟨connection, exchange, stream, -, -, -, hdispatched⟩ :=
    dispatched_of_accepted hthen hheld haccepted
  refine ⟨key, (network.run before).nextChannel, ?_⟩
  rw [run_append, run_cons]
  exact hdispatched.watched.run (hthen.undergo _) after

/-! ## What is listed -/

/-- A listed channel is under way, and nobody waits in vain for what it carries. -/
theorem Sound.of_registered (hsound : Sound network) (hregistered : network.Registered key id) :
    ∃ channel target, network.channel? id = some channel ∧ channel.exchange = some target ∧
      channel.released = false ∧
      (network.isResolved target = false ∨ network.holds target = false) := by
  obtain ⟨connection, hconnection, hlive⟩ := hregistered
  obtain ⟨channel, target, exchange, hchannel, hworks, hexchange, hwaits⟩ :=
    hsound.coherent.works hconnection hlive
  refine ⟨channel, target, hchannel, hworks.exchange, hworks.released, ?_⟩
  cases hheld : exchange.isHeld with
  | true => exact .inl (by simp [isResolved, hexchange, hwaits hheld])
  | false => exact .inr (by simp [holds, hexchange, hheld])

/-- A channel that a connection lists names the exchange that it is named by. -/
theorem Sound.slot_of_touches (hsound : Sound network) (htouches : network.Touches key id target) :
    ∃ channel, network.channel? id = some channel ∧ channel.exchange = some target := by
  obtain ⟨hregistered, hslot | ⟨exchange, hexchange, hbinding⟩⟩ := htouches
  · exact hslot
  · obtain ⟨channel, hchannel, hcarries⟩ := hsound.coherent.bound hexchange hbinding
    exact ⟨channel, hchannel, hcarries ⟨key, hregistered⟩⟩

private theorem Sound.not_touches (hsound : Sound network) (hheld : network.holds target = true)
    (hresolved : network.isResolved target = true) : ¬ network.Touches key id target := by
  intro htouches
  obtain ⟨channel, hchannel, hslot⟩ := hsound.slot_of_touches htouches
  obtain ⟨found, other, hfound, hcarries, -, hwaits⟩ := hsound.of_registered htouches.1
  obtain rfl := Option.some.inj (hchannel.symm.trans hfound)
  obtain rfl := Option.some.inj (hslot.symm.trans hcarries)
  simp [hheld, hresolved] at hwaits

/-- A watched exchange that waits is tracked by one listed channel, and touched by no
other. -/
theorem Sound.tracks (hsound : Sound network) (hwatched : network.Watched key id target)
    (hheld : network.holds target = true) (hunresolved : network.isResolved target = false) :
    network.Tracks key id target ∧
      ∀ other place, network.Touches other place target → other = key ∧ place = id := by
  obtain ⟨exchange, hexchange, hwatch⟩ := hwatched
  have hkept : exchange.isHeld = true := by simpa [holds, hexchange] using hheld
  have hwaits : exchange.isResolved = false := by simpa [isResolved, hexchange] using hunresolved
  obtain ⟨hregistered, channel, hchannel, hslot⟩ := hwatch hkept hwaits
  obtain ⟨found, other, hfound, -, hreleased, -⟩ := hsound.of_registered hregistered
  obtain rfl := Option.some.inj (hchannel.symm.trans hfound)
  have hcarried : network.carried? id = some target :=
    carried?_eq_some.mpr ⟨channel, hchannel, hreleased, hslot, hheld⟩
  refine ⟨⟨hregistered, ⟨channel, hchannel, hslot, hreleased⟩, ⟨exchange, hexchange, ?_⟩, ?_⟩, ?_⟩
  · exact hsound.coherent.carried hchannel hreleased hslot hexchange hkept hwaits
  · obtain ⟨-, connection, hconnection, -, hopen⟩ := hsound.housed.of_registered hregistered
    exact isOpen_iff.mpr ⟨connection, hconnection, hopen⟩
  · intro other place htouches
    obtain ⟨touching, htouching, hnames⟩ := hsound.slot_of_touches htouches
    have hplace : place = id := hsound.coherent.carried_once hcarried htouches.1 htouching hnames
    exact ⟨hsound.coherent.listed_once htouches.1 (hplace ▸ hregistered), hplace⟩

/-- At the end of every run an exchange that some send accepted and that is not dropped
either waits, and then exactly one channel of all connections is listed for it, or has its
outcome, and then no channel is.  Whatever is listed is under way, and its exchange waits
or was dropped. -/
theorem run_tracks (surroundings : α) (operations : List Operation) :
    let final := (blank surroundings).run operations
    (∀ target, (blank surroundings).Accepted operations target → final.holds target = true →
      (final.isResolved target = false ∧ ∃ key id, final.Tracks key id target ∧
        ∀ other place, final.Touches other place target → other = key ∧ place = id) ∨
      (final.isResolved target = true ∧ ∀ key id, ¬ final.Touches key id target)) ∧
    ∀ key id, final.Registered key id → ∃ channel target,
      final.channel? id = some channel ∧ channel.exchange = some target ∧
      channel.released = false ∧
      (final.isResolved target = false ∨ final.holds target = false) := by
  intro final
  have hsound : Sound final := (sound_blank surroundings).run operations
  refine ⟨fun target haccepted hheld => ?_, fun key id => hsound.of_registered⟩
  obtain ⟨key, id, hwatched⟩ := haccepted.watched (sound_blank surroundings)
  cases hresolved : final.isResolved target with
  | false => exact .inl ⟨rfl, key, id, hsound.tracks hwatched hheld hresolved⟩
  | true => exact .inr ⟨rfl, fun key id => hsound.not_touches hheld hresolved⟩

/-- An exchange that was just sent waits, and a channel is listed for it. -/
theorem run_tracks_sent :
    let operations := firstSteps ++ [.send ⟨1⟩ ⟨1⟩]
    let final := (blank ()).run operations
    (blank ()).Accepted operations ⟨1⟩ ∧ final.holds ⟨1⟩ = true ∧
      ∃ key id, final.Tracks key id ⟨1⟩ := by
  intro operations final
  have haccepted : (blank ()).Accepted operations ⟨1⟩ := ⟨firstSteps, ⟨1⟩, [], rfl, rfl, rfl⟩
  refine ⟨haccepted, rfl, ?_⟩
  rcases (run_tracks () operations).1 ⟨1⟩ haccepted rfl with
    ⟨-, key, id, htracks, -⟩ | ⟨hresolved, -⟩
  · exact ⟨key, id, htracks⟩
  · exact absurd hresolved (by decide)

end Multiplex.Network
