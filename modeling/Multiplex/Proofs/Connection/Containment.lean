import Multiplex.Proofs.Connection.Shutdown
import Multiplex.Proofs.Pool.Turns

/-!
# What stays where it is

All exchanges of a connection share a session and a destination, and they name their channels
and are named by them.  Nevertheless what is done to one of them is a matter of that one:
`Contained` says that every other exchange stays as it is, that its channel stays as it is and
where it is, and that every connection keeps its status.  A close is a matter of one
connection; `Elsewhere` says that the others do not notice.

## Strategy

`Brings` lists everything that can come of an operation on one exchange, so there is one case
for each of its constructors.  Two facts about sound networks keep the exchanges apart: an
exchange is bound to a registered channel only if the channel carries it, and no two registered
channels carry the same exchange.

`Hears` says exactly what becomes of a network in which a registered channel hears of its
stream.  What it says depends on the one channel and on what that channel carries, and leaves
alone what it would depend on for another channel.  So two channels hear of their streams in
either order; the notices come in the order of the events.
-/

namespace Multiplex

theorem Table.ext_of_get? {β : Type} {first second : Table β}
    (hget : ∀ number, first.get? number = second.get? number) : first = second := by
  have hsize : ∀ {left right : Table β}, (∀ number, left.get? number = right.get? number) →
      right.size ≤ left.size := by
    intro left right hsame
    have hnone : right.get? (left.size + 1) = none := by
      rw [← hsame]
      exact left.get?_size_succ
    rcases Table.get?_eq_none_iff.mp hnone with hzero | hbehind <;> omega
  exact Table.ext_get? (Nat.le_antisymm (hsize fun number => (hget number).symm) (hsize hget)) hget

/-- What somebody does to one exchange, or to one channel. -/
inductive Touch
  | hears (channel : ChannelId) (event : StreamEvent)
  | abort (exchange : ExchangeId) (error : ExchangeError)
  | send (connection : ConnectionKey) (exchange : ExchangeId)
  | sendOnChannel (channel : ChannelId) (exchange : ExchangeId)

/-- What it comes to. -/
def Touch.happening : Touch → Happening
  | .hears id event => .event id event
  | .abort target error => .aborted target error
  | .send key target => .sent key target
  | .sendOnChannel id target => .sentOn id target

/-- A channel that heard an event: it is over if that was the last. -/
def Channel.hear (event : StreamEvent) (channel : Channel) : Channel :=
  if event.isLast then (channel.absorb event).retire else channel.absorb event

/-- A connection of which a channel heard an event. -/
def Connection.lose (event : StreamEvent) (id : ChannelId) (connection : Connection) :
    Connection :=
  if event.isLast then connection.drop id else connection

/-- An exchange that gets an outcome, if there is one. -/
def Exchange.receive (outcome? : Option Outcome) (exchange : Exchange) : Exchange :=
  match outcome? with
  | some outcome => exchange.resolve outcome
  | none => exchange

theorem Connection.lose_right_comm (connection : Connection) (event following : StreamEvent)
    (id place : ChannelId) :
    (connection.lose event id).lose following place =
      (connection.lose following place).lose event id := by
  have hdrop : (connection.drop id).drop place = (connection.drop place).drop id := by
    simp only [drop, List.filter_filter, Bool.and_comm]
  unfold lose
  split
  · split
    · exact hdrop
    · rfl
  · rfl

theorem Connection.contains_live_lose (connection : Connection) (event : StreamEvent)
    {id place : ChannelId} (hne : place ≠ id) :
    (connection.lose event id).live.contains place = connection.live.contains place := by
  rw [Bool.eq_iff_iff, List.contains_iff_mem, List.contains_iff_mem]
  unfold lose
  split
  · rw [mem_live_drop, and_iff_left hne]
  · rfl

@[simp] theorem Connection.destination_lose (connection : Connection) (event : StreamEvent)
    (id : ChannelId) : (connection.lose event id).destination = connection.destination := by
  unfold lose
  split <;> rfl

private theorem Pool.tally_right_comm (pool : Pool) (count more : Nat) :
    (pool.tally count).tally more = (pool.tally more).tally count := by
  simp only [tally, Nat.add_right_comm]

namespace Network

variable {α : Type} {network first second third : Network α} {key other : ConnectionKey}
  {id place : ChannelId} {target : ExchangeId} {concerned : Option ExchangeId}
  {event following : StreamEvent}

/-- It can be told whether a connection lists a channel. -/
instance (network : Network α) (key : ConnectionKey) (id : ChannelId) :
    Decidable (network.Registered key id) :=
  decidable_of_iff ((network.connection? key).any fun found => found.live.contains id) (by
    simp [Registered, Option.any_eq_true])

/-! ## What is done to one exchange -/

/-- The exchange that a channel names. -/
def slot? (network : Network α) (id : ChannelId) : Option ExchangeId :=
  (network.channel? id).bind Channel.exchange

/-- Does something to one exchange or channel.  Without the handles that it needs nothing is
done. -/
def touch (answer : Answering α) (network : Network α) : Touch → Network α
  | .hears id event => network.channelHears quiet id event
  | .abort target error =>
    if network.holds target then (network.abort quiet target error).1 else network
  | .send key target =>
    if network.holds target then (network.send (answering answer) key target).1 else network
  | .sendOnChannel id target =>
    if (network.channel? id).any Channel.isHeld && network.holds target then
      (network.sendOnChannel (answering answer) id target).1
    else network

/-- The exchange to which something is done. -/
def concerned? (network : Network α) : Touch → Option ExchangeId
  | .hears id _ => network.slot? id
  | .abort target _ | .send _ target | .sendOnChannel _ target => some target

/-- In the second network only one exchange of the first may be another.  Every other exchange is
as it was, a registered channel of another exchange is as it was and where it was, and no
connection has changed its status. -/
structure Contained (first second : Network α) (concerned : Option ExchangeId) : Prop where
  exchange? : ∀ {target}, some target ≠ concerned →
    second.exchange? target = first.exchange? target
  registered : ∀ {key id}, first.Registered key id → first.slot? id ≠ concerned →
    second.Registered key id ∧ second.channel? id = first.channel? id
  status : ∀ key, (second.connection? key).map Connection.status =
    (first.connection? key).map Connection.status

namespace Contained

theorem refl (network : Network α) (concerned : Option ExchangeId) :
    Contained network network concerned :=
  ⟨fun _ => rfl, fun hregistered _ => ⟨hregistered, rfl⟩, fun _ => rfl⟩

/-- It makes no difference where sessions and pools were changed before. -/
theorem of_frame (hcontained : Contained second third concerned)
    (hexchange : second.exchange? = first.exchange?) (hchannel : second.channel? = first.channel?)
    (hconnection : second.connection? = first.connection?) :
    Contained first third concerned where
  exchange? hne := by rw [hcontained.exchange? hne, hexchange]
  registered := by
    rintro key id ⟨connection, hthere, hlive⟩ hslot
    rw [← hchannel]
    refine hcontained.registered ⟨connection, by rwa [hconnection], hlive⟩ ?_
    rwa [slot?, hchannel]
  status key := by rw [hcontained.status, hconnection]

theorem of_connection? (hconnection : second.connection? = first.connection?)
    (hexchange : ∀ {target}, some target ≠ concerned →
      second.exchange? target = first.exchange? target)
    (hchannel : ∀ {key id}, first.Registered key id → first.slot? id ≠ concerned →
      second.channel? id = first.channel? id) : Contained first second concerned where
  exchange? := hexchange
  registered := by
    rintro key id hregistered hslot
    refine ⟨?_, hchannel hregistered hslot⟩
    obtain ⟨connection, hthere, hlive⟩ := hregistered
    exact ⟨connection, by rwa [hconnection], hlive⟩
  status key := by rw [hconnection]

end Contained

theorem Stops.contained {change : ExchangeId → Exchange → Exchange} {mark : Channel → Channel}
    (hstops : Stops first second id change mark)
    (hexchange : ∀ {target}, some target ≠ concerned → ∀ found, change target found = found)
    (hslot : ∀ {key}, first.Registered key id → first.slot? id = concerned) :
    Contained first second concerned where
  exchange? hne := by
    rw [hstops.exchange?, funext (hexchange hne)]
    exact Option.map_id'
  registered := by
    rintro key place hregistered hother
    have hne : place ≠ id := by
      rintro rfl
      exact hother (hslot hregistered)
    obtain ⟨connection, hconnection, hlive⟩ := hregistered
    refine ⟨⟨connection.drop id, ?_, Connection.mem_live_drop.mpr ⟨hlive, hne⟩⟩, ?_⟩
    · rw [hstops.connection?, hconnection, Option.map_some]
    · rw [hstops.channel?, if_neg hne]
  status key := by
    rw [hstops.connection?, Option.map_map]
    rfl

theorem Handles.contained {change : Channel → Channel} {binding : Option ChannelId}
    (hhandles : Handles first second id target change binding)
    (hnot : ∀ key, ¬ first.Registered key id) : Contained first second (some target) := by
  refine .of_connection? hhandles.connection? (fun hne => ?_) fun hregistered _ => ?_
  · rw [hhandles.exchange?, if_neg fun heq => hne (congrArg some heq)]
  · rw [hhandles.channel?, if_neg]
    rintro rfl
    exact hnot _ hregistered

theorem Undispatched.contained (hundispatched : Undispatched first second target)
    (hcoherent : Coherent first) : Contained first second (some target) := by
  refine .of_connection? hundispatched.connection? (fun hne => ?_) fun hregistered _ => ?_
  · rcases hundispatched.exchange _ with hsame | ⟨heq, -⟩
    · exact hsame
    · exact absurd (congrArg some heq) hne
  · obtain ⟨channel, hchannel⟩ := hcoherent.exists_channel hregistered
    rw [hundispatched.channel_after hchannel, hchannel]

theorem Dispatched.contained {connection : Connection} {exchange : Exchange} {stream : StreamId}
    (hdispatched : Dispatched first second key connection target exchange stream)
    (hcoherent : Coherent first) (hconnection : first.connection? key = some connection) :
    Contained first second (some target) where
  exchange? hne := by
    rw [hdispatched.exchange?, if_neg fun heq => hne (congrArg some heq)]
  registered := by
    rintro other id hregistered -
    refine ⟨?_, ?_⟩
    · obtain ⟨found, hfound, hlive⟩ := hregistered
      by_cases heq : other = key
      · obtain rfl := Option.some.inj (hconnection.symm.trans (heq ▸ hfound))
        refine ⟨connection.register first.nextChannel, ?_, List.mem_append_left _ hlive⟩
        rw [hdispatched.connection?, if_pos heq]
      · exact ⟨found, by rw [hdispatched.connection?, if_neg heq, hfound], hlive⟩
    · rw [hdispatched.channel?, if_neg (hcoherent.ne_nextChannel hregistered)]
  status other := by
    rw [hdispatched.connection?]
    split
    next heq =>
      rw [heq, hconnection]
      rfl
    next => rfl

theorem Brings.contained (hsound : Sound first) (touch : Touch)
    (hstep : Brings first touch.happening second) :
    Contained first second (first.concerned? touch) := by
  cases touch with
  | hears id event =>
      cases hstep with
      | unheard => exact .refl first _
      | absorbed hchannel =>
          refine .of_connection? rfl (fun _ => rfl) fun _ hslot => ?_
          rw [channel?_modifyChannel, if_neg]
          rintro rfl
          exact hslot rfl
      | reported hchannel _ hstops =>
          refine hstops.contained (fun hne found => if_neg fun hcarried => hne ?_) fun _ => rfl
          obtain ⟨channel, hfound, -, hcarries, -⟩ := carried?_eq_some.mp hcarried
          rw [concerned?, slot?, hfound, Option.bind_some, hcarries]
  | abort target error =>
      cases hstep with
      | decided => exact .refl first _
      | withdrawn =>
          refine .of_connection? rfl (fun hne => ?_) fun _ _ => rfl
          rw [exchange?_modifyExchange, if_neg fun heq => hne (congrArg some heq)]
      | cancelled hexchange _ _ hbinding hstops =>
          refine hstops.contained (fun hne _ => if_neg fun heq => hne (congrArg some heq)) ?_
          -- The channel carries the exchange that is bound to it.
          intro key hregistered
          obtain ⟨channel, hchannel, hcarries⟩ := hsound.coherent.bound hexchange hbinding
          rw [slot?, hchannel, Option.bind_some, hcarries ⟨key, hregistered⟩]
          rfl
  | send key target =>
      cases hstep with
      | undispatched _ hundispatched => exact hundispatched.contained hsound.coherent
      | dispatched _ hconnection _ _ hdispatched =>
          exact hdispatched.contained hsound.coherent hconnection
  | sendOnChannel id target =>
      cases hstep with
      | unsent => exact .refl first _
      | givenUp hchannel hheld _ _ hhandles =>
          exact hhandles.contained (not_registered_of_isHeld hsound.coherent hchannel hheld)
      | sentOn hchannel hheld _ _ _ _ _ hhandles =>
          exact hhandles.contained (not_registered_of_isHeld hsound.coherent hchannel hheld)

private theorem Sound.contained_touch (hsound : Sound network) (answer : Answering α)
    (touch : Touch) :
    Contained network (network.touch answer touch) (network.concerned? touch) := by
  cases touch with
  | hears id event =>
      exact Brings.contained hsound (.hears id event) (brings_event hsound id event)
  | abort target error =>
      simp only [Network.touch]
      split
      next hheld =>
        exact Brings.contained hsound (.abort target error) (brings_abort hsound hheld error)
      next => exact .refl network _
  | send key target =>
      have hquiet : ∀ {ready : Network α}, Sound ready → ready.holds target = true →
          Contained ready (ready.send quiet key target).1 (some target) := fun hready hkept =>
        Brings.contained hready (.send key target) (brings_send hready hkept key)
      simp only [Network.touch]
      split
      next hheld =>
        rcases send_answering network answer key target with hsame | ⟨connection, -, hsame⟩
        · rw [hsame]
          exact hquiet hsound hheld
        · obtain ⟨hexchange, hchannel, hconnection, -⟩ :=
            decided_frame network answer connection.session
          rw [hsame]
          refine (hquiet (hsound.decided answer connection.session) ?_).of_frame hexchange hchannel
            hconnection
          rwa [holds, hexchange]
      next => exact .refl network _
  | sendOnChannel id target =>
      have hquiet : ∀ {ready : Network α} {channel}, Sound ready →
          ready.channel? id = some channel → channel.isHeld = true → ready.holds target = true →
          Contained ready (ready.sendOnChannel quiet id target).1 (some target) :=
        fun hready hchannel hfree hkept => Brings.contained hready (.sendOnChannel id target)
          (brings_sendOn hchannel hfree hkept)
      simp only [Network.touch]
      split
      next hboth =>
        obtain ⟨hfree, hheld⟩ := Bool.and_eq_true_iff.mp hboth
        obtain ⟨channel, hthere, hfree⟩ := (Option.any_eq_true ..).mp hfree
        rcases sendOnChannel_answering hthere answer target with hsame | hsame
        · rw [hsame]
          exact hquiet hsound hthere hfree hheld
        · obtain ⟨hexchange, hchannel, hconnection, -⟩ :=
            decided_frame network answer channel.session
          rw [hsame]
          refine (hquiet (hsound.decided answer channel.session) ?_ hfree ?_).of_frame hexchange
            hchannel hconnection
          · rwa [hchannel]
          · rwa [holds, hexchange]
      next => exact .refl network _

private theorem takeBack_of_unregistered (hnot : ¬ network.Registered key id) :
    network.takeBack quiet key id = network := by
  unfold takeBack
  split
  · rfl
  next connection hconnection =>
    have hmem : id ∉ connection.live := fun hmem => hnot ⟨connection, hconnection, hmem⟩
    rw [if_neg (by simpa using hmem)]

/-! ## What is done to one connection -/

/-- In the second network a connection of the first may be another, and what it had under way
with it.  The channels that it does not list are as they were, and so are the exchanges that none
of its channels names; the other connections are as they were, with their channels and the
exchanges that these name. -/
structure Elsewhere (first second : Network α) (key : ConnectionKey) : Prop where
  connection? : ∀ {other}, other ≠ key → second.connection? other = first.connection? other
  channel? : ∀ {id}, ¬ first.Registered key id → second.channel? id = first.channel? id
  exchange? : ∀ {target}, (∀ id, first.Registered key id → first.slot? id ≠ some target) →
    second.exchange? target = first.exchange? target
  registered : ∀ {other id}, other ≠ key → first.Registered other id →
    second.Registered other id ∧ second.channel? id = first.channel? id
  named : ∀ {other id target}, other ≠ key → first.Registered other id →
    first.slot? id = some target → second.exchange? target = first.exchange? target

theorem Elsewhere.refl (network : Network α) (key : ConnectionKey) :
    Elsewhere network network key :=
  ⟨fun _ => rfl, fun _ => rfl, fun _ => rfl, fun _ hregistered => ⟨hregistered, rfl⟩,
    fun _ _ _ => rfl⟩

theorem slot?_eq_some : network.slot? id = some target ↔
    ∃ channel, network.channel? id = some channel ∧ channel.exchange = some target :=
  Option.bind_eq_some_iff

theorem Closes.elsewhere {connection : Connection} {reason : CloseReason}
    (hcloses : Closes first second key connection reason) (hcoherent : Coherent first)
    (hconnection : first.connection? key = some connection) : Elsewhere first second key := by
  have hchannel : ∀ {id}, ¬ first.Registered key id → second.channel? id = first.channel? id :=
    fun hnot => by rw [hcloses.channel?, if_neg fun hlive => hnot ⟨connection, hconnection, hlive⟩]
  have hcarrying : ∀ {target}, target ∈ first.liveExchanges connection →
      ∃ id, first.Registered key id ∧ first.carried? id = some target := by
    intro target hmem
    obtain ⟨id, hlive, hcarried⟩ := List.mem_filterMap.mp hmem
    exact ⟨id, ⟨connection, hconnection, hlive⟩, hcarried⟩
  have hthere : ∀ {other}, other ≠ key → second.connection? other = first.connection? other :=
    fun hne => by rw [hcloses.connection?, if_neg hne]
  refine ⟨hthere, hchannel, fun hnot => ?_, fun hne hregistered => ⟨?_, ?_⟩,
    fun hne hregistered hslot => ?_⟩
  · rw [hcloses.exchange?, if_neg]
    intro hmem
    obtain ⟨id, hregistered, hcarried⟩ := hcarrying hmem
    obtain ⟨channel, hfound, -, hcarries, -⟩ := carried?_eq_some.mp hcarried
    exact hnot id hregistered (slot?_eq_some.mpr ⟨channel, hfound, hcarries⟩)
  · obtain ⟨found, hfound, hlive⟩ := hregistered
    exact ⟨found, by rw [hthere hne, hfound], hlive⟩
  · exact hchannel fun hmine => hne (hcoherent.listed_once hregistered hmine)
  · rw [hcloses.exchange?, if_neg]
    intro hmem
    obtain ⟨place, hmine, hcarried⟩ := hcarrying hmem
    obtain ⟨channel, hfound, hcarries⟩ := slot?_eq_some.mp hslot
    obtain rfl := hcoherent.carried_once hcarried hregistered hfound hcarries
    exact hne (hcoherent.listed_once hregistered hmine)

private theorem Sound.elsewhere_close (hsound : Sound network) (key : ConnectionKey)
    (reason : CloseReason) : Elsewhere network (network.close quiet key reason).1 key := by
  cases hopen : network.isOpen key with
  | false =>
      rw [close_of_not_open hopen]
      exact .refl network key
  | true =>
      obtain ⟨connection, hconnection, hnot⟩ := isOpen_iff.mp hopen
      obtain ⟨second, hclose, hcloses⟩ :=
        closes_of_open hsound.coherent hsound.housed hconnection hnot reason
      rw [hclose]
      exact hcloses.elsewhere hsound.coherent hconnection

/-! ## Two channels hear of their streams -/

/-- A network without its trace. -/
def untraced (network : Network α) : Network α := { network with trace := #[] }

/-- Two networks are the same, but what was noticed since the first of three comes in another
order. -/
structure Swapped (before left right : Network α) : Prop where
  same : left.untraced = right.untraced
  notices : ∃ notices others, left.trace.toList = before.trace.toList ++ notices ++ others ∧
    right.trace.toList = before.trace.toList ++ others ++ notices

/-- Networks in which the same is found, and which have the same surroundings, differ in their
traces at most. -/
private theorem untraced_eq (hexchange : first.exchange? = second.exchange?)
    (hchannel : first.channel? = second.channel?)
    (hconnection : first.connection? = second.connection?)
    (hsession : first.session? = second.session?) (hpool : first.pool? = second.pool?)
    (hambience : first.ambience = second.ambience) : first.untraced = second.untraced := by
  obtain ⟨exchanges, channels, connections, sessions, pools, clock, tickets, trace, memory⟩ := first
  obtain rfl := Table.ext_of_get? fun number => congrFun hexchange ⟨number⟩
  obtain rfl := Table.ext_of_get? fun number => congrFun hchannel ⟨number⟩
  obtain rfl := Table.ext_of_get? fun number => congrFun hconnection ⟨number⟩
  obtain rfl := Table.ext_of_get? fun number => congrFun hsession ⟨number⟩
  obtain rfl := Table.ext_of_get? fun number => congrFun hpool ⟨number⟩
  obtain ⟨rfl, hrest⟩ := Prod.mk.inj hambience
  obtain ⟨rfl, rfl⟩ := Prod.mk.inj hrest
  rfl

/-- The outcome that an event brings for an exchange, if it brings one. -/
def brought? (network : Network α) (id : ChannelId) (event : StreamEvent) (target : ExchangeId) :
    Option Outcome :=
  if network.carried? id = some target then
    (network.channel? id).bind fun channel => channel.verdict? event
  else none

/-- What is noticed when a channel hears an event. -/
def hearingNotices (network : Network α) (id : ChannelId) (event : StreamEvent) : List Notice :=
  if event.isLast then network.partingNotices id none else []

/-- In the second network a channel of the first has heard an event, and this is all. -/
structure Hears (first second : Network α) (id : ChannelId) (event : StreamEvent) : Prop where
  exchange? : ∀ target, second.exchange? target =
    (first.exchange? target).map (Exchange.receive (first.brought? id event target))
  channel? : ∀ place, second.channel? place =
    if place = id then (first.channel? place).map (Channel.hear event) else first.channel? place
  connection? : ∀ key, second.connection? key =
    (first.connection? key).map (Connection.lose event id)
  session? : second.session? = first.session?
  pool? : ∀ place, second.pool? place = (first.pool? place).map fun pool =>
    pool.tally (event.isLast && first.listedIn place id).toNat
  ambience : second.ambience = first.ambience
  trace : second.trace.toList = first.trace.toList ++ first.hearingNotices id event

private theorem session?_channelHears (network : Network α) (id : ChannelId) (event : StreamEvent) :
    (network.channelHears quiet id event).session? = network.session? := by
  have hrelease : ∀ ready : Network α, (ready.releaseChannel quiet id none).session? =
      ready.session? := by
    intro ready
    cases hchannel : ready.channel? id with
    | none => simp only [releaseChannel, hchannel]
    | some channel =>
        cases hreleased : channel.released with
        | true => rw [releaseChannel_of_released hchannel hreleased]
        | false =>
            -- Without a code no stream is reset.
            rw [session?_releaseChannel hchannel hreleased]
            rfl
  cases hchannel : network.channel? id with
  | none => rw [channelHears_of_none hchannel]
  | some channel =>
      cases hverdict : channel.verdict? event with
      | none =>
          rw [channelHears_of_open hverdict]
          rfl
      | some outcome =>
          obtain ⟨-, -, hsession, -⟩ := (network.modifyChannel id
            (Channel.absorb event)).resolveCarried_frame id outcome
          rw [channelHears_of_last hchannel hverdict, hrelease, hsession]
          rfl

private theorem ambience_channelHears (network : Network α) (id : ChannelId) (event : StreamEvent) :
    (network.channelHears quiet id event).ambience = network.ambience := by
  cases hchannel : network.channel? id with
  | none => rw [channelHears_of_none hchannel]
  | some channel =>
      cases hverdict : channel.verdict? event with
      | none =>
          rw [channelHears_of_open hverdict]
          rfl
      | some outcome =>
          rw [channelHears_of_last hchannel hverdict, ambience_releaseChannel]
          unfold resolveCarried
          split <;> rfl

theorem hears_of_channel (hsound : Sound network) (hstocked : Stocked network)
    (hthere : (network.channel? id).isSome = true) (event : StreamEvent) :
    Hears network (network.channelHears quiet id event) id event := by
  have hsession := session?_channelHears network id event
  have hpool := pool?_channelHears hsound hstocked id event
  have hambience := ambience_channelHears network id event
  have hbrings := brings_event hsound id event
  generalize network.channelHears quiet id event = second at hsession hpool hambience hbrings
  cases hbrings with
  | unheard hnone => simp [hnone] at hthere
  | @absorbed _ _ channel hchannel hverdict =>
      have hlast : event.isLast = false := by rw [← channel.isSome_verdict?, hverdict]; rfl
      have hnone : ∀ target, network.brought? id event target = none := fun target => by
        rw [brought?, hchannel, Option.bind_some, hverdict, ite_self]
      have hhear : Channel.hear event = Channel.absorb event :=
        funext fun found => by simp [Channel.hear, hlast]
      have hlose : Connection.lose event id = fun found => found :=
        funext fun found => by simp [Connection.lose, hlast]
      refine ⟨fun target => ?_, fun place => ?_, fun key => ?_, hsession, hpool, hambience, ?_⟩
      · rw [hnone]
        exact Option.map_id'.symm
      · rw [hhear]
        exact channel?_modifyChannel ..
      · rw [hlose]
        exact Option.map_id'.symm
      · simp [hearingNotices, hlast, modifyChannel]
  | @reported _ _ channel outcome _ hchannel hverdict hstops _ htrace =>
      have hlast : event.isLast = true := by rw [← channel.isSome_verdict?, hverdict]; rfl
      have hhear : Channel.hear event = fun found => (found.absorb event).retire :=
        funext fun found => by simp [Channel.hear, hlast]
      have hlose : Connection.lose event id = fun found => found.drop id :=
        funext fun found => by simp [Connection.lose, hlast]
      refine ⟨fun target => ?_, fun place => ?_, fun key => ?_, hsession, hpool, hambience, ?_⟩
      · rw [hstops.exchange?]
        congr 1
        funext found
        rw [brought?, hchannel, Option.bind_some, hverdict]
        split <;> rfl
      · rw [hstops.channel?, hhear]
      · rw [hstops.connection?, hlose]
      · rw [htrace, hearingNotices, if_pos hlast]

section Apart

variable (hhears : Hears first second id event) (hne : place ≠ id)
include hhears

/-- What does not ask whether a connection lists the channel has the same answer. -/
theorem Hears.any_connection? (test : Connection → Bool)
    (htest : ∀ connection : Connection, test (connection.lose event id) = test connection)
    (key : ConnectionKey) :
    (second.connection? key).any test = (first.connection? key).any test := by
  rw [hhears.connection?]
  cases first.connection? key with
  | none => rfl
  | some connection => exact htest connection

include hne

theorem Hears.carried?_apart : second.carried? place = first.carried? place := by
  refine carried?_congr ?_ fun target => ?_
  · rw [hhears.channel?, if_neg hne]
  · rw [hhears.exchange?]
    cases first.exchange? target with
    | none => rfl
    | some exchange =>
        rw [Option.map_some, Option.any_some, Option.any_some]
        unfold Exchange.receive
        split <;> rfl

theorem Hears.brought?_apart (following : StreamEvent) (target : ExchangeId) :
    second.brought? place following target = first.brought? place following target := by
  rw [brought?, hhears.carried?_apart hne, hhears.channel?, if_neg hne]
  rfl

theorem Hears.listedIn_apart (pool : PoolKey) :
    second.listedIn pool place = first.listedIn pool place := by
  have hany := hhears.any_connection? (fun connection =>
    connection.live.contains place && decide (connection.destination = .pool pool))
    fun connection => by
      rw [connection.contains_live_lose event hne, Connection.destination_lose]
  unfold listedIn
  rw [hhears.channel?, if_neg hne]
  simp only [hany]

theorem Hears.hearingNotices_apart (following : StreamEvent) :
    second.hearingNotices place following = first.hearingNotices place following := by
  have hlists := hhears.any_connection? (fun connection => connection.live.contains place)
    fun connection => connection.contains_live_lose event hne
  have hgoes := hhears.any_connection? (fun connection => connection.destination != .gone)
    fun connection => by rw [Connection.destination_lose]
  have hreset : ∀ (network : Network α) (channel : Channel),
      network.resetNotices channel none = [] := fun _ _ => rfl
  unfold hearingNotices partingNotices releaseNotices
  rw [hhears.channel?, if_neg hne]
  simp only [hreset, hlists, hgoes]

end Apart

/-- Two registered channels do not carry the same exchange, so one event at most brings an
outcome for it. -/
private theorem brought?_once (hcoherent : Coherent network)
    (hregistered : network.Registered other place)
    (hne : place ≠ id) (event following : StreamEvent) (target : ExchangeId) :
    network.brought? id event target = none ∨ network.brought? place following target = none := by
  by_cases hcarried : network.carried? id = some target
  · refine .inr (if_neg fun hcarries => hne ?_)
    obtain ⟨channel, hchannel, -, hslot, -⟩ := carried?_eq_some.mp hcarries
    exact hcoherent.carried_once hcarried hregistered hchannel hslot
  · exact .inl (if_neg hcarried)

/-- Two channels hear of their streams in either order. -/
theorem Hears.swap {left right : Network α} (hcoherent : Coherent network)
    (hregistered : network.Registered other place) (hne : place ≠ id)
    (hone : Hears network first id event) (htwo : Hears first second place following)
    (hone' : Hears network left place following) (htwo' : Hears left right id event) :
    Swapped network second right := by
  refine ⟨untraced_eq ?_ ?_ ?_ ?_ ?_ ?_, network.hearingNotices id event,
    network.hearingNotices place following, ?_, ?_⟩
  · funext target
    rw [htwo.exchange?, hone.exchange?, htwo'.exchange?, hone'.exchange?,
      hone.brought?_apart hne, hone'.brought?_apart hne.symm, Option.map_map, Option.map_map]
    congr 1
    funext exchange
    rcases brought?_once hcoherent hregistered hne event following target with hnone | hnone
    · rw [hnone]
      rfl
    · rw [hnone]
      rfl
  · funext channel
    rw [htwo.channel?, hone.channel?, htwo'.channel?, hone'.channel?]
    by_cases hplace : channel = place
    · rw [if_pos hplace, if_pos hplace, if_neg (hplace ▸ hne), if_neg (hplace ▸ hne)]
    · rw [if_neg hplace, if_neg hplace]
  · funext key
    rw [htwo.connection?, hone.connection?, htwo'.connection?, hone'.connection?, Option.map_map,
      Option.map_map]
    congr 1
    funext connection
    exact connection.lose_right_comm event following id place
  · rw [htwo.session?, hone.session?, htwo'.session?, hone'.session?]
  · funext pool
    rw [htwo.pool?, hone.pool?, htwo'.pool?, hone'.pool?, hone.listedIn_apart hne,
      hone'.listedIn_apart hne.symm, Option.map_map, Option.map_map]
    congr 1
    funext found
    exact found.tally_right_comm _ _
  · rw [htwo.ambience, hone.ambience, htwo'.ambience, hone'.ambience]
  · rw [htwo.trace, hone.trace, hone.hearingNotices_apart hne]
  · rw [htwo'.trace, hone'.trace, hone'.hearingNotices_apart hne.symm]

private theorem Sound.swapped (hsound : Sound network) (hstocked : Stocked network)
    (hregistered : network.Registered key id) (hother : network.Registered other place)
    (hne : place ≠ id) (event following : StreamEvent) :
    Swapped network ((network.channelHears quiet id event).channelHears quiet place following)
      ((network.channelHears quiet place following).channelHears quiet id event) := by
  have hthere := Option.isSome_iff_exists.mpr (hsound.coherent.exists_channel hregistered)
  have hthere' := Option.isSome_iff_exists.mpr (hsound.coherent.exists_channel hother)
  have hone := hears_of_channel hsound hstocked hthere event
  have hone' := hears_of_channel hsound hstocked hthere' following
  have hstays : (network.channelHears quiet id event).channel? place = network.channel? place := by
    rw [hone.channel?, if_neg hne]
  have hstays' :
      (network.channelHears quiet place following).channel? id = network.channel? id := by
    rw [hone'.channel?, if_neg hne.symm]
  exact hone.swap hsound.coherent hother hne
    (hears_of_channel (hsound.undergo (.hears (.channel id) event))
      (hstocked.undergo hsound (.hears (.channel id) event))
      ((congrArg Option.isSome hstays).trans hthere') following) hone'
    (hears_of_channel (hsound.undergo (.hears (.channel place) following))
      (hstocked.undergo hsound (.hears (.channel place) following))
      ((congrArg Option.isSome hstays').trans hthere) event)

/-! ## All of it -/

/-- In every network that dealings lead to, what is done to one exchange or channel leaves every
other exchange as it is, its channel as it is and where it is, and every connection with its
status.  To release a channel that is not registered does nothing at all.  To close a connection
does not reach another one.  And two channels that are registered hear of their streams in either
order, but for the order of the notices. -/
theorem touch_is_contained (surroundings : α) (answer : Answering α) (dealings : List Dealing)
    (hreached : network = (blank surroundings).deals answer dealings) :
    (∀ touch, Contained network (network.touch answer touch) (network.concerned? touch)) ∧
      (∀ key id, ¬ network.Registered key id → network.takeBack quiet key id = network) ∧
      (∀ key reason, Elsewhere network (network.close quiet key reason).1 key) ∧
      ∀ key other id place event following, network.Registered key id →
        network.Registered other place → place ≠ id →
        Swapped network ((network.channelHears quiet id event).channelHears quiet place following)
          ((network.channelHears quiet place following).channelHears quiet id event) := by
  have hsound : Sound network := hreached ▸ (sound_blank surroundings).deals answer dealings
  have hstocked : Stocked network := hreached ▸
    (stocked_blank surroundings).deals (sound_blank surroundings) answer dealings
  exact ⟨hsound.contained_touch answer, fun _ _ => takeBack_of_unregistered,
    hsound.elsewhere_close, fun _ _ _ _ event following hregistered hother hne =>
      hsound.swapped hstocked hregistered hother hne event following⟩

/-- The two channels of a full connection hear their last events in either order. -/
theorem full_connection_hears_in_either_order :
    let network := (blank ()).deals steadfast crowdedDealings
    let left := (network.channelHears quiet ⟨1⟩ (.data [] true)).channelHears quiet ⟨2⟩
      (.reset .cancel)
    let right := (network.channelHears quiet ⟨2⟩ (.reset .cancel)).channelHears quiet ⟨1⟩
      (.data [] true)
    network.Registered ⟨1⟩ ⟨1⟩ ∧ network.Registered ⟨1⟩ ⟨2⟩ ∧ Swapped network left right ∧
      left.outcome? ⟨1⟩ = some (.error Channel.headless) ∧
      left.outcome? ⟨2⟩ = some (.error (.reset .cancel)) := by
  intro network left right
  have hfirst : network.Registered ⟨1⟩ ⟨1⟩ := by decide +kernel
  have hsecond : network.Registered ⟨1⟩ ⟨2⟩ := by decide +kernel
  obtain ⟨-, -, -, hswapped⟩ := touch_is_contained () steadfast crowdedDealings rfl
  exact ⟨hfirst, hsecond, hswapped ⟨1⟩ ⟨1⟩ ⟨1⟩ ⟨2⟩ _ _ hfirst hsecond (by decide),
    by decide +kernel, by decide +kernel⟩

end Network

end Multiplex
