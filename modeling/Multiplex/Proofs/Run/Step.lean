import Multiplex.Proofs.Network.Ends
import Multiplex.Proofs.Network.Sends
import Multiplex.Proofs.Network.Upkeep

/-!
# What a step does

`Brings` lists everything that can come of an operation on exchanges under way, together
with what is noticed of it.  Operations that come to nothing are upkeep, so `Brings` and
`Calm` together say all that an operation can do.  No later file looks into the operations
themselves.

From this it follows that every step keeps a network sound, and by induction that every run
does.
-/

namespace Multiplex.Network

variable {α : Type} {first second network : Network α}

/-! ## Partings -/

/-- What is noticed when a channel is released: by the session, if there is a stream to
reset, and by the destination, if the connection lists the channel. -/
def partingNotices (network : Network α) (id : ChannelId) (code : Option ErrorCode) :
    List Notice :=
  match network.channel? id with
  | none => []
  | some channel =>
    if channel.released then [] else
      network.resetNotices channel code ++
        match channel.owner with
        | none => []
        | some key =>
          if (network.connection? key).any fun found => found.live.contains id then
            network.releaseNotices key
          else []

section Partings

variable {id : ChannelId} {channel : Channel} {code : Option ErrorCode}

theorem partingNotices_of_registered {key : ConnectionKey}
    (hchannel : network.channel? id = some channel) (hreleased : channel.released = false)
    (howner : channel.owner = some key) (hregistered : network.Registered key id) :
    network.partingNotices id code =
      network.resetNotices channel code ++ network.releaseNotices key := by
  obtain ⟨connection, hconnection, hlive⟩ := hregistered
  simp [partingNotices, hchannel, hreleased, howner, hconnection, hlive]

theorem partingNotices_of_unregistered (hchannel : network.channel? id = some channel)
    (hreleased : channel.released = false) (hnot : ∀ key, ¬ network.Registered key id) :
    network.partingNotices id code = network.resetNotices channel code := by
  simp only [partingNotices, hchannel, hreleased, Bool.false_eq_true, if_false]
  cases channel.owner with
  | none => simp
  | some key =>
      have hany : ((network.connection? key).any fun found => found.live.contains id) = false := by
        cases hconnection : network.connection? key with
        | none => rfl
        | some connection =>
            have hmem : id ∉ connection.live := fun hmem => hnot key ⟨connection, hconnection, hmem⟩
            simpa using hmem
      simp only [hany, Bool.false_eq_true, if_false, List.append_nil]

theorem trace_releaseChannel (hhome : network.AtHome id)
    (hopen : ∀ {key connection}, network.connection? key = some connection →
      id ∈ connection.live → connection.isClosed = false) :
    (network.releaseChannel quiet id code).trace.toList =
      network.trace.toList ++ network.partingNotices id code := by
  cases hchannel : network.channel? id with
  | none => simp [releaseChannel, partingNotices, hchannel]
  | some channel =>
      cases hreleased : channel.released with
      | true =>
          rw [releaseChannel_of_released hchannel hreleased]
          simp [partingNotices, hchannel, hreleased]
      | false =>
          by_cases hregistered : ∃ key, network.Registered key id
          · obtain ⟨key, hregistered⟩ := hregistered
            obtain ⟨same, hsame, -, howner, halive⟩ := hhome key hregistered
            obtain rfl := Option.some.inj (hchannel.symm.trans hsame)
            rw [partingNotices_of_registered hchannel hreleased howner hregistered]
            obtain ⟨connection, hconnection, hlive⟩ := hregistered
            rw [trace_releaseChannel_of_registered hconnection hlive (hopen hconnection hlive)
              hchannel hreleased howner halive, List.append_assoc]
          · have hnot : ∀ key, ¬ network.Registered key id :=
              fun key hmem => hregistered ⟨key, hmem⟩
            rw [trace_releaseChannel_of_unregistered hnot hchannel hreleased,
              partingNotices_of_unregistered hchannel hreleased hnot]

/-- A parting is noticed alike in networks that agree on the connections and sessions, and
on what matters of the channel. -/
theorem partingNotices_congr {mark : Channel → Channel}
    (hmark : ∀ found : Channel, (mark found).released = found.released ∧
      (mark found).owner = found.owner ∧ (mark found).session = found.session ∧
      (mark found).stream = found.stream)
    (hchannel : second.channel? id = (first.channel? id).map mark)
    (hconnection : second.connection? = first.connection?)
    (hsession : second.session? = first.session?) :
    second.partingNotices id code = first.partingNotices id code := by
  have hrelease : ∀ key, second.releaseNotices key = first.releaseNotices key := fun key => by
    simp only [releaseNotices, hconnection]
  unfold partingNotices
  rw [hchannel]
  cases first.channel? id with
  | none => rfl
  | some found =>
      obtain ⟨hreleased, howner, hplace, hstream⟩ := hmark found
      simp only [Option.map_some, hreleased, howner, hconnection, hrelease, resetNotices, hplace,
        hstream, hsession]

end Partings

/-! ## Steps -/

/-- What can come of a happening. -/
inductive Brings (first : Network α) : Happening → Network α → Prop
  /-- An event reaches no channel. -/
  | unheard {id : ChannelId} {event : StreamEvent} :
      first.channel? id = none → Brings first (.event id event) first
  /-- A channel takes in an event that is not its last. -/
  | absorbed {id : ChannelId} {event : StreamEvent} {channel : Channel} :
      first.channel? id = some channel → channel.verdict? event = none →
      Brings first (.event id event) (first.modifyChannel id (Channel.absorb event))
  /-- The last event of a channel brings the outcome. -/
  | reported {id : ChannelId} {event : StreamEvent} {channel : Channel} {outcome : Outcome}
      {second : Network α} :
      first.channel? id = some channel → channel.verdict? event = some outcome →
      Stops first second id (fun target found =>
        if first.carried? id = some target then found.resolve outcome else found)
        (Channel.absorb event) →
      Ends first second (· = id) →
      second.trace.toList = first.trace.toList ++ first.partingNotices id none →
      Brings first (.event id event) second
  /-- An abort comes too late. -/
  | decided {target : ExchangeId} {error : ExchangeError} :
      first.isResolved target = true → Brings first (.aborted target error) first
  /-- An exchange that is not bound is aborted. -/
  | withdrawn {target : ExchangeId} {error : ExchangeError} {exchange : Exchange} :
      first.exchange? target = some exchange → exchange.isResolved = false →
      exchange.binding = none →
      Ends first (first.modifyExchange target fun found => found.settle (.error error))
        (fun _ => False) →
      Brings first (.aborted target error)
        (first.modifyExchange target fun found => found.settle (.error error))
  /-- An exchange is aborted together with the channel that it is bound to. -/
  | cancelled {target : ExchangeId} {error : ExchangeError} {exchange : Exchange}
      {id : ChannelId} {second : Network α} :
      first.exchange? target = some exchange → exchange.isHeld = true →
      exchange.isResolved = false → exchange.binding = some id →
      Stops first second id (fun other found =>
        if other = target then found.settle (.error error) else found) Channel.cancel →
      Ends first second (· = id) →
      second.trace.toList = first.trace.toList ++ first.partingNotices id (some .cancel) →
      Brings first (.aborted target error) second
  /-- A connection is closed. -/
  | closed {key : ConnectionKey} {reason : CloseReason} {connection : Connection}
      {second : Network α} :
      first.connection? key = some connection → connection.isClosed = false →
      Closes first second key connection reason →
      Brings first (.closed key reason) second
  /-- A send on a connection fails. -/
  | undispatched {key : ConnectionKey} {target : ExchangeId} {second : Network α} :
      (∃ error, (first.send quiet key target).2 = .error error) →
      Undispatched first second target → Brings first (.sent key target) second
  /-- An exchange is dispatched on a connection. -/
  | dispatched {key : ConnectionKey} {target : ExchangeId} {connection : Connection}
      {exchange : Exchange} {stream : StreamId} {second : Network α} :
      (first.send quiet key target).2 = .ok () →
      first.connection? key = some connection → first.exchange? target = some exchange →
      exchange.isHeld = true →
      Dispatched first second key connection target exchange stream →
      Brings first (.sent key target) second
  /-- A send by hand is turned down. -/
  | unsent {id : ChannelId} {target : ExchangeId} : Brings first (.sentOn id target) first
  /-- A channel that was made by hand is given up. -/
  | givenUp {id : ChannelId} {target : ExchangeId} {channel : Channel} {exchange : Exchange}
      {second : Network α} :
      first.channel? id = some channel → channel.isHeld = true →
      first.exchange? target = some exchange → first.isUnderWay exchange = false →
      Handles first second id target Channel.giveUp none → second.trace = first.trace →
      Brings first (.sentOn id target) second
  /-- An exchange is sent by hand. -/
  | sentOn {id : ChannelId} {target : ExchangeId} {channel : Channel} {exchange : Exchange}
      {stream : StreamId} {second : Network α} :
      first.channel? id = some channel → channel.isHeld = true →
      first.exchange? target = some exchange → exchange.isHeld = true →
      exchange.isResolved = false → first.isUnderWay exchange = false →
      (∀ session, first.session? channel.session = some session →
        session.transport.isClosed = false) →
      Handles first second id target (Channel.carry target stream) (some id) →
      (∃ resets, second.trace.toList = first.trace.toList ++
          .streamOpened channel.session stream exchange.request :: resets ∧
        ∀ notice ∈ resets, notice = .streamReset channel.session stream .cancel) →
      Brings first (.sentOn id target) second

section Inversion

variable {id : ChannelId} {target : ExchangeId} {key : ConnectionKey}

theorem Sound.open_of_live (hsound : Sound network) {connection : Connection}
    (hconnection : network.connection? key = some connection) (hlive : id ∈ connection.live) :
    connection.isClosed = false := by
  obtain ⟨-, same, hsame, -, hopen⟩ := hsound.housed.of_registered ⟨connection, hconnection, hlive⟩
  exact Option.some.inj (hconnection.symm.trans hsame) ▸ hopen

theorem brings_event (hsound : Sound network) (id : ChannelId) (event : StreamEvent) :
    Brings network (.event id event) (network.channelHears quiet id event) := by
  cases hchannel : network.channel? id with
  | none =>
      rw [channelHears_of_none hchannel]
      exact .unheard hchannel
  | some channel =>
      cases hverdict : channel.verdict? event with
      | none =>
          rw [channelHears_of_open hverdict]
          exact .absorbed hchannel hverdict
      | some outcome =>
          refine .reported hchannel hverdict (stops_of_last (hsound.atHome id) hchannel hverdict)
            (ends_of_last hsound hchannel hverdict) ?_
          let absorbed := network.modifyChannel id (Channel.absorb event)
          obtain ⟨hchannels, hconnections, hsessions, -, -, -, htrace⟩ :=
            absorbed.resolveCarried_frame id outcome
          have hopen : ∀ {key connection},
              (absorbed.resolveCarried id outcome).connection? key = some connection →
              id ∈ connection.live → connection.isClosed = false := by
            intro key connection hconnection hlive
            rw [hconnections] at hconnection
            exact hsound.open_of_live hconnection hlive
          have hchannel? : (absorbed.resolveCarried id outcome).channel? id =
              (network.channel? id).map (Channel.absorb event) := by
            rw [hchannels, channel?_modifyChannel, if_pos rfl]
          have hnotices : (absorbed.resolveCarried id outcome).partingNotices id none =
              network.partingNotices id none := by
            refine partingNotices_congr (fun found => ?_) hchannel? hconnections hsessions
            obtain ⟨-, howner, hsession, -, hstream, -, hreleased, -⟩ := found.absorb_frame event
            exact ⟨hreleased, howner, hsession, hstream⟩
          rw [channelHears_of_last hchannel hverdict,
            trace_releaseChannel ((hsound.atHome id).absorb event outcome) hopen, hnotices, htrace]
          rfl

theorem brings_abort (hsound : Sound network) (hheld : network.holds target = true)
    (error : ExchangeError) :
    Brings network (.aborted target error) (network.abort quiet target error).1 := by
  obtain ⟨exchange, hexchange, hheld⟩ := holds_iff.mp hheld
  cases hresolved : exchange.isResolved with
  | true =>
      have hdecided : network.isResolved target = true := by simp [isResolved, hexchange, hresolved]
      rw [abort_of_isResolved hdecided]
      exact .decided hdecided
  | false =>
      cases hbinding : exchange.binding with
      | none =>
          have hends := (spares_settle hsound hexchange hheld hbinding (.error error)).ends
          rw [abort_of_unresolved hexchange hresolved]
          simp only [hbinding]
          exact .withdrawn hexchange hresolved hbinding hends
      | some id =>
          have halive := hsound.isChannelAlive hexchange hheld hresolved hbinding
          refine .cancelled hexchange hheld hresolved hbinding
            (stops_of_abort (hsound.atHome id) hexchange hresolved hbinding halive)
            (ends_of_abort hsound hexchange hheld hresolved hbinding) ?_
          let settled := network.modifyExchange target fun found => found.settle (.error error)
          have hhome : settled.AtHome id := hsound.atHome id
          have hmarked : (settled.modifyChannel id Channel.cancel).AtHome id :=
            hhome.modifyChannel id (fun _ => rfl) fun _ => rfl
          have hopen : ∀ {key connection},
              (settled.modifyChannel id Channel.cancel).connection? key = some connection →
              id ∈ connection.live → connection.isClosed = false := hsound.open_of_live
          have hchannel? : (settled.modifyChannel id Channel.cancel).channel? id =
              (network.channel? id).map Channel.cancel := by
            rw [channel?_modifyChannel, if_pos rfl]
            rfl
          have hnotices : (settled.modifyChannel id Channel.cancel).partingNotices id
              (some .cancel) = network.partingNotices id (some .cancel) := by
            refine partingNotices_congr (fun found => ?_) hchannel? rfl rfl
            exact ⟨rfl, rfl, rfl, rfl⟩
          have habort : (network.abort quiet target error).1 =
              (settled.modifyChannel id Channel.cancel).releaseChannel quiet id (some .cancel) := by
            rw [abort_of_unresolved hexchange hresolved]
            simp only [hbinding, halive, if_true]
            rfl
          rw [habort, trace_releaseChannel hmarked hopen, hnotices]
          rfl

private theorem brings_close (hsound : Sound network) (hopen : network.isOpen key = true)
    (reason : CloseReason) :
    Brings network (.closed key reason) (network.close quiet key reason).1 := by
  obtain ⟨connection, hconnection, hopen⟩ := isOpen_iff.mp hopen
  obtain ⟨second, heq, hcloses⟩ :=
    closes_of_open hsound.coherent hsound.housed hconnection hopen reason
  rw [heq]
  exact .closed hconnection hopen hcloses

theorem brings_send (hsound : Sound network) (hheld : network.holds target = true)
    (key : ConnectionKey) :
    Brings network (.sent key target) (network.send quiet key target).1 := by
  obtain ⟨exchange, hexchange, hheld⟩ := holds_iff.mp hheld
  cases hconnection : network.connection? key with
  | none =>
      have heq : network.send quiet key target = (network, .error .closed) := by
        simp [send, hconnection]
      rw [heq]
      exact .undispatched ⟨.closed, by rw [heq]⟩ (.refl network target)
  | some connection =>
      rcases send_cases hconnection hexchange (fun _ => hsound.isSome_of_binding hexchange)
        (hsound.nextChannel_notMem hconnection) with
        ⟨error, final, heq, hundispatched⟩ | ⟨stream, final, heq, hdispatched⟩
      · rw [heq]
        exact .undispatched ⟨error, by rw [heq]⟩ hundispatched
      · rw [heq]
        exact .dispatched (by rw [heq]) hconnection hexchange hheld hdispatched

theorem brings_sendOn {channel : Channel}
    (hchannel : network.channel? id = some channel) (hfree : channel.isHeld = true)
    (hheld : network.holds target = true) :
    Brings network (.sentOn id target) (network.sendOnChannel quiet id target).1 := by
  obtain ⟨exchange, hexchange, hheld⟩ := holds_iff.mp hheld
  by_cases hdown : exchange.isResolved = true ∨ network.isUnderWay exchange = true
  · obtain ⟨error, heq⟩ := sendOnChannel_turnedDown hexchange hdown
    rw [heq]
    exact .unsent
  · have hunresolved : exchange.isResolved = false := by
      simpa using fun hresolved => hdown (.inl hresolved)
    have hidle : network.isUnderWay exchange = false := by
      simpa using fun hbusy => hdown (.inr hbusy)
    rcases sendOnChannel_cases hchannel hexchange hunresolved hidle with
      ⟨error, final, heq, haside, htrace⟩ |
      ⟨stream, final, heq, haside, haccepting, resets, htrace, honly, -⟩
    · rw [heq]
      exact .givenUp hchannel hfree hexchange hidle (handles_of_aside haside) htrace
    · rw [heq]
      exact .sentOn hchannel hfree hexchange hheld hunresolved hidle haccepting
        (handles_of_aside haside) ⟨resets, htrace, honly⟩

/-- An operation that comes to something takes a step. -/
theorem brings_undergo (hsound : Sound network) {operation : Operation}
    (hhappening : network.happening operation ≠ .nothing) :
    Brings network (network.happening operation) (network.undergo operation) := by
  have hoccurs := occurs_happening hhappening
  rw [undergo_eq_bring hhappening]
  generalize network.happening operation = happening at hoccurs ⊢
  cases hoccurs with
  | event id event => exact brings_event hsound id event
  | sent key hheld => exact brings_send hsound hheld key
  | sentOn hchannel hfree hheld => exact brings_sendOn hchannel hfree hheld
  | aborted error hheld => exact brings_abort hsound hheld error
  | closed reason _ hopen => exact brings_close hsound hopen reason

theorem exists_of_accepted (haccepted : (network.send quiet key target).2 = .ok ()) :
    (network.exchange? target).isSome = true := by
  cases hexchange : network.exchange? target with
  | none =>
      have hrefused : (network.send quiet key target).2 = .error .closed := by
        unfold send
        simp only [hexchange]
        cases network.connection? key <;> rfl
      simp [hrefused] at haccepted
  | some exchange => rfl

/-- A send that is accepted dispatches the exchange. -/
theorem dispatched_of_accepted (hsound : Sound network) (hheld : network.holds target = true)
    (haccepted : (network.send quiet key target).2 = .ok ()) :
    ∃ connection exchange stream, network.connection? key = some connection ∧
      network.exchange? target = some exchange ∧ exchange.isHeld = true ∧
      Dispatched network (network.undergo (.send key target)) key connection target exchange
        stream := by
  have hundergo : network.undergo (.send key target) = (network.send quiet key target).1 :=
    if_pos hheld
  rw [hundergo]
  cases brings_send hsound hheld key with
  | undispatched hrefused =>
      obtain ⟨error, hrefused⟩ := hrefused
      simp [haccepted] at hrefused
  | dispatched _ hconnection hexchange hkept hdispatched =>
      exact ⟨_, _, _, hconnection, hexchange, hkept, hdispatched⟩

end Inversion

/-! ## What every step keeps -/

namespace Brings

variable {happening : Happening} (hstep : Brings first happening second)
include hstep

theorem ends_or_carries (hsound : Sound first) :
    (∃ finished, Ends first second finished) ∨ Later first second ∧
      ∃ target exchange id channel, Coherent.Carries first second target exchange id channel := by
  cases hstep with
  | unheard | decided | unsent => exact .inl ⟨_, (Calm.refl first).ends⟩
  | absorbed => exact .inl ⟨_, (spares_absorb ..).ends⟩
  | reported _ _ _ hends => exact .inl ⟨_, hends⟩
  | withdrawn _ _ _ hends => exact .inl ⟨_, hends⟩
  | cancelled _ _ _ _ _ hends => exact .inl ⟨_, hends⟩
  | closed hconnection _ hcloses => exact .inl ⟨_, hcloses.ends hsound.coherent hconnection⟩
  | undispatched _ hundispatched => exact .inl ⟨_, hundispatched.spares.ends⟩
  | dispatched _ hconnection hexchange hheld hdispatched =>
      exact .inr ⟨hdispatched.later hconnection hexchange, _, _, _, _,
        hdispatched.carries hconnection hexchange hsound.coherent hheld⟩
  | givenUp hchannel hheld hexchange hfree hhandles =>
      exact .inl ⟨_, (hhandles.spares hsound.coherent hchannel hheld hexchange hfree).ends⟩
  | sentOn hchannel hheld hexchange hkept hunresolved hfree _ hhandles =>
      refine .inr ⟨hhandles.later fun before hbefore => ?_, _, _, _, _,
        hhandles.carries hsound.coherent hchannel hheld hexchange hkept hunresolved hfree⟩
      obtain rfl := Option.some.inj (hchannel.symm.trans hbefore)
      exact ⟨rfl, rfl, rfl, rfl, fun hidle => by simp [hheld] at hidle, fun hover => hover⟩

/-- What neither an outcome nor a binding touches stays as it is in a step that is no send. -/
theorem map_exchange? {β : Type} (read : Exchange → β)
    (hresolve : ∀ found outcome, read (found.resolve outcome) = read found)
    (hrebind : ∀ found binding, read (found.rebind binding) = read found)
    (hunsent : ∀ key target, happening ≠ .sent key target) (target : ExchangeId) :
    (second.exchange? target).map read = (first.exchange? target).map read := by
  have hmap : ∀ {network : Network α} {change : Exchange → Exchange},
      network.exchange? target = (first.exchange? target).map change →
      (∀ found, read (change found) = read found) →
      (network.exchange? target).map read = (first.exchange? target).map read := by
    intro network change hexchange hsame
    rw [hexchange, Option.map_map]
    exact congrArg (fun reading => (first.exchange? target).map reading) (funext hsame)
  have hsettle : ∀ found outcome, read (found.settle outcome) = read found := fun found outcome =>
    (hrebind (found.resolve outcome) none).trans (hresolve found outcome)
  cases hstep with
  | unheard | absorbed | decided | unsent => rfl
  | reported _ _ hstops =>
      refine hmap (hstops.exchange? target) fun found => ?_
      split
      · exact hresolve ..
      · rfl
  | @withdrawn other error =>
      have hexchange := exchange?_modifyExchange first other target
        fun found => found.settle (.error error)
      split at hexchange
      · exact hmap hexchange fun found => hsettle found _
      · rw [hexchange]
  | cancelled _ _ _ _ hstops =>
      refine hmap (hstops.exchange? target) fun found => ?_
      split
      · exact hsettle ..
      · rfl
  | closed _ _ hcloses =>
      have hexchange := hcloses.exchange? target
      split at hexchange
      · exact hmap hexchange fun found => hsettle found _
      · rw [hexchange]
  | undispatched | dispatched => exact absurd rfl (hunsent _ _)
  | givenUp _ _ _ _ hhandles | sentOn _ _ _ _ _ _ _ hhandles =>
      have hexchange := hhandles.exchange? target
      split at hexchange
      · exact hmap hexchange fun found => hrebind found _
      · rw [hexchange]

theorem later (hsound : Sound first) : Later first second := by
  rcases hstep.ends_or_carries hsound with ⟨finished, hends⟩ | ⟨hlater, -⟩
  · exact hends.toLater
  · exact hlater

theorem housed (hsound : Sound first) : Housed second := by
  have hsame : ∀ {network : Network α}, network.connection? = first.connection? →
      network.session? = first.session? → network.pool? = first.pool? → Housed network := by
    intro network hconnection hsession hpool
    refine hsound.housed.of_surroundings hconnection (fun hbefore => ?_) (fun hbefore => ?_) ?_
    · exact ⟨_, by rw [hsession, hbefore], id⟩
    · exact ⟨_, by rw [hpool, hbefore], Nat.le_refl _, rfl⟩
    · intro place after hbefore hafter
      simp [hpool, hbefore] at hafter
  cases hstep with
  | unheard | decided | unsent => exact hsound.housed
  | absorbed => exact hsame rfl rfl rfl
  | reported _ _ hstops => exact (hstops.houses hsound.housed).housed hsound.housed
  | withdrawn => exact hsame rfl rfl rfl
  | cancelled _ _ _ _ hstops => exact (hstops.houses hsound.housed).housed hsound.housed
  | closed hconnection _ hcloses => exact hcloses.housed hsound.housed hconnection
  | undispatched _ hundispatched =>
      exact (hundispatched.houses hsound.housed).housed hsound.housed
  | dispatched _ hconnection _ _ hdispatched =>
      exact (hdispatched.houses hconnection hsound.housed).housed hsound.housed
  | givenUp _ _ _ _ hhandles => exact (hhandles.houses hsound.housed).housed hsound.housed
  | sentOn _ _ _ _ _ _ _ hhandles => exact (hhandles.houses hsound.housed).housed hsound.housed

end Brings

/-! ## What time keeps -/

section Time

variable {target : ExchangeId}

/-- Whoever holds an exchange after a run held it before. -/
theorem Later.holds_before (hlater : Later first second)
    (hthere : (first.exchange? target).isSome = true) (hheld : second.holds target = true) :
    first.holds target = true := by
  obtain ⟨before, hbefore⟩ := Option.isSome_iff_exists.mp hthere
  obtain ⟨after, hafter, hages⟩ := hlater.exchange hbefore
  have hkept : after.isHeld = true := by simpa [holds, hafter] using hheld
  exact holds_iff.mpr ⟨before, hbefore, hages.held hkept⟩

theorem Later.outcome_after (hlater : Later first second) {outcome : Outcome}
    (houtcome : first.outcome? target = some outcome) :
    second.outcome? target = some outcome := by
  obtain ⟨before, hbefore, hthen⟩ := Option.bind_eq_some_iff.mp houtcome
  obtain ⟨after, hafter, hages⟩ := hlater.exchange hbefore
  have hresolved : before.isResolved = true := by simp [Exchange.isResolved, hthen]
  rw [outcome?, hafter, Option.bind_some, hages.outcome hresolved, hthen]

/-- What waits on a connection that is closed is aborted. -/
theorem Closes.outcome_after {key : ConnectionKey} {connection : Connection}
    {reason : CloseReason} (hcloses : Closes first second key connection reason)
    {exchange : Exchange} (hexchange : first.exchange? target = some exchange)
    (hnone : exchange.outcome = none) (hmem : target ∈ first.liveExchanges connection) :
    second.outcome? target = some (.error (.aborted reason)) := by
  rw [outcome?, hcloses.exchange_after hexchange, if_pos hmem]
  simp [Exchange.settle, Exchange.resolve, hnone]

theorem isResolved_of_outcome {outcome : Outcome}
    (houtcome : network.outcome? target = some outcome) : network.isResolved target = true := by
  obtain ⟨exchange, hexchange, hthen⟩ := Option.bind_eq_some_iff.mp houtcome
  simp [isResolved, hexchange, Exchange.isResolved, hthen]

end Time

/-! ## Runs -/

section Runs

variable {operations : List Operation}

/-- An operation ends some channels, or it makes one carry an exchange. -/
theorem ends_or_carries_undergo (hsound : Sound network) (operation : Operation) :
    (∃ finished, Ends network (network.undergo operation) finished) ∨
      Later network (network.undergo operation) ∧ ∃ target exchange id channel,
        Coherent.Carries network (network.undergo operation) target exchange id channel := by
  by_cases hnothing : network.happening operation = .nothing
  · exact .inl ⟨_, (Calm.undergo hnothing).ends⟩
  · exact (brings_undergo hsound hnothing).ends_or_carries hsound

theorem later_undergo (hsound : Sound network) (operation : Operation) :
    Later network (network.undergo operation) := by
  rcases ends_or_carries_undergo hsound operation with ⟨finished, hends⟩ | ⟨hlater, -⟩
  · exact hends.toLater
  · exact hlater

theorem Sound.undergo (hsound : Sound network) (operation : Operation) :
    Sound (network.undergo operation) where
  housed := by
    by_cases hnothing : network.happening operation = .nothing
    · exact hsound.housed.undergo hnothing
    · exact (brings_undergo hsound hnothing).housed hsound
  coherent := by
    rcases ends_or_carries_undergo hsound operation with
      ⟨finished, hends⟩ | ⟨-, target, exchange, id, channel, hcarries⟩
    · exact hsound.coherent.of_ends hsound.housed hends
    · exact hsound.coherent.of_carries hsound.housed hcarries

theorem Sound.run (hsound : Sound network) (operations : List Operation) :
    Sound (network.run operations) := by
  induction operations generalizing network with
  | nil => exact hsound
  | cons operation operations ih => exact ih (hsound.undergo operation)

theorem later_run (hsound : Sound network) (operations : List Operation) :
    Later network (network.run operations) := by
  induction operations generalizing network with
  | nil => exact .refl network
  | cons operation operations ih =>
      exact (later_undergo hsound operation).trans (ih (hsound.undergo operation))

/-- A network in which there is nothing yet is sound. -/
theorem sound_blank (surroundings : α) : Sound (blank surroundings) where
  housed :=
    { listed := fun hfound => by simp at hfound
      numbered := fun hfound => by simp at hfound
      unique := fun hfound => by simp at hfound
      session := fun hfound => by simp at hfound
      closed := fun hfound => by simp at hfound
      alive := fun hfound => by simp at hfound }
  coherent :=
    { nodup := fun hfound => by simp at hfound
      works := fun hfound => by simp at hfound
      named := fun hfound => by simp at hfound
      carried := fun hfound => by simp at hfound
      waiting := fun hfound => by simp at hfound
      bound := fun hfound => by simp at hfound }

end Runs

end Multiplex.Network
