import Multiplex.Proofs.Network.Collaborators

/-!
# What releasing and aborting do

A channel that is released is retired: it is marked, and it forgets its exchange.
At the same time the connection that lists it forgets it.  `Retires` says that this
is all, aside from what the session and the destination keep for themselves.

The connection is reached through the channel's owner.  That this is the only
connection which lists the channel, and that it is still there, is an invariant of
all runs; here it is the hypothesis `AtHome`.
-/

namespace Multiplex

/-- A channel after its release. -/
def Channel.retire (channel : Channel) : Channel :=
  if channel.released then channel else { channel with released := true, exchange := none }

@[simp] theorem Channel.released_retire (channel : Channel) :
    channel.retire.released = true := by
  unfold retire
  split
  · assumption
  · rfl

/-- A channel whose exchange was aborted, before its release. -/
def Channel.cancel (channel : Channel) : Channel := { channel with cancelled := true }

/-- An exchange after it was aborted: it has its outcome and is bound no more. -/
def Exchange.settle (exchange : Exchange) (outcome : Outcome) : Exchange :=
  { exchange.resolve outcome with binding := none }

namespace Network

variable {α : Type}

/-- A connection lists a channel. -/
def Registered (network : Network α) (key : ConnectionKey) (id : ChannelId) : Prop :=
  ∃ connection, network.connection? key = some connection ∧ id ∈ connection.live

/-- A channel that is listed by some connection is under way, and the connection is
its owner and still there. -/
def AtHome (network : Network α) (id : ChannelId) : Prop :=
  ∀ key, network.Registered key id →
    ∃ channel, network.channel? id = some channel ∧ channel.released = false ∧
      channel.owner = some key ∧ network.isConnectionAlive key = true

/-- In the second network a channel of the first is retired. -/
structure Retires (first second : Network α) (id : ChannelId) : Prop where
  exchange? : second.exchange? = first.exchange?
  channel? : ∀ other, second.channel? other =
    if other = id then (first.channel? other).map Channel.retire else first.channel? other
  connection? : ∀ key, second.connection? key =
    (first.connection? key).map fun found => found.drop id
  nextChannel : second.nextChannel = first.nextChannel
  session : ∀ key, (second.session? key).map Session.outline =
    (first.session? key).map Session.outline
  pool : ∀ key, (second.pool? key).map Pool.outline = (first.pool? key).map Pool.outline

/-! ## Taking back a channel -/

section TakeBack

variable (network : Network α) (key : ConnectionKey) (id : ChannelId)

private theorem aside_takeBack :
    Aside (network.modifyConnection key fun found => found.drop id)
      (network.takeBack quiet key id) := by
  unfold takeBack
  split
  next hconnection =>
    refine ⟨rfl, rfl, ?_, rfl, fun _ => rfl, fun _ => rfl⟩
    funext other
    rw [connection?_modifyConnection]
    split
    case isTrue heq => simp [heq, hconnection]
    case isFalse => rfl
  next connection hconnection =>
    split
    · dsimp only
      split
      · exact .refl _
      · exact aside_announceRelease _ key
    next hnot =>
      refine ⟨rfl, rfl, ?_, rfl, fun _ => rfl, fun _ => rfl⟩
      funext other
      rw [connection?_modifyConnection]
      split
      case isTrue heq =>
        subst heq
        rw [hconnection, Option.map_some, Connection.drop_of_notMem (by simpa using hnot)]
      case isFalse => rfl

/-- The release of a channel is announced if the channel was listed and the connection
is open. -/
theorem trace_takeBack {connection : Connection}
    (hconnection : network.connection? key = some connection) :
    (network.takeBack quiet key id).trace.toList = network.trace.toList ++
      if id ∈ connection.live ∧ connection.isClosed = false then network.releaseNotices key
      else [] := by
  simp only [takeBack, hconnection]
  split
  next hlive =>
    have hmem : id ∈ connection.live := by simpa using hlive
    split
    next hclosed => simp [hclosed]
    next hopen =>
      rw [trace_announceRelease, if_pos ⟨hmem, by simpa using hopen⟩]
      simp [releaseNotices, connection?_modifyConnection, hconnection, Connection.drop]
  next hnot =>
    have hmem : id ∉ connection.live := by simpa using hnot
    simp [hmem]

end TakeBack

/-! ## Releasing a channel -/

section ReleaseChannel

variable {network : Network α} {id : ChannelId}

/-- Outside its home a channel is listed nowhere. -/
theorem AtHome.not_registered (hhome : network.AtHome id) {key : ConnectionKey}
    (hnot : ∀ channel, network.channel? id = some channel → channel.released = false →
      channel.owner = some key → network.isConnectionAlive key = false) :
    ¬ network.Registered key id := by
  intro hregistered
  obtain ⟨channel, hchannel, hreleased, howner, halive⟩ := hhome key hregistered
  rw [hnot channel hchannel hreleased howner] at halive
  exact Bool.false_ne_true halive

theorem AtHome.drop_eq (hhome : network.AtHome id) {key : ConnectionKey}
    (hnot : ∀ channel, network.channel? id = some channel → channel.released = false →
      channel.owner = some key → network.isConnectionAlive key = false) :
    (network.connection? key).map (fun found => found.drop id) = network.connection? key := by
  cases hconnection : network.connection? key with
  | none => rfl
  | some connection =>
      have hmem : id ∉ connection.live := fun hmem =>
        hhome.not_registered hnot ⟨connection, hconnection, hmem⟩
      rw [Option.map_some, Connection.drop_of_notMem hmem]

/-- A channel that is over already, or was never there, is retired by doing nothing. -/
theorem retires_self (hhome : network.AtHome id)
    (hover : ∀ channel, network.channel? id = some channel → channel.released = true) :
    Retires network network id where
  exchange? := rfl
  channel? other := by
    split
    case isTrue heq =>
      subst heq
      cases hchannel : network.channel? other with
      | none => rfl
      | some channel => simp [Channel.retire, hover channel hchannel]
    case isFalse => rfl
  connection? key := by
    refine (hhome.drop_eq fun channel hchannel hreleased _ => ?_).symm
    rw [hover channel hchannel] at hreleased
    exact absurd hreleased Bool.false_ne_true.symm
  nextChannel := rfl
  session _ := rfl
  pool _ := rfl

/-- What a session notices when a channel is released: the reset of its stream, if it
has one and there is a code to reset it with. -/
def resetNotices (network : Network α) (channel : Channel) (code : Option ErrorCode) :
    List Notice :=
  match code, channel.stream with
  | some code, some stream =>
    if (network.session? channel.session).isSome then
      [.streamReset channel.session stream code]
    else []
  | _, _ => []

/-- The stream of a channel is reset, if it has one and there is a code to reset it with. -/
def shed (network : Network α) (channel : Channel) (code : Option ErrorCode) : Network α :=
  match code, channel.stream with
  | some code, some stream => network.resetStream quiet channel.session stream code
  | _, _ => network

/-- Where the release of a channel under way has come to when it turns to the owner. -/
def retired (network : Network α) (id : ChannelId) (channel : Channel)
    (code : Option ErrorCode) : Network α :=
  ((network.modifyChannel id fun found => { found with released := true }).shed channel
    code).modifyChannel id fun found => { found with exchange := none }

theorem aside_shed (network : Network α) (channel : Channel) (code : Option ErrorCode) :
    Aside network (network.shed channel code) := by
  unfold shed
  split
  · exact aside_resetStream ..
  · exact .refl network

private theorem trace_shed (network : Network α) (channel : Channel) (code : Option ErrorCode) :
    (network.shed channel code).trace.toList =
      network.trace.toList ++ network.resetNotices channel code := by
  unfold shed resetNotices
  split
  · exact trace_resetStream ..
  · simp

/-- The stream is reset before the owner is told. -/
theorem releaseChannel_eq {channel : Channel} (hchannel : network.channel? id = some channel)
    (hreleased : channel.released = false) (code : Option ErrorCode) :
    network.releaseChannel quiet id code =
      match channel.owner with
      | none => network.retired id channel code
      | some key =>
        if (network.retired id channel code).isConnectionAlive key then
          (network.retired id channel code).takeBack quiet key id
        else network.retired id channel code := by
  simp only [releaseChannel, hchannel, hreleased]
  rfl

/-- What happens to a channel under way that is released, up to the point where its
owner is told. -/
theorem releaseChannel_of_underWay {channel : Channel}
    (hchannel : network.channel? id = some channel) (hreleased : channel.released = false)
    (code : Option ErrorCode) :
    ∃ retired, Aside (network.modifyChannel id Channel.retire) retired ∧
      retired.trace.toList = network.trace.toList ++ network.resetNotices channel code ∧
      network.releaseChannel quiet id code =
        match channel.owner with
        | none => retired
        | some key =>
          if retired.isConnectionAlive key then retired.takeBack quiet key id else retired := by
  let marked := network.modifyChannel id fun found => { found with released := true }
  have haside := aside_shed marked channel code
  refine ⟨network.retired id channel code, ?_, trace_shed marked channel code,
    releaseChannel_eq hchannel hreleased code⟩
  refine ⟨haside.exchange?, ?_, haside.connection?, ?_, haside.session, haside.pool⟩
  · funext other
    change ((marked.shed channel code).modifyChannel id _).channel? other = _
    simp only [channel?_modifyChannel, haside.channel?, marked]
    split
    case isTrue heq => simp [heq, hchannel, Channel.retire, hreleased]
    case isFalse => rfl
  · simpa [retired, marked] using haside.nextChannel

theorem Retires.of_aside {first second third : Network α} (hretires : Retires first second id)
    (haside : Aside second third) : Retires first third id where
  exchange? := haside.exchange?.trans hretires.exchange?
  channel? other := by rw [haside.channel?, hretires.channel?]
  connection? key := by rw [haside.connection?, hretires.connection?]
  nextChannel := haside.nextChannel.trans hretires.nextChannel
  session key := (haside.session key).trans (hretires.session key)
  pool key := (haside.pool key).trans (hretires.pool key)

theorem retires_modifyChannel
    (hdrop : ∀ key, (network.connection? key).map (fun found => found.drop id) =
      network.connection? key) :
    Retires network (network.modifyChannel id Channel.retire) id where
  exchange? := rfl
  channel? other := channel?_modifyChannel network id other Channel.retire
  connection? key := (hdrop key).symm
  nextChannel := nextChannel_modifyChannel network id Channel.retire
  session _ := rfl
  pool _ := rfl

private theorem retires_modifyConnection {key : ConnectionKey}
    (hdrop : ∀ other, other ≠ key →
      (network.connection? other).map (fun found => found.drop id) =
        network.connection? other) :
    Retires network ((network.modifyChannel id Channel.retire).modifyConnection key
      fun found => found.drop id) id where
  exchange? := rfl
  channel? other := channel?_modifyChannel network id other Channel.retire
  connection? other := by
    rw [connection?_modifyConnection]
    split
    case isTrue => rfl
    case isFalse hne => exact (hdrop other hne).symm
  nextChannel := nextChannel_modifyChannel network id Channel.retire
  session _ := rfl
  pool _ := rfl

theorem retires_releaseChannel (hhome : network.AtHome id) (code : Option ErrorCode) :
    Retires network (network.releaseChannel quiet id code) id := by
  cases hchannel : network.channel? id with
  | none =>
      have hover := retires_self hhome (by simp [hchannel])
      simpa [releaseChannel, hchannel] using hover
  | some channel =>
      cases hreleased : channel.released with
      | true =>
          have hover := retires_self hhome (by simp [hchannel, hreleased])
          simpa [releaseChannel, hchannel, hreleased] using hover
      | false =>
          obtain ⟨retired, haside, -, heq⟩ := releaseChannel_of_underWay hchannel hreleased code
          -- Only the owner can list the channel, and only while it is there.
          have hother : ∀ key, (channel.owner = some key → network.isConnectionAlive key = false) →
              (network.connection? key).map (fun found => found.drop id) =
                network.connection? key := by
            intro key hnot
            refine hhome.drop_eq fun found hfound _ howner => hnot ?_
            rw [hchannel] at hfound
            rw [Option.some.inj hfound, howner]
          rw [heq]
          cases howner : channel.owner with
          | none =>
              have hbase := retires_modifyChannel fun key => hother key (by simp [howner])
              exact hbase.of_aside haside
          | some key =>
              dsimp only
              split
              next hthere =>
                have hbase := retires_modifyConnection fun other hne => hother other fun hsame =>
                  absurd (Option.some.inj (howner.symm.trans hsame)).symm hne
                exact hbase.of_aside
                  ((haside.modifyConnection key _).trans (aside_takeBack retired key id))
              next hgone =>
                have halive : network.isConnectionAlive key = false := by
                  rw [haside.isConnectionAlive_eq] at hgone
                  simpa using hgone
                have hbase := retires_modifyChannel fun other => hother other fun hsame => by
                  rw [howner] at hsame
                  rw [← Option.some.inj hsame, halive]
                exact hbase.of_aside haside

theorem releaseChannel_of_released {channel : Channel}
    (hchannel : network.channel? id = some channel) (hreleased : channel.released = true)
    (code : Option ErrorCode) : network.releaseChannel quiet id code = network := by
  simp [releaseChannel, hchannel, hreleased]

/-- The notices of a listed channel's release: first its session's, then its
destination's. -/
theorem trace_releaseChannel_of_registered {key : ConnectionKey} {connection : Connection}
    {channel : Channel} (hconnection : network.connection? key = some connection)
    (hlive : id ∈ connection.live) (hopen : connection.isClosed = false)
    (hchannel : network.channel? id = some channel) (hreleased : channel.released = false)
    (howner : channel.owner = some key) (halive : network.isConnectionAlive key = true)
    (code : Option ErrorCode) :
    (network.releaseChannel quiet id code).trace.toList =
      network.trace.toList ++ network.resetNotices channel code ++
        network.releaseNotices key := by
  obtain ⟨retired, haside, htrace, heq⟩ := releaseChannel_of_underWay hchannel hreleased code
  have hthere : retired.isConnectionAlive key = true := by
    rw [haside.isConnectionAlive_eq]
    exact halive
  have hfound : retired.connection? key = some connection := by
    rw [haside.connection?]
    exact hconnection
  have hnotices : retired.releaseNotices key = network.releaseNotices key := by
    simp only [releaseNotices, hfound, hconnection]
  rw [heq, howner]
  simp only [hthere, if_true]
  rw [trace_takeBack retired key id hfound, if_pos ⟨hlive, hopen⟩, htrace, hnotices]

/-- The release of a channel that nobody lists is not announced. -/
theorem trace_releaseChannel_of_unregistered {channel : Channel}
    (hnot : ∀ key, ¬ network.Registered key id)
    (hchannel : network.channel? id = some channel) (hreleased : channel.released = false)
    (code : Option ErrorCode) :
    (network.releaseChannel quiet id code).trace.toList =
      network.trace.toList ++ network.resetNotices channel code := by
  obtain ⟨retired, haside, htrace, heq⟩ := releaseChannel_of_underWay hchannel hreleased code
  rw [heq]
  split
  · exact htrace
  next key howner =>
    split
    · cases hfound : retired.connection? key with
      | none => simp [takeBack, hfound, htrace]
      | some connection =>
          have hmem : id ∉ connection.live := fun hmem =>
            hnot key ⟨connection, by rw [← hfound, haside.connection?]; rfl, hmem⟩
          rw [trace_takeBack retired key id hfound, if_neg fun hand => hmem hand.1, htrace,
            List.append_nil]
    · exact htrace

end ReleaseChannel

/-! ## Cancelling a channel -/

section CancelChannel

variable {network : Network α} {id : ChannelId}

theorem AtHome.modifyChannel (hhome : network.AtHome id) (other : ChannelId)
    {change : Channel → Channel}
    (hreleased : ∀ channel, (change channel).released = channel.released)
    (howner : ∀ channel, (change channel).owner = channel.owner) :
    (network.modifyChannel other change).AtHome id := by
  intro key hregistered
  obtain ⟨channel, hchannel, hunder, hkey, halive⟩ := hhome key hregistered
  by_cases heq : id = other
  · refine ⟨change channel, ?_, ?_, ?_, halive⟩
    · rw [channel?_modifyChannel, if_pos heq, hchannel, Option.map_some]
    · rw [hreleased, hunder]
    · rw [howner, hkey]
  · refine ⟨channel, ?_, hunder, hkey, halive⟩
    rw [channel?_modifyChannel, if_neg heq, hchannel]

/-- Cancelling a channel retires it once it is marked. -/
theorem retires_cancelChannel (hhome : network.AtHome id) :
    Retires (network.modifyChannel id Channel.cancel) (network.cancelChannel quiet id) id := by
  have hmarked : (network.modifyChannel id Channel.cancel).AtHome id :=
    hhome.modifyChannel id (fun _ => rfl) fun _ => rfl
  exact retires_releaseChannel hmarked _

/-- The cancellation of a channel that nobody lists is noticed by its session alone. -/
theorem trace_cancelChannel_of_unregistered {channel : Channel}
    (hnot : ∀ key, ¬ network.Registered key id)
    (hchannel : network.channel? id = some channel) (hreleased : channel.released = false) :
    (network.cancelChannel quiet id).trace.toList =
      network.trace.toList ++ network.resetNotices channel (some .cancel) := by
  have hmarked : (network.modifyChannel id Channel.cancel).channel? id = some channel.cancel := by
    rw [channel?_modifyChannel, if_pos rfl, hchannel, Option.map_some]
  have hnone : ∀ key, ¬ (network.modifyChannel id Channel.cancel).Registered key id := hnot
  exact trace_releaseChannel_of_unregistered hnone hmarked hreleased _

end CancelChannel

/-! ## Aborting an exchange -/

section Abort

variable {network : Network α} {id : ExchangeId} {exchange : Exchange}

theorem resolve_of_isResolved (hresolved : network.isResolved id = true) (outcome : Outcome) :
    network.resolve id outcome = (network, false) := by
  have hsame : network.modifyExchange id (fun found => found.resolve outcome) = network := by
    refine modifyExchange_eq_self network fun exchange hexchange => ?_
    simp only [isResolved, hexchange, Option.any_some] at hresolved
    exact Exchange.resolve_of_isResolved hresolved outcome
  simp [resolve, hsame, hresolved]

/-- Aborting an exchange that has its outcome does nothing, and says so. -/
theorem abort_of_isResolved (hresolved : network.isResolved id = true) (error : ExchangeError) :
    network.abort quiet id error = (network, false) := by
  unfold abort
  split
  · rfl
  · rw [resolve_of_isResolved hresolved]

/-- Aborting an exchange settles it, and cancels the channel that it is bound to. -/
theorem abort_of_unresolved (hexchange : network.exchange? id = some exchange)
    (hunresolved : exchange.isResolved = false) (error : ExchangeError) :
    network.abort quiet id error =
      let settled := network.modifyExchange id fun found => found.settle (.error error)
      match exchange.binding with
      | none => (settled, true)
      | some channel =>
        if network.isChannelAlive channel then (settled.cancelChannel quiet channel, true)
        else (settled, true) := by
  have hfirst : network.isResolved id = false := by simp [isResolved, hexchange, hunresolved]
  simp only [abort, hexchange, resolve, hfirst, Bool.not_false, modifyExchange_modifyExchange]
  rfl

end Abort

end Network

end Multiplex
