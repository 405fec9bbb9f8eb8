import Multiplex.Proofs.Loopback.Effects
import Multiplex.Proofs.Pool.Stock

/-!
# Exactly what a close leaves

`Closes` says of a session only whether it is closed, and of the trace only that a session is
told something.  To compare two networks after a close that is too little.  `Shuts` says what
becomes of every session and of every pool, which notices there are, and that what surrounds
the tables is left alone.

A session that is closed forgets its streams.  A session that was closed before, and knows
streams nevertheless, loses those that are reset afterwards, one by one; in which order it loses
them makes no difference.
-/

namespace Multiplex

/-! ## Sessions that are closed -/

namespace LoopbackSession

variable {ι : Type} {session : LoopbackSession ι}

private theorem reset_right_comm (session : LoopbackSession ι) (stream other : StreamId) :
    (session.reset stream).reset other = (session.reset other).reset stream := by
  have hfilter : (session.drop stream).drop other = (session.drop other).drop stream := by
    simp only [drop, List.filter_filter, Bool.and_comm]
  unfold reset
  split <;> split <;> simp_all

private theorem close_reset (session : LoopbackSession ι) (stream : StreamId) :
    (session.reset stream).close.1 = session.close.1.reset stream := by
  unfold close
  rw [isClosed_reset]
  split
  next => rfl
  next =>
    unfold reset
    split <;> rfl

private theorem close_close (session : LoopbackSession ι) :
    session.close.1.close.1 = session.close.1 := by
  rw [close, if_pos session.isClosed_close]

end LoopbackSession

namespace Transport

/-- What moves the streams of a session once the session is closed. -/
def shut : Transport → Transport
  | .loopback session => .loopback session.close.1
  | .recording session => .recording { session with isClosed := true }

/-- What moves the streams of a session once one of them is reset. -/
def lose (transport : Transport) (stream : StreamId) : Transport :=
  match transport with
  | .loopback session => .loopback (session.reset stream)
  | .recording session => .recording session

theorem lose_right_comm (transport : Transport) (stream other : StreamId) :
    (transport.lose stream).lose other = (transport.lose other).lose stream := by
  cases transport with
  | loopback session => exact congrArg loopback (session.reset_right_comm stream other)
  | recording session => rfl

private theorem shut_lose (transport : Transport) (stream : StreamId) :
    (transport.lose stream).shut = transport.shut.lose stream := by
  cases transport with
  | loopback session => exact congrArg loopback (session.close_reset stream)
  | recording session => rfl

theorem shut_shut (transport : Transport) : transport.shut.shut = transport.shut := by
  cases transport with
  | loopback session => exact congrArg loopback session.close_close
  | recording session => rfl

private theorem shut_foldl_lose (transport : Transport) (streams : List StreamId) :
    (streams.foldl lose transport).shut = streams.foldl lose transport.shut := by
  induction streams generalizing transport with
  | nil => rfl
  | cons stream rest ih => rw [List.foldl_cons, List.foldl_cons, ih, shut_lose]

end Transport

namespace Session

/-- A session of which streams were reset. -/
def lose (session : Session) (streams : List StreamId) : Session :=
  { session with transport := streams.foldl Transport.lose session.transport }

/-- A session that was closed, and of which streams were reset afterwards. -/
def shut (session : Session) (streams : List StreamId) : Session :=
  { session with transport := streams.foldl Transport.lose session.transport.shut }

private theorem lose_shut (session : Session) (streams others : List StreamId) :
    (session.shut streams).lose others = session.shut (streams ++ others) := by
  simp only [lose, shut, List.foldl_append]

/-- To close a session a second time only loses more streams. -/
theorem shut_shut (session : Session) (streams others : List StreamId) :
    (session.shut streams).shut others = session.shut (streams ++ others) := by
  simp only [shut, Transport.shut_foldl_lose, Transport.shut_shut, List.foldl_append]

/-- The order in which streams are reset makes no difference. -/
theorem shut_perm (session : Session) {streams others : List StreamId}
    (hperm : streams.Perm others) : session.shut streams = session.shut others := by
  unfold shut
  rw [hperm.foldl_eq' fun first _ second _ transport => transport.lose_right_comm first second]

end Session

namespace Network

variable {α : Type} {network first second : Network α} {key : ConnectionKey}
  {connection : Connection} {reason : CloseReason} {id : ChannelId} {done order : List ChannelId}

private theorem session?_resetStream (network : Network α) (session : SessionKey)
    (stream : StreamId) (code : ErrorCode) (place : SessionKey) :
    (network.resetStream quiet session stream code).session? place =
      if place = session then
        (network.session? place).map fun found => found.lose [stream]
      else network.session? place := by
  cases hsession : network.session? session with
  | none =>
      simp only [resetStream, hsession]
      split
      next heq => rw [heq, hsession, Option.map_none]
      next => rfl
  | some found =>
      obtain ⟨name, transport, attached⟩ := found
      cases transport with
      | loopback loopback =>
          simp only [resetStream, hsession]
          refine (session?_setTransport network session place _).trans ?_
          split
          next heq => rw [heq, hsession, Option.map_some, Option.map_some]; rfl
          next => rfl
      | recording recording =>
          simp only [resetStream, hsession]
          change network.session? place = _
          split
          next heq => rw [heq, hsession, Option.map_some]; rfl
          next => rfl

/-- To let a channel go concerns a session only as the channel is retired. -/
theorem session?_releaseChannel {channel : Channel} (hchannel : network.channel? id = some channel)
    (hreleased : channel.released = false) (code : Option ErrorCode) :
    (network.releaseChannel quiet id code).session? =
      (network.retired id channel code).session? := by
  rw [releaseChannel_eq hchannel hreleased code]
  split
  · rfl
  · split
    · exact session?_takeBack _ _ _
    · rfl

private theorem session?_closeSession (network : Network α) (session : SessionKey)
    (code : ErrorCode) (reason : String) (place : SessionKey) :
    (network.closeSession quiet session code reason).1.session? place =
      if place = session then (network.session? place).map fun found => found.shut []
      else network.session? place := by
  cases hsession : network.session? session with
  | none =>
      simp only [closeSession, hsession]
      split
      next heq => rw [heq, hsession, Option.map_none]
      next => rfl
  | some found =>
      obtain ⟨name, transport, attached⟩ := found
      cases transport with
      | loopback | recording =>
          simp only [closeSession, hsession]
          refine (session?_setTransport network session place _).trans ?_
          split
          next heq => rw [heq, hsession, Option.map_some, Option.map_some]; rfl
          next => rfl

/-! ## What surrounds the tables -/

/-- What a network is besides its tables and its trace: the time, the tickets that were given
out, and what the surroundings remember. -/
def ambience (network : Network α) : Nat × Nat × α :=
  (network.clock, network.tickets, network.surroundings)

section Ambience

variable (network : Network α)

private theorem ambience_resetStream (session : SessionKey) (stream : StreamId) (code : ErrorCode) :
    (network.resetStream quiet session stream code).ambience = network.ambience := by
  unfold resetStream
  split
  · rfl
  · split <;> rfl

private theorem ambience_closeSession (session : SessionKey) (code : ErrorCode) (reason : String) :
    (network.closeSession quiet session code reason).1.ambience = network.ambience := by
  unfold closeSession
  split
  · rfl
  · split <;> rfl

private theorem ambience_announceRemoval (key : ConnectionKey) :
    (network.announceRemoval quiet key).ambience = network.ambience := by
  unfold announceRemoval
  split
  · rfl
  · split <;> rfl

private theorem ambience_takeBack (key : ConnectionKey) (id : ChannelId) :
    (network.takeBack quiet key id).ambience = network.ambience := by
  have hrelease : ∀ other : Network α,
      (other.announceRelease quiet key).ambience = other.ambience := by
    intro other
    unfold announceRelease
    split
    · rfl
    · split <;> rfl
  unfold takeBack
  split
  · rfl
  · split
    · dsimp only
      split
      · rfl
      · exact hrelease _
    · rfl

theorem ambience_releaseChannel (id : ChannelId) (code : Option ErrorCode) :
    (network.releaseChannel quiet id code).ambience = network.ambience := by
  cases hchannel : network.channel? id with
  | none => simp only [releaseChannel, hchannel]
  | some channel =>
      cases hreleased : channel.released with
      | true => rw [releaseChannel_of_released hchannel hreleased]
      | false =>
          have hretired : (network.retired id channel code).ambience = network.ambience := by
            unfold retired shed
            split
            · exact ambience_resetStream _ _ _ _
            · rfl
          rw [releaseChannel_eq hchannel hreleased code]
          split
          · exact hretired
          · split
            · exact (ambience_takeBack _ _ _).trans hretired
            · exact hretired

private theorem ambience_abort (target : ExchangeId) (error : ExchangeError) :
    (network.abort quiet target error).1.ambience = network.ambience := by
  cases hexchange : network.exchange? target with
  | none => simp only [abort, hexchange]
  | some exchange =>
      cases hresolved : exchange.isResolved with
      | true => rw [abort_of_isResolved (by simp [isResolved, hexchange, hresolved])]
      | false =>
          rw [abort_of_unresolved hexchange hresolved]
          dsimp only
          split
          · rfl
          · split
            · exact ambience_releaseChannel _ _ _
            · rfl

private theorem ambience_abortInOrder (reason : CloseReason) (order : List ChannelId) :
    (network.abortInOrder quiet reason order).ambience = network.ambience := by
  have hcut : ∀ (rest : List ChannelId) (reached : Network α),
      (rest.foldl (abortCarried quiet reason) reached).ambience = reached.ambience := by
    intro rest
    induction rest with
    | nil => exact fun _ => rfl
    | cons id rest ih =>
        intro reached
        refine (ih _).trans ?_
        unfold abortCarried
        split
        · rfl
        · exact ambience_abort reached _ _
  have hhold : ∀ (rest : List ChannelId) (reached : Network α),
      (rest.foldl retainChannel reached).ambience = reached.ambience := by
    intro rest
    induction rest with
    | nil => exact fun _ => rfl
    | cons id rest ih => exact fun reached => ih (reached.retainChannel id)
  exact (hcut order _).trans (hhold order network)

private theorem ambience_close (key : ConnectionKey) (reason : CloseReason) :
    (network.close quiet key reason).1.ambience = network.ambience := by
  cases hconnection : network.connection? key with
  | none => simp only [close, hconnection]
  | some connection =>
      cases hclosed : connection.isClosed with
      | true => simp [close, hconnection, hclosed]
      | false =>
          rw [close_of_open hconnection hclosed]
          refine (ambience_abortInOrder (network.emptied key connection reason) reason
            connection.live).trans ?_
          refine (ambience_closeSession ((network.begun key).announceRemoval quiet key) _ _ _).trans
            ?_
          exact ambience_announceRemoval (network.begun key) key

end Ambience

/-! ## Cutting off the channels -/

/-- The stream that is reset when a channel is cut off by a close. -/
def cutStream? (network : Network α) (id : ChannelId) : Option StreamId :=
  if (network.carried? id).isSome then (network.channel? id).bind Channel.stream else none

namespace Torn

/-- What holds of the channels that were cut off, at first of none of them, holds of all of
them in the end. -/
private theorem cut_induction_on {motive : List ChannelId → Network α → Prop}
    (hdoomed : Doomed first order) (hnodup : order.Nodup) (hstart : motive [] first)
    (hcut : ∀ {done second id}, Torn first second reason done → (∀ other ∈ done, other ∈ order) →
      id ∈ order → id ∉ done → motive done second →
      motive (done ++ [id]) (abortCarried quiet reason second id)) :
    motive order (order.foldl (abortCarried quiet reason) first) := by
  have hrest : ∀ (rest done : List ChannelId) (second : Network α),
      Torn first second reason done → done ++ rest = order → motive done second →
      motive order (rest.foldl (abortCarried quiet reason) second) := by
    intro rest
    induction rest with
    | nil =>
        intro done second _ horder hmotive
        rw [List.append_nil] at horder
        exact horder ▸ hmotive
    | cons id rest ih =>
        intro done second htorn horder hmotive
        have hsub : ∀ other ∈ done, other ∈ order := fun other hmem =>
          horder ▸ List.mem_append_left _ hmem
        have hmem : id ∈ order := by simp [← horder]
        have hnot : id ∉ done := fun hdone =>
          (List.nodup_append.mp (horder ▸ hnodup)).2.2 id hdone id (List.mem_cons_self ..) rfl
        exact ih (done ++ [id]) _ (htorn.step hdoomed hsub hmem hnot) (by simpa using horder)
          (hcut htorn hsub hmem hnot hmotive)
  exact hrest order [] first (torn_nil first reason) rfl hstart

private theorem session?_abortCarried (htorn : Torn first second reason done)
    (hdoomed : Doomed first order)
    (hsub : ∀ other ∈ done, other ∈ order) (hmem : id ∈ order) (hnot : id ∉ done)
    {channel : Channel} (hchannel : first.channel? id = some channel) (place : SessionKey) :
    (abortCarried quiet reason second id).session? place =
      if place = channel.session then
        (second.session? place).map fun found => found.lose (first.cutStream? id).toList
      else second.session? place := by
  obtain ⟨same, hsame, hheld, hreleased⟩ := hdoomed.kept id hmem
  obtain rfl := Option.some.inj (hchannel.symm.trans hsame)
  have hnone : ∀ {stream? : Option StreamId}, stream? = none → second.session? place =
      if place = channel.session then
        (second.session? place).map fun found => found.lose stream?.toList
      else second.session? place := by
    rintro stream? rfl
    split
    · exact Option.map_id'.symm
    · rfl
  unfold abortCarried
  rw [htorn.carried?_eq hnot]
  cases hcarried : first.carried? id with
  | none => exact hnone (by simp [cutStream?, hcarried])
  | some target =>
      have hstream : first.cutStream? id = channel.stream := by
        simp [cutStream?, hcarried, hchannel]
      dsimp only
      rw [htorn.abort_eq hdoomed hsub hmem hnot hchannel hheld hcarried, hstream]
      let settled := second.modifyExchange target fun found =>
        found.settle (.error (.aborted reason))
      let marked := settled.modifyChannel id Channel.cancel
      have hmarked : marked.channel? id = some channel.cancel := by
        rw [channel?_modifyChannel, if_pos rfl]
        change (second.channel? id).map _ = _
        rw [htorn.channel?, if_neg hnot, hchannel, Option.map_some]
      change (marked.releaseChannel quiet id (some .cancel)).session? place = _
      rw [session?_releaseChannel hmarked hreleased]
      change ((marked.modifyChannel id fun found => { found with released := true }).shed
        channel.cancel (some .cancel)).session? place = _
      unfold shed
      cases hgiven : channel.stream with
      | none =>
          have hcancelled : channel.cancel.stream = none := hgiven
          rw [hcancelled]
          exact hnone rfl
      | some stream =>
          have hcancelled : channel.cancel.stream = some stream := hgiven
          rw [hcancelled]
          exact session?_resetStream _ _ _ _ _

end Torn

/-! ## The whole close -/

/-- In the second network a connection of the first has been closed, and this is all. -/
structure Shuts (first second : Network α) (key : ConnectionKey) (connection : Connection)
    (reason : CloseReason) : Prop extends Closes first second key connection reason where
  session? : ∀ place, second.session? place =
    if place = connection.session then
      (first.session? place).map fun found =>
        found.shut (connection.live.filterMap first.cutStream?)
    else first.session? place
  pool? : ∀ place, second.pool? place =
    if connection.destination = .pool place then
      (first.pool? place).map fun found => found.unlist connection.id
    else first.pool? place
  ambience : second.ambience = first.ambience
  notices : second.trace.toList = first.trace.toList ++
    first.closeNotices key connection reason (first.isFresh connection.session)

private theorem session?_announced (network : Network α) (key : ConnectionKey)
    (connection : Connection) (reason : CloseReason) (place : SessionKey) :
    (network.announced key connection reason).session? place =
      if place = connection.session then (network.session? place).map fun found => found.shut []
      else network.session? place := by
  obtain ⟨-, -, -, hsession, -⟩ := announceRemoval_frame (network.begun key) key
  unfold announced
  rw [session?_closeSession, hsession]
  rfl

section Close

variable (hsound : Sound network) (hconnection : network.connection? key = some connection)
  (hopen : connection.isClosed = false)
include hsound hconnection

private theorem session?_cut (reason : CloseReason) (place : SessionKey) :
    (connection.live.foldl (abortCarried quiet reason)
      (network.kept key connection reason)).session? place =
      if place = connection.session then
        (network.session? place).map fun found =>
          found.shut (connection.live.filterMap network.cutStream?)
      else network.session? place := by
  have hnodup := hsound.coherent.nodup hconnection
  have hdoomed := doomed_kept hsound.coherent hconnection reason
  have hstream : (network.kept key connection reason).cutStream? = network.cutStream? := by
    funext id
    unfold cutStream?
    rw [carried?_kept hnodup, channel?_kept hnodup]
    split
    · split
      · cases network.channel? id <;> rfl
      · rfl
    · rfl
  rw [← hstream]
  refine Torn.cut_induction_on (motive := fun done reached => reached.session? place =
    if place = connection.session then
      (network.session? place).map fun found =>
        found.shut (done.filterMap (network.kept key connection reason).cutStream?)
    else network.session? place) hdoomed hnodup ?_ ?_
  · rw [(kept_frame network key connection reason).2.2.1, session?_announced]
    rfl
  · intro done second id htorn hsub hmem hnot hreached
    obtain ⟨found, waiting, exchange, hfound, hworks, -⟩ := hsound.coherent.works hconnection hmem
    have hheld : (network.kept key connection reason).channel? id = some found.hold := by
      rw [channel?_kept hnodup, if_pos hmem, hfound, Option.map_some]
    have hhome : found.hold.session = connection.session := hworks.session
    rw [htorn.session?_abortCarried hdoomed hsub hmem hnot hheld, hreached, hhome]
    split
    next =>
      rw [Option.map_map, List.filterMap_append]
      congr 1
      funext session
      rw [Function.comp_apply, Session.lose_shut]
      cases hlost : (network.kept key connection reason).cutStream? id with
      | none => simp [hlost]
      | some stream => simp [hlost]
    next => rfl

include hopen

theorem shuts_of_open (reason : CloseReason) :
    ∃ second, network.close quiet key reason = (second, true) ∧
      Shuts network second key connection reason := by
  obtain ⟨second, hclose, hcloses⟩ :=
    closes_of_open hsound.coherent hsound.housed hconnection hopen reason
  have hsecond : second = (network.close quiet key reason).1 := by rw [hclose]
  have hnodup := hsound.coherent.nodup hconnection
  have hreached := close_of_open hconnection hopen reason
  refine ⟨second, hclose, hcloses, fun place => ?_, fun place => ?_, ?_, ?_⟩
  · rw [hsecond, hreached]
    exact session?_cut hsound hconnection reason place
  · rw [hsecond]
    exact pool?_close hsound hconnection hopen reason place
  · rw [hsecond]
    exact ambience_close network key reason
  · have htorn := Torn.run (doomed_kept hsound.coherent hconnection reason) connection.live []
      _ (torn_nil _ reason) (by simp) (by simpa using hnodup)
    have htrace : second.trace.toList = (network.kept key connection reason).trace.toList ++
        connection.live.flatMap (network.kept key connection reason).cutNotices := by
      rw [hsecond, hreached]
      exact htorn.trace
    obtain ⟨session, hthere, -⟩ := hsound.housed.session hconnection
    rw [htrace, (kept_frame network key connection reason).2.2.2.2, cutNotices_kept hnodup,
      trace_announced hconnection hthere, closeNotices]
    simp only [List.append_assoc, List.cons_append, List.nil_append]

end Close

end Network

end Multiplex
