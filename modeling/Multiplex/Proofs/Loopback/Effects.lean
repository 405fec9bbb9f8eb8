import Multiplex.Proofs.Pool.Course

/-!
# What loopback sessions go through

A loopback session is opened, reset and closed by the connection over it, while the network
does many other things at the same time.  This file says exactly what becomes of every
loopback session in everything that can happen on connections: most of it leaves them alone,
a release resets one stream of one session, a close closes one session, and a dispatch opens
one stream of one session.
-/

namespace Multiplex

/-! ## One session -/

namespace LoopbackSession

variable {ι : Type} {session before after : LoopbackSession ι} {stream : StreamId} {listener : ι}

/-- Two sessions that differ only in the answers that they have still to give. -/
structure Alike (before after : LoopbackSession ι) : Prop where
  limit : after.limit = before.limit
  nextStream : after.nextStream = before.nextStream
  streams : after.streams = before.streams
  isClosed : after.isClosed = before.isClosed

theorem Alike.refl (session : LoopbackSession ι) : session.Alike session := ⟨rfl, rfl, rfl, rfl⟩

/-- A session on which nothing has happened yet. -/
structure IsNew (session : LoopbackSession ι) : Prop where
  nextStream : session.nextStream = .first
  streams : session.streams = []
  isClosed : session.isClosed = false

/-- In the second session a stream of the first is open. -/
structure Opened (before after : LoopbackSession ι) (stream : StreamId) (listener : ι) : Prop where
  number : stream = before.nextStream
  isOpen : before.isClosed = false
  room : before.openStreams < before.limit
  limit : after.limit = before.limit
  nextStream : after.nextStream = stream.next
  streams : after.streams = (before.drop stream).streams ++ [(stream, listener)]
  isClosed : after.isClosed = before.isClosed

theorem opened_of_openStream {now ticket : Nat} {request : Http.Request}
    (hresult : (session.openStream now ticket request listener).2 = .ok stream) :
    session.Opened (session.openStream now ticket request listener).1 stream listener := by
  by_cases hclosed : session.isClosed = true
  · simp [openStream, hclosed] at hresult
  by_cases hfull : session.limit ≤ session.openStreams
  · simp [openStream, hclosed, hfull] at hresult
  have hopened : session.openStream now ticket request listener =
      ({ session with
          nextStream := session.nextStream.next
          streams := (session.drop session.nextStream).streams ++ [(session.nextStream, listener)]
          replies := session.replies ++
            [⟨session.nextStream, session.responder request, now + session.delay, ticket⟩] },
        .ok session.nextStream) := by
    rw [openStream, if_neg hclosed, if_neg hfull]
    rfl
  rw [hopened] at hresult ⊢
  obtain rfl := Except.ok.inj hresult
  exact
    { number := rfl
      isOpen := by simpa using hclosed
      room := Nat.lt_of_not_le hfull
      limit := rfl
      nextStream := rfl
      streams := rfl
      isClosed := rfl }

/-- A session that opens no stream stays as it was. -/
theorem openStream_of_error {now ticket : Nat} {request : Http.Request} {error : SessionError}
    (hresult : (session.openStream now ticket request listener).2 = .error error) :
    (session.openStream now ticket request listener).1 = session := by
  unfold openStream at hresult ⊢
  split at hresult
  next hclosed => rw [if_pos hclosed]
  next hopen =>
    split at hresult
    next hfull => rw [if_neg hopen, if_pos hfull]
    next => simp at hresult

/-- A session after it lost a stream, if it did. -/
def lose (session : LoopbackSession ι) : Option StreamId → LoopbackSession ι
  | none => session
  | some stream => session.reset stream

private theorem reset_of_nil (hempty : session.streams = []) (stream : StreamId) :
    session.reset stream = session := by
  obtain ⟨_, _, _, _, _, streams, _, _⟩ := session
  obtain rfl : streams = [] := hempty
  unfold reset
  split <;> rfl

/-- The listener of a stream is found among the open streams. -/
theorem mem_of_listener? (hlistener : session.listener? stream = some listener) :
    (stream, listener) ∈ session.streams := by
  obtain ⟨entry, hfound, rfl⟩ := Option.map_eq_some_iff.mp hlistener
  have hstream : entry.1 = stream := by simpa using List.find?_some hfound
  rw [← hstream]
  exact List.mem_of_find?_eq_some hfound

end LoopbackSession

/-! ## All sessions -/

namespace Network

variable {α : Type} {network first second : Network α} {id : ChannelId} {target : ExchangeId}
  {key : ConnectionKey} {connection : Connection} {channel : Channel} {exchange : Exchange}
  {code : Option ErrorCode} {reason : CloseReason} {loopback : LoopbackSession Listener}
  {session place : SessionKey} {stream : StreamId}

theorem loopback?_congr (hsession : second.session? place = first.session? place) :
    second.loopback? place = first.loopback? place := by
  simp only [loopback?, hsession]

/-- Who listens to a session does not matter to it. -/
theorem loopback?_attached (network : Network α) (session : SessionKey)
    (attached : Option ConnectionKey) (place : SessionKey) :
    (network.modifySession session fun found => { found with attached }).loopback? place =
      network.loopback? place := by
  by_cases heq : place = session
  · unfold loopback?
    rw [session?_modifySession, if_pos heq]
    cases network.session? place with
    | none => rfl
    | some found =>
        obtain ⟨name, transport, listener⟩ := found
        cases transport <;> rfl
  · refine loopback?_congr ?_
    rw [session?_modifySession, if_neg heq]

theorem loopback?_setTransport_recording (hnone : network.loopback? session = none)
    (recording : RecordingSession Listener) (place : SessionKey) :
    (network.setTransport session (.recording recording)).loopback? place =
      network.loopback? place := by
  by_cases heq : place = session
  · subst heq
    rw [hnone]
    unfold loopback?
    rw [session?_setTransport, if_pos rfl]
    cases network.session? place <;> rfl
  · refine loopback?_congr ?_
    rw [session?_setTransport, if_neg heq]

theorem loopback?_resetStream (network : Network α) (session : SessionKey) (stream : StreamId)
    (code : ErrorCode) (place : SessionKey) :
    (network.resetStream quiet session stream code).loopback? place =
      if place = session then (network.loopback? place).map fun found => found.reset stream
      else network.loopback? place := by
  cases hsession : network.session? session with
  | none =>
      simp only [resetStream, hsession]
      split
      next heq => simp [loopback?, heq, hsession]
      next => rfl
  | some found =>
      obtain ⟨name, transport, attached⟩ := found
      cases transport with
      | recording recording =>
          have hnone : network.loopback? session = none := by simp [loopback?, hsession]
          have hsame : (network.resetStream quiet session stream code).loopback? place =
              network.loopback? place := by simp only [resetStream, hsession]; rfl
          rw [hsame]
          split
          next heq => rw [heq, hnone, Option.map_none]
          next => rfl
      | loopback loopback =>
          have hloopback : network.loopback? session = some loopback :=
            loopback?_eq_some.mpr ⟨name, attached, hsession⟩
          simp only [resetStream, hsession]
          refine (loopback?_setTransport hloopback (loopback.reset stream) place).trans ?_
          split
          next heq => rw [heq, hloopback, Option.map_some]
          next => rfl

private theorem loopback?_closeSession (network : Network α) (session : SessionKey)
    (code : ErrorCode) (reason : String) (place : SessionKey) :
    (network.closeSession quiet session code reason).1.loopback? place =
      if place = session then (network.loopback? place).map fun found => found.close.1
      else network.loopback? place := by
  cases hsession : network.session? session with
  | none =>
      simp only [closeSession, hsession]
      split
      next heq => simp [loopback?, heq, hsession]
      next => rfl
  | some found =>
      obtain ⟨name, transport, attached⟩ := found
      cases transport with
      | recording recording =>
          have hnone : network.loopback? session = none := by simp [loopback?, hsession]
          simp only [closeSession, hsession]
          refine (loopback?_setTransport_recording hnone _ place).trans ?_
          split
          next heq => rw [heq, hnone, Option.map_none]
          next => rfl
      | loopback loopback =>
          have hloopback : network.loopback? session = some loopback :=
            loopback?_eq_some.mpr ⟨name, attached, hsession⟩
          simp only [closeSession, hsession]
          refine (loopback?_setTransport hloopback loopback.close.1 place).trans ?_
          split
          next heq => rw [heq, hloopback, Option.map_some]
          next => rfl

/-! ## Opening a stream -/

/-- A loopback session decides by itself whether it opens a stream, and no other session
notices. -/
theorem openStream_of_loopback (hloopback : network.loopback? session = some loopback)
    (request : Http.Request) (listener : Listener) :
    (network.openStream quiet session request listener).2 =
        (loopback.openStream network.clock network.tickets request listener).2 ∧
      ∀ place, (network.openStream quiet session request listener).1.loopback? place =
        if place = session then
          some (loopback.openStream network.clock network.tickets request listener).1
        else network.loopback? place := by
  obtain ⟨name, attached, hsession⟩ := loopback?_eq_some.mp hloopback
  have hset := loopback?_setTransport hloopback
    (loopback.openStream network.clock network.tickets request listener).1
  unfold openStream
  simp only [hsession]
  split
  next stream hresult => exact ⟨hresult.symm, hset⟩
  next error hresult => exact ⟨hresult.symm, hset⟩

/-- Sessions of the other kind open their streams among themselves. -/
theorem openStream_of_recording (hnone : network.loopback? session = none)
    (request : Http.Request) (listener : Listener) (place : SessionKey) :
    (network.openStream quiet session request listener).1.loopback? place =
      network.loopback? place := by
  unfold openStream
  cases hsession : network.session? session with
  | none => rfl
  | some found =>
      obtain ⟨name, transport, attached⟩ := found
      cases transport with
      | loopback loopback => simp [loopback?, hsession] at hnone
      | recording recording =>
          simp only [quiet, hsession]
          split
          · rfl
          · exact loopback?_setTransport_recording hnone _ place

private theorem loopback?_openStream_of_error {request : Http.Request} {listener : Listener}
    {error : SessionError}
    (hresult : (network.openStream quiet session request listener).2 = .error error)
    (place : SessionKey) :
    (network.openStream quiet session request listener).1.loopback? place =
      network.loopback? place := by
  cases hloopback : network.loopback? session with
  | none => exact openStream_of_recording hloopback request listener place
  | some loopback =>
      obtain ⟨hsame, hafter⟩ := openStream_of_loopback hloopback request listener
      rw [hafter, LoopbackSession.openStream_of_error (hsame.symm.trans hresult)]
      split
      next heq => rw [heq, hloopback]
      next => rfl

/-- Only the session that is asked for a stream is concerned, and only if it is a loopback
session. -/
private theorem loopback?_openStream_elsewhere
    (hother : place = session → network.loopback? place = none) (request : Http.Request)
    (listener : Listener) :
    (network.openStream quiet session request listener).1.loopback? place =
      network.loopback? place := by
  cases hloopback : network.loopback? session with
  | none => exact openStream_of_recording hloopback request listener place
  | some loopback =>
      have hne : place ≠ session := by
        rintro rfl
        simp [hother rfl] at hloopback
      rw [(openStream_of_loopback hloopback request listener).2, if_neg hne]

/-! ## Dispatching -/

/-- A channel that is not cancelled keeps its new stream. -/
theorem giveStream_of_kept (hchannel : network.channel? id = some channel)
    (hkept : channel.cancelled = false) (stream : StreamId) :
    network.giveStream quiet id stream =
      network.modifyChannel id fun found => { found with stream := some stream } := by
  have hfound : (network.modifyChannel id fun found =>
      { found with stream := some stream }).channel? id =
      some { channel with stream := some stream } := by
    rw [channel?_modifyChannel, if_pos rfl, hchannel, Option.map_some]
  simp [giveStream, hfound, hkept]

private theorem loopback?_giveStream_elsewhere (hchannel : network.channel? id = some channel)
    (hother : place = channel.session → network.loopback? place = none) (stream : StreamId) :
    (network.giveStream quiet id stream).loopback? place = network.loopback? place := by
  have hfound : (network.modifyChannel id fun found =>
      { found with stream := some stream }).channel? id =
      some { channel with stream := some stream } := by
    rw [channel?_modifyChannel, if_pos rfl, hchannel, Option.map_some]
  simp only [giveStream, hfound]
  split
  · rw [loopback?_resetStream]
    split
    next heq =>
      have hnone : network.loopback? place = none := hother heq
      exact (congrArg _ hnone).trans hnone.symm
    next => rfl
  · rfl

/-- A channel that exists turns an exchange down, or gives it up because its owner is closed,
or asks its session for a stream. -/
theorem sendOnChannel_ways (hchannel : network.channel? id = some channel)
    (hexchange : network.exchange? target = some exchange) :
    (∃ error, network.sendOnChannel quiet id target = (network, .error error)) ∨
      ((network.bind id target).ownerIsClosed channel = true ∧
        network.sendOnChannel quiet id target =
          ((network.bind id target).giveUp id target, .error .closed)) ∨
      network.sendOnChannel quiet id target =
        match (network.bind id target).openStream quiet channel.session exchange.request
            (.channel id) with
        | (opened, .ok stream) => (opened.giveStream quiet id stream, .ok stream)
        | (opened, .error error) => (opened.giveUp id target, .error (.session error)) := by
  simp only [sendOnChannel, hchannel, hexchange]
  by_cases hresolved : exchange.isResolved = true
  · exact .inl ⟨.alreadyResolved, by rw [if_pos hresolved]⟩
  by_cases hbusy : network.isUnderWay exchange = true
  · exact .inl ⟨.alreadyBound, by rw [if_neg hresolved, if_pos hbusy]⟩
  rw [if_neg hresolved, if_neg hbusy]
  by_cases hclosed : (network.bind id target).ownerIsClosed channel = true
  · exact .inr (.inl ⟨hclosed, if_pos hclosed⟩)
  · exact .inr (.inr (if_neg hclosed))

/-- A send by hand concerns the session of the channel alone. -/
theorem loopback?_sendOnChannel_elsewhere (hchannel : network.channel? id = some channel)
    (hother : place = channel.session → network.loopback? place = none) (target : ExchangeId) :
    (network.sendOnChannel quiet id target).1.loopback? place = network.loopback? place := by
  cases hexchange : network.exchange? target with
  | none => simp only [sendOnChannel, hchannel, hexchange]
  | some exchange =>
      rcases sendOnChannel_ways hchannel hexchange with ⟨error, heq⟩ | ⟨-, heq⟩ | heq
      · rw [heq]
      · rw [heq]
        rfl
      have hbefore : place = channel.session →
          (network.bind id target).loopback? place = none := hother
      have hopened := loopback?_openStream_elsewhere hbefore exchange.request (.channel id)
      have haside := aside_openStream (network.bind id target) channel.session exchange.request
        (.channel id)
      rw [heq]
      split
      next opened stream hresult =>
        rw [hresult] at hopened haside
        have hbound : opened.channel? id = some { channel with exchange := some target } := by
          rw [haside.channel?]
          simp [bind, channel?_modifyChannel, hchannel]
        refine (loopback?_giveStream_elsewhere hbound (fun heq => ?_) stream).trans hopened
        exact hopened.trans (hother heq)
      next opened error hresult =>
        rw [hresult] at hopened
        exact hopened

private theorem loopback?_sendOnChannel_of_error {error : DispatchError}
    (hfailed : (network.sendOnChannel quiet id target).2 = .error error) (place : SessionKey) :
    (network.sendOnChannel quiet id target).1.loopback? place = network.loopback? place := by
  cases hchannel : network.channel? id with
  | none => simp only [sendOnChannel, hchannel]
  | some channel =>
  cases hexchange : network.exchange? target with
  | none => simp only [sendOnChannel, hchannel, hexchange]
  | some exchange =>
      rcases sendOnChannel_ways hchannel hexchange with ⟨failure, heq⟩ | ⟨-, heq⟩ | heq
      · rw [heq]
      · rw [heq]
        rfl
      rw [heq] at hfailed ⊢
      split
      next opened stream hresult => simp [hresult] at hfailed
      next opened failure hresult =>
        have hopened := loopback?_openStream_of_error
          (congrArg Prod.snd hresult : (Network.openStream quiet _ _ _ _).2 = _) place
        rw [hresult] at hopened
        exact hopened

private theorem sendOnChannel_of_ok (hchannel : network.channel? id = some channel)
    (hkept : channel.cancelled = false) (hexchange : network.exchange? target = some exchange)
    (hloopback : network.loopback? channel.session = some loopback)
    (hsent : (network.sendOnChannel quiet id target).2 = .ok stream) :
    (loopback.openStream network.clock network.tickets exchange.request (.channel id)).2 =
        .ok stream ∧
      (network.sendOnChannel quiet id target).1.loopback? channel.session = some
        (loopback.openStream network.clock network.tickets exchange.request (.channel id)).1 ∧
      ((network.sendOnChannel quiet id target).1.channel? id).bind Channel.stream =
        some stream := by
  rcases sendOnChannel_ways hchannel hexchange with ⟨error, heq⟩ | ⟨-, heq⟩ | heq
  · simp [heq] at hsent
  · simp [heq] at hsent
  have hbefore : (network.bind id target).loopback? channel.session = some loopback := hloopback
  obtain ⟨hsame, hafter⟩ :=
    openStream_of_loopback hbefore exchange.request (.channel id)
  have haside := aside_openStream (network.bind id target) channel.session exchange.request
    (.channel id)
  rw [heq] at hsent ⊢
  split
  next opened other hresult =>
    simp only [hresult] at hsent hsame hafter haside
    obtain rfl := Except.ok.inj hsent
    have hbound : opened.channel? id = some { channel with exchange := some target } := by
      rw [haside.channel?]
      simp [bind, channel?_modifyChannel, hchannel]
    rw [giveStream_of_kept hbound hkept]
    refine ⟨hsame.symm, (hafter channel.session).trans (if_pos rfl), ?_⟩
    rw [channel?_modifyChannel, if_pos rfl, hbound]
    rfl
  next opened error hresult => simp [hresult] at hsent

/-- A connection turns an exchange down, or dispatches it on a new channel. -/
theorem send_ways (hconnection : network.connection? key = some connection)
    (hexchange : network.exchange? target = some exchange) :
    (∃ final error, network.send quiet key target = (final, .error error) ∧
        final.session? = network.session?) ∨
      connection.isClosed = false ∧ network.send quiet key target =
        (network.registered key connection target exchange.request.normalize.1).sendRegistered
          quiet key network.nextChannel target := by
  simp only [send, hconnection, hexchange]
  by_cases hresolved : exchange.isResolved = true
  · exact .inl ⟨_, _, if_pos hresolved, rfl⟩
  rw [if_neg hresolved]
  cases hverdict : exchange.request.normalize.2 with
  | error error => exact .inl ⟨_, _, rfl, rfl⟩
  | ok accepted =>
      dsimp only
      cases hclosed : connection.isClosed with
      | true => exact .inl ⟨_, _, rfl, rfl⟩
      | false => exact .inr ⟨rfl, rfl⟩

/-- A send concerns the session of the connection alone. -/
theorem loopback?_send_elsewhere (hconnection : network.connection? key = some connection)
    (hother : place = connection.session → network.loopback? place = none) (target : ExchangeId) :
    (network.send quiet key target).1.loopback? place = network.loopback? place := by
  cases hexchange : network.exchange? target with
  | none => simp only [send, hconnection, hexchange]
  | some exchange =>
      rcases send_ways hconnection hexchange with ⟨final, error, heq, hsession⟩ | ⟨-, heq⟩
      · rw [heq]
        exact loopback?_congr (congrFun hsession place)
      · let ready := network.registered key connection target exchange.request.normalize.1
        have hnew : ready.channel? network.nextChannel = some (newcomer connection key) :=
          channel?_newcomer _
        have hbefore : place = (newcomer connection key).session →
            ready.loopback? place = none := hother
        have hsent := loopback?_sendOnChannel_elsewhere hnew hbefore target
        rw [heq]
        unfold sendRegistered
        split
        next sent stream hresult =>
          rw [hresult] at hsent
          exact hsent
        next sent error hresult =>
          rw [hresult] at hsent
          exact hsent

/-- A send that fails leaves all loopback sessions as they were. -/
theorem loopback?_send_of_error {error : DispatchError}
    (hfailed : (network.send quiet key target).2 = .error error) (place : SessionKey) :
    (network.send quiet key target).1.loopback? place = network.loopback? place := by
  cases hconnection : network.connection? key with
  | none => simp only [send, hconnection]
  | some connection =>
  cases hexchange : network.exchange? target with
  | none => simp only [send, hconnection, hexchange]
  | some exchange =>
      rcases send_ways hconnection hexchange with ⟨final, failure, heq, hsession⟩ | ⟨-, heq⟩
      · rw [heq]
        exact loopback?_congr (congrFun hsession place)
      · rw [heq] at hfailed ⊢
        unfold sendRegistered at hfailed ⊢
        split
        next sent stream hresult => simp [hresult] at hfailed
        next sent failure hresult =>
          have hsent := loopback?_sendOnChannel_of_error
            (congrArg Prod.snd hresult : (Network.sendOnChannel quiet _ _ _).2 = _) place
          rw [hresult] at hsent
          exact hsent

/-- A send that is accepted opens a stream of the connection's session for the new channel,
with the normalized request. -/
theorem send_of_ok (hconnection : network.connection? key = some connection)
    (hexchange : network.exchange? target = some exchange)
    (hloopback : network.loopback? connection.session = some loopback)
    (hsent : (network.send quiet key target).2 = .ok ()) :
    ∃ stream, (loopback.openStream network.clock network.tickets exchange.request.normalize.1
        (.channel network.nextChannel)).2 = .ok stream ∧
      (network.send quiet key target).1.loopback? connection.session = some
        (loopback.openStream network.clock network.tickets exchange.request.normalize.1
          (.channel network.nextChannel)).1 ∧
      ((network.send quiet key target).1.channel? network.nextChannel).bind Channel.stream =
        some stream := by
  rcases send_ways hconnection hexchange with ⟨final, error, heq, -⟩ | ⟨-, heq⟩
  · simp [heq] at hsent
  let ready := network.registered key connection target exchange.request.normalize.1
  have hnew : ready.channel? network.nextChannel = some (newcomer connection key) :=
    channel?_newcomer _
  have hnormalized : ready.exchange? target =
      some { exchange with request := exchange.request.normalize.1 } := by
    rw [exchange?_registered, if_pos rfl, hexchange]
    rfl
  rw [heq] at hsent ⊢
  unfold sendRegistered at hsent ⊢
  split
  next sent stream hresult =>
    obtain ⟨hopened, hafter, hstream⟩ := sendOnChannel_of_ok hnew rfl hnormalized
      (hloopback : ready.loopback? (newcomer connection key).session = some loopback)
      (congrArg Prod.snd hresult)
    rw [hresult] at hafter hstream
    refine ⟨stream, hopened, hafter, ?_⟩
    rw [letGoChannel, channel?_modifyChannel, if_pos rfl]
    obtain ⟨found, hfound, hgiven⟩ := Option.bind_eq_some_iff.mp hstream
    rw [hfound]
    exact hgiven
  next sent error hresult => simp [hresult] at hsent

/-! ## Releasing -/

/-- The stream that a session loses when a channel is released: the stream of the channel, if
it is one of this session, the channel is not over, and there is a code to reset it with. -/
def lost? (network : Network α) (id : ChannelId) (code : Option ErrorCode) (place : SessionKey) :
    Option StreamId :=
  match network.channel? id with
  | none => none
  | some channel =>
    if channel.released = false ∧ code.isSome = true ∧ channel.session = place then channel.stream
    else none

theorem session?_takeBack (network : Network α) (key : ConnectionKey) (id : ChannelId) :
    (network.takeBack quiet key id).session? = network.session? := by
  unfold takeBack
  split
  · rfl
  · split
    · dsimp only
      split
      · rfl
      · unfold announceRelease
        split
        · rfl
        · split <;> rfl
    · rfl

private theorem loopback?_retired (hchannel : network.channel? id = some channel)
    (hreleased : channel.released = false) (code : Option ErrorCode) (place : SessionKey) :
    (network.retired id channel code).loopback? place =
      (network.loopback? place).map fun found => found.lose (network.lost? id code place) := by
  have hsame : (network.retired id channel code).loopback? place =
      ((network.modifyChannel id fun found => { found with released := true }).shed channel
        code).loopback? place := rfl
  rw [hsame]
  unfold shed
  cases code with
  | none =>
      have hlost : network.lost? id none place = none := by simp [lost?, hchannel]
      rw [hlost]
      exact Option.map_id'.symm
  | some code =>
      cases hstream : channel.stream with
      | none =>
          have hlost : network.lost? id (some code) place = none := by
            simp [lost?, hchannel, hstream]
          rw [hlost]
          exact Option.map_id'.symm
      | some stream =>
          rw [loopback?_resetStream]
          by_cases heq : place = channel.session
          · have hlost : network.lost? id (some code) place = some stream := by
              simp [lost?, hchannel, hreleased, hstream, heq]
            rw [if_pos heq, hlost]
            rfl
          · have hne : channel.session ≠ place := fun hsame => heq hsame.symm
            have hlost : network.lost? id (some code) place = none := by
              simp [lost?, hchannel, hne]
            rw [if_neg heq, hlost]
            exact Option.map_id'.symm

/-- A release resets the stream of the channel in its session, if there is one. -/
theorem loopback?_releaseChannel (network : Network α) (id : ChannelId) (code : Option ErrorCode)
    (place : SessionKey) :
    (network.releaseChannel quiet id code).loopback? place =
      (network.loopback? place).map fun found => found.lose (network.lost? id code place) := by
  cases hchannel : network.channel? id with
  | none =>
      have hlost : network.lost? id code place = none := by simp [lost?, hchannel]
      rw [hlost]
      simp only [releaseChannel, hchannel]
      exact Option.map_id'.symm
  | some channel =>
      cases hreleased : channel.released with
      | true =>
          have hlost : network.lost? id code place = none := by simp [lost?, hchannel, hreleased]
          rw [hlost, releaseChannel_of_released hchannel hreleased]
          exact Option.map_id'.symm
      | false =>
          have hretired := loopback?_retired hchannel hreleased code place
          rw [releaseChannel_eq hchannel hreleased code]
          split
          · exact hretired
          · split
            · refine (loopback?_congr ?_).trans hretired
              rw [session?_takeBack]
            · exact hretired

private theorem loopback?_releaseChannel_none (network : Network α) (id : ChannelId)
    (place : SessionKey) :
    (network.releaseChannel quiet id none).loopback? place = network.loopback? place := by
  have hlost : network.lost? id none place = none := by
    unfold lost?
    split <;> simp
  rw [loopback?_releaseChannel, hlost]
  exact Option.map_id'

theorem lost?_congr {mark : Channel → Channel}
    (hmark : ∀ found : Channel, (mark found).released = found.released ∧
      (mark found).session = found.session ∧ (mark found).stream = found.stream)
    (hchannel : second.channel? id = (first.channel? id).map mark) (code : Option ErrorCode)
    (place : SessionKey) : second.lost? id code place = first.lost? id code place := by
  unfold lost?
  rw [hchannel]
  cases first.channel? id with
  | none => rfl
  | some found =>
      obtain ⟨hreleased, hsession, hstream⟩ := hmark found
      simp only [Option.map_some, hreleased, hsession, hstream]

/-- What a channel hears concerns no loopback session. -/
theorem loopback?_channelHears (network : Network α) (id : ChannelId) (event : StreamEvent)
    (place : SessionKey) :
    (network.channelHears quiet id event).loopback? place = network.loopback? place := by
  cases hchannel : network.channel? id with
  | none => rw [channelHears_of_none hchannel]
  | some channel =>
      cases hverdict : channel.verdict? event with
      | none => rw [channelHears_of_open hverdict]; rfl
      | some outcome =>
          obtain ⟨-, -, hsession, -⟩ :=
            (network.modifyChannel id (Channel.absorb event)).resolveCarried_frame id outcome
          rw [channelHears_of_last hchannel hverdict, loopback?_releaseChannel_none]
          exact loopback?_congr (congrFun hsession place)

/-- Who hears of a stream is no loopback session. -/
theorem loopback?_hears (network : Network α) (listener : Listener) (event : StreamEvent)
    (place : SessionKey) :
    (network.hears quiet listener event).loopback? place = network.loopback? place := by
  cases listener with
  | channel id => exact loopback?_channelHears network id event place
  | observer name => rfl

/-- The abort of an exchange resets the stream of its channel. -/
theorem loopback?_abort (hexchange : network.exchange? target = some exchange)
    (hunresolved : exchange.isResolved = false) (hbinding : exchange.binding = some id)
    (halive : network.isChannelAlive id = true) (error : ExchangeError) (place : SessionKey) :
    (network.abort quiet target error).1.loopback? place =
      (network.loopback? place).map fun found =>
        found.lose (network.lost? id (some .cancel) place) := by
  let settled := network.modifyExchange target fun found => found.settle (.error error)
  have hlost : (settled.modifyChannel id Channel.cancel).lost? id (some .cancel) place =
      network.lost? id (some .cancel) place := by
    have hmarked : (settled.modifyChannel id Channel.cancel).channel? id =
        (network.channel? id).map Channel.cancel := by
      rw [channel?_modifyChannel, if_pos rfl]
      rfl
    refine lost?_congr ?_ hmarked _ _
    exact fun _ => ⟨rfl, rfl, rfl⟩
  rw [abort_of_unresolved hexchange hunresolved]
  simp only [hbinding, halive, if_true]
  rw [← hlost]
  exact loopback?_releaseChannel (settled.modifyChannel id Channel.cancel) id (some .cancel) place

/-- Whatever an abort comes to, a session loses one stream at most. -/
theorem loopback?_abort_lost (network : Network α) (target : ExchangeId) (error : ExchangeError)
    (place : SessionKey) :
    ∃ stream?, (network.abort quiet target error).1.loopback? place =
      (network.loopback? place).map fun found => found.lose stream? := by
  have hsame : network.loopback? place =
      (network.loopback? place).map fun found => found.lose none := Option.map_id'.symm
  cases hexchange : network.exchange? target with
  | none => exact ⟨none, by simpa only [abort, hexchange] using hsame⟩
  | some exchange =>
      cases hresolved : exchange.isResolved with
      | true =>
          rw [abort_of_isResolved (by simp [isResolved, hexchange, hresolved])]
          exact ⟨none, hsame⟩
      | false =>
          cases hbinding : exchange.binding with
          | none =>
              rw [abort_of_unresolved hexchange hresolved, hbinding]
              exact ⟨none, hsame⟩
          | some id =>
              cases halive : network.isChannelAlive id with
              | true => exact ⟨_, loopback?_abort hexchange hresolved hbinding halive error place⟩
              | false =>
                  rw [abort_of_unresolved hexchange hresolved]
                  simp only [hbinding, halive]
                  exact ⟨none, hsame⟩

/-! ## Closing -/

theorem loopback?_announced (network : Network α) (key : ConnectionKey) (connection : Connection)
    (reason : CloseReason) (place : SessionKey) :
    (network.announced key connection reason).loopback? place =
      if place = connection.session then (network.loopback? place).map fun found => found.close.1
      else network.loopback? place := by
  obtain ⟨-, -, -, hsession, -⟩ := announceRemoval_frame (network.begun key) key
  have hsame : ((network.begun key).announceRemoval quiet key).loopback? place =
      network.loopback? place := loopback?_congr (congrFun hsession place)
  unfold announced
  rw [loopback?_closeSession, hsame]

private theorem lost?_of_live (hcoherent : Coherent network)
    (hconnection : network.connection? key = some connection) (hlive : id ∈ connection.live)
    (hne : place ≠ connection.session) (code : Option ErrorCode) :
    network.lost? id code place = none := by
  obtain ⟨found, waiting, exchange, hfound, hworks, -⟩ := hcoherent.works hconnection hlive
  have helsewhere : found.session ≠ place := fun heq => hne (heq ▸ hworks.session)
  simp [lost?, hfound, helsewhere]

section Close

variable (hsound : Sound network) (hconnection : network.connection? key = some connection)
  (hclean : ∀ loopback, network.loopback? place = some loopback → loopback.isClosed = true →
    loopback.streams = [])
include hsound hconnection hclean

omit hsound hconnection in
private theorem lose_of_kept (heq : place = connection.session) {found : LoopbackSession Listener}
    (hfound : (network.kept key connection reason).loopback? place = some found)
    (stream? : Option StreamId) : found.lose stream? = found := by
  have hkept : (network.kept key connection reason).loopback? place =
      (network.announced key connection reason).loopback? place :=
    loopback?_congr (congrFun (kept_frame network key connection reason).2.2.1 place)
  rw [hkept, loopback?_announced, if_pos heq] at hfound
  obtain ⟨before, hbefore, rfl⟩ := Option.map_eq_some_iff.mp hfound
  have hempty : before.close.1.streams = [] := by
    unfold LoopbackSession.close
    split
    next hover => exact hclean before hbefore hover
    next => rfl
  cases stream? with
  | none => rfl
  | some stream => exact before.close.1.reset_of_nil hempty stream

private theorem loopback?_cut :
    (connection.live.foldl (abortCarried quiet reason)
      (network.kept key connection reason)).loopback? place =
      (network.kept key connection reason).loopback? place := by
  have hdoomed := doomed_kept hsound.coherent hconnection reason
  refine Torn.cut_induction (motive := fun reached => reached.loopback? place =
    (network.kept key connection reason).loopback? place) hdoomed
    (hsound.coherent.nodup hconnection) rfl fun {done second id} htorn hsub hmem hnot hsame => ?_
  obtain ⟨channel, hchannel, hheld, -⟩ := hdoomed.kept id hmem
  unfold abortCarried
  rw [htorn.carried?_eq hnot]
  cases hcarried : (network.kept key connection reason).carried? id with
  | none => exact hsame
  | some target =>
      dsimp only
      rw [htorn.abort_eq hdoomed hsub hmem hnot hchannel hheld hcarried]
      let settled := second.modifyExchange target fun found =>
        found.settle (.error (.aborted reason))
      change ((settled.modifyChannel id Channel.cancel).releaseChannel quiet id
        (some .cancel)).loopback? place = _
      rw [loopback?_releaseChannel]
      change ((second.loopback? place).map _) = _
      rw [hsame]
      cases hfound : (network.kept key connection reason).loopback? place with
      | none => rfl
      | some found =>
          rw [Option.map_some]
          congr 1
          -- Only the session of the connection could lose a stream, and it has none left.
          by_cases heq : place = connection.session
          · exact lose_of_kept hclean heq hfound _
          · have hheld : second.channel? id = (network.channel? id).map Channel.hold := by
              rw [htorn.channel?, if_neg hnot, channel?_kept (hsound.coherent.nodup hconnection),
                if_pos hmem]
            have hmarked : (settled.modifyChannel id Channel.cancel).channel? id =
                (network.channel? id).map fun found => found.hold.cancel := by
              rw [channel?_modifyChannel, if_pos rfl]
              change (second.channel? id).map Channel.cancel = _
              rw [hheld, Option.map_map]
              rfl
            have hsame : (settled.modifyChannel id Channel.cancel).lost? id (some .cancel) place =
                network.lost? id (some .cancel) place := by
              refine lost?_congr ?_ hmarked _ _
              exact fun _ => ⟨rfl, rfl, rfl⟩
            rw [hsame, lost?_of_live hsound.coherent hconnection hmem heq]
            rfl

/-- A close closes the session of the connection, and concerns no other loopback session. -/
theorem loopback?_close (hopen : connection.isClosed = false) (reason : CloseReason) :
    (network.close quiet key reason).1.loopback? place =
      if place = connection.session then (network.loopback? place).map fun found => found.close.1
      else network.loopback? place := by
  have hkept : (network.kept key connection reason).loopback? place =
      (network.announced key connection reason).loopback? place :=
    loopback?_congr (congrFun (kept_frame network key connection reason).2.2.1 place)
  rw [close_of_open hconnection hopen]
  change (connection.live.foldl (abortCarried quiet reason)
    (network.kept key connection reason)).loopback? place = _
  rw [loopback?_cut hsound hconnection hclean, hkept, loopback?_announced]

end Close

end Network

end Multiplex
