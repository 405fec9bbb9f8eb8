import Multiplex.Proofs.Network.Lookup

/-!
# Calls to sessions and destinations

A call to a session or to a destination changes what that collaborator keeps for
itself, and leaves a notice.  Exchanges, channels and connections do not change.
`Aside` is this relation between two networks; it keeps of a session whether it is
closed and who listens to it, and of a pool which connections it lists.

Throughout, the surroundings only look on.
-/

namespace Multiplex

/-- What a connection relies on in its session. -/
def Session.outline (session : Session) : Option ConnectionKey × Bool :=
  (session.attached, session.transport.isClosed)

/-- What a connection relies on in its pool. -/
def Pool.outline (pool : Pool) : Nat × List (ConnectionId × ConnectionKey) :=
  (pool.opened, pool.listed)

namespace Network

variable {α : Type}

/-- Two networks that differ only in what sessions and pools keep for themselves,
in the clock and in the trace. -/
structure Aside (first second : Network α) : Prop where
  exchange? : second.exchange? = first.exchange?
  channel? : second.channel? = first.channel?
  connection? : second.connection? = first.connection?
  nextChannel : second.nextChannel = first.nextChannel
  session : ∀ key, (second.session? key).map Session.outline =
    (first.session? key).map Session.outline
  pool : ∀ key, (second.pool? key).map Pool.outline = (first.pool? key).map Pool.outline

namespace Aside

theorem refl (network : Network α) : Aside network network :=
  ⟨rfl, rfl, rfl, rfl, fun _ => rfl, fun _ => rfl⟩

theorem trans {first second third : Network α} (hleft : Aside first second)
    (hright : Aside second third) : Aside first third where
  exchange? := hright.exchange?.trans hleft.exchange?
  channel? := hright.channel?.trans hleft.channel?
  connection? := hright.connection?.trans hleft.connection?
  nextChannel := hright.nextChannel.trans hleft.nextChannel
  session key := (hright.session key).trans (hleft.session key)
  pool key := (hright.pool key).trans (hleft.pool key)

theorem note (network : Network α) (notice : Notice) : Aside network (network.note notice) :=
  ⟨rfl, rfl, rfl, rfl, fun _ => rfl, fun _ => rfl⟩

/-- A session that keeps its listener and stays as closed as it was. -/
theorem setTransport {network : Network α} {key : SessionKey} {session : Session}
    (hsession : network.session? key = some session) (transport : Transport)
    (hclosed : transport.isClosed = session.transport.isClosed) :
    Aside network (network.setTransport key transport) := by
  refine ⟨rfl, rfl, rfl, rfl, fun other => ?_, fun _ => rfl⟩
  rw [session?_setTransport]
  split
  case isTrue heq =>
    subst heq
    simp [hsession, Session.outline, hclosed]
  case isFalse => rfl

theorem modifyPool (network : Network α) (key : PoolKey) {change : Pool → Pool}
    (hchange : ∀ pool, (change pool).outline = pool.outline) :
    Aside network (network.modifyPool key change) := by
  refine ⟨rfl, rfl, rfl, rfl, fun _ => rfl, fun other => ?_⟩
  rw [pool?_modifyPool]
  split
  case isTrue => cases network.pool? other <;> simp [hchange]
  case isFalse => rfl

variable {first second : Network α}

theorem modifyExchange (haside : Aside first second) (id : ExchangeId)
    (change : Exchange → Exchange) :
    Aside (first.modifyExchange id change) (second.modifyExchange id change) := by
  refine ⟨?_, haside.channel?, haside.connection?, haside.nextChannel, haside.session,
    haside.pool⟩
  funext other
  simp only [exchange?_modifyExchange, haside.exchange?]

theorem modifyChannel (haside : Aside first second) (id : ChannelId)
    (change : Channel → Channel) :
    Aside (first.modifyChannel id change) (second.modifyChannel id change) := by
  refine ⟨haside.exchange?, ?_, haside.connection?, ?_, haside.session, haside.pool⟩
  · funext other
    simp only [channel?_modifyChannel, haside.channel?]
  · simpa using haside.nextChannel

theorem modifyConnection (haside : Aside first second) (key : ConnectionKey)
    (change : Connection → Connection) :
    Aside (first.modifyConnection key change) (second.modifyConnection key change) := by
  refine ⟨haside.exchange?, haside.channel?, ?_, haside.nextChannel, haside.session,
    haside.pool⟩
  funext other
  simp only [connection?_modifyConnection, haside.connection?]

private theorem lists_eq (haside : Aside first second) (pool : PoolKey) (key : ConnectionKey) :
    ((second.pool? pool).any fun found => found.lists key) =
      (first.pool? pool).any fun found => found.lists key := by
  have houtline := haside.pool pool
  cases hfirst : first.pool? pool with
  | none => simp_all
  | some found =>
      cases hsecond : second.pool? pool with
      | none => simp_all
      | some other =>
          simp only [hfirst, hsecond, Option.map_some, Pool.outline, Option.some.injEq,
            Prod.mk.injEq] at houtline
          simp [Pool.lists, houtline.2]

theorem isConnectionAlive_eq (haside : Aside first second) (key : ConnectionKey) :
    second.isConnectionAlive key = first.isConnectionAlive key := by
  simp only [isConnectionAlive, haside.connection?]
  split
  · rfl
  · congr 1
    split
    · exact haside.lists_eq _ _
    · rfl

end Aside

/-! ## Sessions -/

section Sessions

variable (network : Network α)

theorem aside_resetStream (key : SessionKey) (stream : StreamId) (code : ErrorCode) :
    Aside network (network.resetStream quiet key stream code) := by
  unfold resetStream
  split
  · exact .refl network
  next session hsession =>
    split
    next loopback htransport =>
      have hclosed : (Transport.loopback (loopback.reset stream)).isClosed =
          session.transport.isClosed := by
        simp only [Transport.isClosed, htransport, LoopbackSession.reset]
        split <;> rfl
      exact (Aside.setTransport hsession _ hclosed).trans (.note _ _)
    · exact .note _ _

/-- A reset is noticed once, at every session that exists. -/
theorem trace_resetStream (key : SessionKey) (stream : StreamId) (code : ErrorCode) :
    (network.resetStream quiet key stream code).trace.toList = network.trace.toList ++
      if (network.session? key).isSome then [.streamReset key stream code] else [] := by
  unfold resetStream
  split
  next hsession => simp [hsession]
  next session hsession => split <;> simp [hsession, quiet]

theorem aside_openStream (key : SessionKey) (request : Http.Request) (listener : Listener) :
    Aside network (network.openStream quiet key request listener).1 := by
  unfold openStream
  split
  · exact .refl network
  next session hsession =>
    split
    next loopback htransport =>
      have hopened : Aside network { network.setTransport key (.loopback
          (loopback.openStream network.clock network.tickets request listener).1) with
          tickets := network.tickets + 1 } := by
        have hset := Aside.setTransport hsession
          (.loopback (loopback.openStream network.clock network.tickets request listener).1)
          (by simp [Transport.isClosed, htransport])
        exact ⟨hset.1, hset.2, hset.3, hset.4, hset.5, hset.6⟩
      dsimp only
      split
      · exact hopened.trans (.note _ _)
      · exact hopened
    next recording htransport =>
      obtain ⟨name, transport, attached⟩ := session
      subst htransport
      simp only [quiet, hsession]
      split
      · exact .refl network
      · exact (Aside.setTransport hsession _ (by rfl)).trans (.note _ _)

/-- A stream that was opened is noticed, a refused one is not. -/
theorem trace_openStream (key : SessionKey) (request : Http.Request) (listener : Listener) :
    (network.openStream quiet key request listener).1.trace =
      match (network.openStream quiet key request listener).2 with
      | .ok stream => network.trace.push (.streamOpened key stream request)
      | .error _ => network.trace := by
  unfold openStream
  split
  · rfl
  next session hsession =>
    split
    · dsimp only
      split <;> rfl
    · obtain ⟨name, transport, attached⟩ := session
      simp_all only [quiet]
      split <;> rfl

theorem openStream_of_isClosed {key : SessionKey} {session : Session}
    (hsession : network.session? key = some session)
    (hclosed : session.transport.isClosed = true) (request : Http.Request)
    (listener : Listener) :
    ∃ error, (network.openStream quiet key request listener).2 = .error error := by
  obtain ⟨name, transport, attached⟩ := session
  cases transport with
  | loopback loopback =>
      have hloopback : loopback.isClosed = true := hclosed
      exact ⟨.closed, by simp [openStream, hsession, LoopbackSession.openStream, hloopback]⟩
  | recording recording =>
      have hrecording : recording.isClosed = true := hclosed
      exact ⟨.closed, by simp [openStream, hsession, quiet, RecordingSession.obstacle?,
        hrecording]⟩

/-- Closing a session changes nothing but the session, which is closed afterwards. -/
theorem closeSession_frame (key : SessionKey) (code : ErrorCode) (reason : String) :
    (network.closeSession quiet key code reason).1.exchange? = network.exchange? ∧
      (network.closeSession quiet key code reason).1.channel? = network.channel? ∧
      (network.closeSession quiet key code reason).1.connection? = network.connection? ∧
      (network.closeSession quiet key code reason).1.pool? = network.pool? ∧
      (network.closeSession quiet key code reason).1.nextChannel = network.nextChannel := by
  unfold closeSession
  split
  · exact ⟨rfl, rfl, rfl, rfl, rfl⟩
  · split <;> exact ⟨rfl, rfl, rfl, rfl, rfl⟩

theorem outline_closeSession (key other : SessionKey) (code : ErrorCode) (reason : String) :
    ((network.closeSession quiet key code reason).1.session? other).map Session.outline =
      if other = key then (network.session? other).map fun found => (found.attached, true)
      else (network.session? other).map Session.outline := by
  unfold closeSession
  split
  next hsession =>
    split
    case isTrue heq => simp [heq, hsession]
    case isFalse => rfl
  next session hsession =>
    split
    all_goals
      dsimp only [quiet]
      simp only [note_frame, session?_setTransport]
      split
      case isTrue heq => simp [heq, hsession, Session.outline, Transport.isClosed]
      case isFalse => rfl

theorem trace_closeSession {key : SessionKey} {session : Session}
    (hsession : network.session? key = some session) (code : ErrorCode) (reason : String) :
    (network.closeSession quiet key code reason).1.trace =
      network.trace.push (.sessionClosed key code reason
        (network.closeSession quiet key code reason).2) := by
  simp only [closeSession, hsession]
  split <;> rfl

/-- Whether closing a session would be the first close of it. -/
def isFresh (network : Network α) (session : SessionKey) : Bool :=
  (network.session? session).any fun found => !found.transport.isClosed

theorem closeSession_snd (network : Network α) (session : SessionKey) (code : ErrorCode)
    (reason : String) :
    (network.closeSession quiet session code reason).2 = network.isFresh session := by
  cases hsession : network.session? session with
  | none => simp only [closeSession, isFresh, hsession, Option.any_none]
  | some found =>
      obtain ⟨name, transport, attached⟩ := found
      cases transport with
      | loopback loopback =>
          simp only [closeSession, isFresh, hsession, Option.any_some, Transport.isClosed,
            LoopbackSession.close]
          cases hclosed : loopback.isClosed <;> rfl
      | recording recording =>
          simp only [closeSession, isFresh, hsession, Option.any_some, Transport.isClosed]

end Sessions

/-! ## Destinations -/

section Destinations

variable (network : Network α)

/-- What a destination notices of a release, if there is one. -/
def releaseNotices (network : Network α) (key : ConnectionKey) : List Notice :=
  if (network.connection? key).any fun found => found.destination != .gone then
    [.released key]
  else []

private theorem aside_countRelease (key : PoolKey) (id : ConnectionId) :
    Aside network (network.countRelease key id) := by
  refine Aside.modifyPool network key fun pool => ?_
  dsimp only
  split <;> rfl

theorem aside_announceRelease (key : ConnectionKey) :
    Aside network (network.announceRelease quiet key) := by
  unfold announceRelease
  split
  · exact .refl network
  · split
    · exact .refl network
    · exact .note _ _
    · exact (Aside.note _ _).trans (aside_countRelease _ _ _)

theorem trace_announceRelease (key : ConnectionKey) :
    (network.announceRelease quiet key).trace.toList =
      network.trace.toList ++ network.releaseNotices key := by
  unfold announceRelease releaseNotices
  split
  next hconnection => simp [hconnection]
  next connection hconnection =>
    split
    next hgone => simp [hconnection, hgone]
    next hobserved => simp [hconnection, hobserved, quiet]
    next pool hpool => simp [hconnection, hpool, countRelease]

/-- Telling a destination that a connection goes away changes nothing but the list of
a pool. -/
theorem announceRemoval_frame (key : ConnectionKey) :
    (network.announceRemoval quiet key).exchange? = network.exchange? ∧
      (network.announceRemoval quiet key).channel? = network.channel? ∧
      (network.announceRemoval quiet key).connection? = network.connection? ∧
      (network.announceRemoval quiet key).session? = network.session? ∧
      (network.announceRemoval quiet key).nextChannel = network.nextChannel := by
  unfold announceRemoval
  split
  · exact ⟨rfl, rfl, rfl, rfl, rfl⟩
  · split <;> exact ⟨rfl, rfl, rfl, rfl, rfl⟩

theorem pool?_announceRemoval {key : ConnectionKey} {connection : Connection}
    (hconnection : network.connection? key = some connection) (pool : PoolKey) :
    (network.announceRemoval quiet key).pool? pool =
      if connection.destination = .pool pool then
        (network.pool? pool).map fun found => found.unlist connection.id
      else network.pool? pool := by
  unfold announceRemoval
  simp only [hconnection]
  split
  next hgone => simp [hgone]
  next hobserved => simp [hobserved, quiet]
  next other hpool =>
    rw [hpool, pool?_modifyPool]
    simp only [note_frame, Destination.pool.injEq, eq_comm]

theorem trace_announceRemoval {key : ConnectionKey} {connection : Connection}
    (hconnection : network.connection? key = some connection) :
    (network.announceRemoval quiet key).trace.toList =
      network.trace.toList ++
        if connection.destination = .gone then [] else [.removed key] := by
  unfold announceRemoval
  simp only [hconnection]
  split
  next hgone => simp [hgone]
  next hobserved => simp [hobserved, quiet]
  next pool hpool => simp [hpool]

end Destinations

end Network

end Multiplex
