import Multiplex.Network

/-!
# Releasing channels and aborting exchanges

A channel is released once, and in this order: the stream is reset if the
exchange was aborted, the connection forgets the channel, and the destination is
told, unless the connection is closed.  Whatever comes later finds the channel
released and does nothing.

An exchange that is aborted is resolved first, so that nothing which happens
while its channel is torn down can resolve it otherwise.
-/

namespace Multiplex.Network

variable {α : Type} (react : Reaction α)

/-! ## Sessions -/

/-- Resets a stream. -/
def resetStream (network : Network α) (key : SessionKey) (stream : StreamId)
    (code : ErrorCode) : Network α :=
  match network.session? key with
  | none => network
  | some session =>
    match session.transport with
    | .loopback loopback =>
      (network.setTransport key (.loopback (loopback.reset stream))).note
        (.streamReset key stream code)
    | .recording _ =>
      react (.streamReset key) (network.note (.streamReset key stream code))

/-- Closes a session.  Whether this was the first close is the second
component. -/
def closeSession (network : Network α) (key : SessionKey) (code : ErrorCode)
    (reason : String) : Network α × Bool :=
  match network.session? key with
  | none => (network, false)
  | some session =>
    match session.transport with
    | .loopback loopback =>
      let (loopback, first) := loopback.close
      ((network.setTransport key (.loopback loopback)).note
        (.sessionClosed key code reason first), first)
    | .recording recording =>
      let first := !recording.isClosed
      let network := network.setTransport key (.recording { recording with isClosed := true })
      (react (.sessionClosed key) (network.note (.sessionClosed key code reason first)), first)

/-- Closes a session and calls back.  What the callback makes of `memory` is the last
component; nobody calls back where there is no session. -/
def closeSessionCalling {κ : Type} (network : Network α) (key : SessionKey) (code : ErrorCode)
    (reason : String) (callback : CloseCallback κ) (memory : κ) : Network α × Bool × κ :=
  match network.session? key with
  | none => (network, false, memory)
  | some session =>
    match session.transport with
    | .loopback loopback =>
      let (loopback, first, memory) := loopback.closeCalling callback memory
      ((network.setTransport key (.loopback loopback)).note
        (.sessionClosed key code reason first), first, memory)
    | .recording _ =>
      let (network, first) := network.closeSession react key code reason
      (network, first, callback (.ok ()) memory)

/-- A session calls back once, whether the close was the first or not. -/
theorem closeSessionCalling_eq {κ : Type} {network : Network α} {key : SessionKey}
    (hthere : (network.session? key).isSome = true) (code : ErrorCode) (reason : String)
    (callback : CloseCallback κ) (memory : κ) :
    network.closeSessionCalling react key code reason callback memory =
      ((network.closeSession react key code reason).1,
        (network.closeSession react key code reason).2, callback (.ok ()) memory) := by
  obtain ⟨⟨name, transport, attached⟩, hsession⟩ := Option.isSome_iff_exists.mp hthere
  cases transport with
  | loopback loopback =>
      simp only [closeSessionCalling, closeSession, hsession, LoopbackSession.closeCalling_eq]
  | recording recording => simp only [closeSessionCalling, hsession]

/-! ## Destinations -/

/-- A pool counts the releases of the open connections that it lists. -/
def countRelease (network : Network α) (key : PoolKey) (id : ConnectionId) : Network α :=
  let isOpen := fun (pool : Pool) =>
    ((pool.get? id).bind network.connection?).any fun connection => !connection.isClosed
  network.modifyPool key fun pool =>
    if isOpen pool then { pool with releases := pool.releases + 1 } else pool

/-- Tells the destination of a connection that a channel was released. -/
def announceRelease (network : Network α) (key : ConnectionKey) : Network α :=
  match network.connection? key with
  | none => network
  | some connection =>
    match connection.destination with
    | .gone => network
    | .observed => react (.released key) (network.note (.released key))
    | .pool pool => (network.note (.released key)).countRelease pool connection.id

/-- Tells the destination of a connection that it goes away. -/
def announceRemoval (network : Network α) (key : ConnectionKey) : Network α :=
  match network.connection? key with
  | none => network
  | some connection =>
    match connection.destination with
    | .gone => network
    | .observed => react (.removed key) (network.note (.removed key))
    | .pool pool =>
      (network.note (.removed key)).modifyPool pool fun found => found.unlist connection.id

/-! ## Channels -/

/-- A connection takes back a channel: it forgets the channel and, while it is
open, tells its destination.  A channel that is not under way is ignored. -/
def takeBack (network : Network α) (key : ConnectionKey) (channel : ChannelId) : Network α :=
  match network.connection? key with
  | none => network
  | some connection =>
    if connection.live.contains channel then
      let network := network.modifyConnection key fun found => found.drop channel
      if connection.isClosed then network else network.announceRelease react key
    else network

/-- Releases a channel once, after resetting its stream with `code` if there is
one. -/
def releaseChannel (network : Network α) (id : ChannelId) (code : Option ErrorCode) :
    Network α :=
  match network.channel? id with
  | none => network
  | some channel =>
    if channel.released then network
    else
      let network := network.modifyChannel id fun found => { found with released := true }
      let network := match code, channel.stream with
        | some code, some stream => network.resetStream react channel.session stream code
        | _, _ => network
      let network := network.modifyChannel id fun found => { found with exchange := none }
      match channel.owner with
      | none => network
      | some key =>
        if network.isConnectionAlive key then network.takeBack react key id else network

/-- Cancels a channel: from now on a stream that it still opens is reset. -/
def cancelChannel (network : Network α) (id : ChannelId) : Network α :=
  (network.modifyChannel id fun found => { found with cancelled := true }).releaseChannel
    react id (some .cancel)

/-! ## Exchanges -/

/-- Aborts an exchange and cancels the channel that it is bound to.  Whether the
exchange was still unresolved is the second component. -/
def abort (network : Network α) (id : ExchangeId) (error : ExchangeError) :
    Network α × Bool :=
  match network.exchange? id with
  | none => (network, false)
  | some exchange =>
    match network.resolve id (.error error) with
    | (network, false) => (network, false)
    | (network, true) =>
      let network := network.modifyExchange id fun found => { found with binding := none }
      match exchange.binding with
      | none => (network, true)
      | some channel =>
        if network.isChannelAlive channel then (network.cancelChannel react channel, true)
        else (network, true)

end Multiplex.Network
