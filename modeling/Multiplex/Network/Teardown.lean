import Multiplex.Network.Release

/-!
# Closing connections

A connection is closed once.  First it counts as closed, so that nothing can be
dispatched on it; then its destination is told, so that nobody picks it any
more; then its session is closed; last, every exchange that is under way is
aborted with the reason of the close.  The channels are forgotten before the
first exchange is aborted, so no release is announced for them.

The channels are aborted one after the other in a given order.
-/

namespace Multiplex.Network

variable {α : Type} (react : Reaction α)

/-- Aborts the exchange that a channel carries, if it carries one, and lets the
channel go. -/
def abortCarried (reason : CloseReason) (network : Network α) (channel : ChannelId) :
    Network α :=
  let network := match network.carried? channel with
    | none => network
    | some exchange => (network.abort react exchange (.aborted reason)).1
  network.letGoChannel channel

/-- Aborts the exchanges that several channels carry, in the given order.  The
channels are kept until it is their turn. -/
def abortInOrder (network : Network α) (reason : CloseReason) (order : List ChannelId) :
    Network α :=
  order.foldl (abortCarried react reason) (order.foldl retainChannel network)

/-- Forgets all channels of a connection and aborts their exchanges. -/
def abortLive (network : Network α) (key : ConnectionKey) (reason : CloseReason) :
    Network α :=
  match network.connection? key with
  | none => network
  | some connection =>
    (network.modifyConnection key fun found => { found with live := [] }).abortInOrder
      react reason connection.live

/-- Closes a connection.  Whether this was the first close is the second
component. -/
def close (network : Network α) (key : ConnectionKey) (reason : CloseReason) :
    Network α × Bool :=
  match network.connection? key with
  | none => (network, false)
  | some connection =>
    if connection.isClosed then (network, false)
    else
      let network := network.modifyConnection key fun found => { found with isClosed := true }
      let network := (network.retainConnection key).announceRemoval react key
      let (network, _) := network.closeSession react connection.session .noError reason.message
      ((network.abortLive react key reason).letGoConnection key, true)

/-! ## What happens to a session as a whole -/

/-- The connection that listens to a session, if it is still there. -/
def sessionListener? (network : Network α) (key : SessionKey) : Option ConnectionKey :=
  ((network.session? key).bind Session.attached).filter network.isConnectionAlive

/-- The peer closes a session: the connection that listens is closed with the
peer's reason. -/
def goAway (network : Network α) (key : SessionKey) (code : ErrorCode) (reason : String) :
    Network α :=
  match network.sessionListener? key with
  | none => network
  | some connection => (network.close react connection (.byPeer code reason)).1

/-- The transport of a session fails: the connection that listens is closed. -/
def failSession (network : Network α) (key : SessionKey) (error : SessionError) : Network α :=
  match network.sessionListener? key with
  | none => network
  | some connection => (network.close react connection (.ofSessionError error)).1

/-- Makes a connection listen to a session. -/
def attach (network : Network α) (key : SessionKey) (connection : ConnectionKey) :
    Network α :=
  match network.session? key with
  | none => network
  | some session =>
    let network := network.modifySession key fun found =>
      { found with attached := some connection }
    let network := network.note (.attached key)
    match session.transport with
    | .loopback _ => network
    | .recording _ => react (.attached key) network

/-- Makes a connection over a session. -/
def connect (network : Network α) (connection : Connection) : Network α × ConnectionKey :=
  let (network, key) := network.addConnection connection
  (network.attach react connection.session key, key)

end Multiplex.Network
