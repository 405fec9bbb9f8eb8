import Multiplex.Network.Release

/-!
# Dispatching exchanges

To dispatch an exchange on a connection is to normalize its request, to make a
channel for it, to register the channel, and to open a stream.  Where a step
fails the ones before it are taken back: the channel is given up and the
exchange is free for another attempt.  The request stays normalized.

An exchange that is resolved is refused, and so is one that is bound to a channel
which is still under way; a channel that refuses an exchange for this reason is
not given up.
-/

namespace Multiplex.Network

variable {α : Type} (react : Reaction α)

/-! ## Opening streams -/

/-- Opens a stream for a request. -/
def openStream (network : Network α) (key : SessionKey) (request : Http.Request)
    (listener : Listener) : Network α × Except SessionError StreamId :=
  match network.session? key with
  | none => (network, .error .closed)
  | some session =>
    match session.transport with
    | .loopback loopback =>
      let (loopback, result) :=
        loopback.openStream network.clock network.tickets request listener
      let network :=
        { network.setTransport key (.loopback loopback) with tickets := network.tickets + 1 }
      match result with
      | .ok stream => (network.note (.streamOpened key stream request), .ok stream)
      | .error error => (network, .error error)
    | .recording _ =>
      let network := react (.openingStream key) network
      -- The surroundings may have closed the session or changed its mind.
      match network.session? key with
      | some ⟨_, .recording recording, _⟩ =>
        match recording.obstacle? with
        | some error => (network, .error error)
        | none =>
          let stream := recording.nextStream
          let network := network.setTransport key (.recording (recording.openNext listener))
          let network := network.note (.streamOpened key stream request)
          (react (.streamOpened key) network, .ok stream)
      | _ => (network, .error .closed)

/-! ## Dispatching on a channel -/

/-- Whether an exchange is bound to a channel that is still under way. -/
def isUnderWay (network : Network α) (exchange : Exchange) : Bool :=
  exchange.binding.any fun channel =>
    network.isChannelAlive channel &&
      (network.channel? channel).any fun found => !found.released

/-- Binds an exchange and a channel to each other. -/
def bind (network : Network α) (channel : ChannelId) (exchange : ExchangeId) : Network α :=
  (network.modifyExchange exchange fun found =>
      { found with binding := some channel }).modifyChannel channel fun found =>
    { found with exchange := some exchange }

/-- Gives up a channel before it has a stream, and frees its exchange. -/
def giveUp (network : Network α) (channel : ChannelId) (exchange : ExchangeId) : Network α :=
  (network.modifyChannel channel fun found =>
      { found with released := true, exchange := none }).modifyExchange exchange fun found =>
    { found with binding := none }

/-- Gives a channel its stream.  If the channel was cancelled while the stream
was being opened, the stream is reset at once. -/
def giveStream (network : Network α) (id : ChannelId) (stream : StreamId) : Network α :=
  let network := network.modifyChannel id fun found => { found with stream := some stream }
  match network.channel? id with
  | none => network
  | some channel =>
    if channel.cancelled then network.resetStream react channel.session stream .cancel
    else network

/-- Whether the owner of a channel is there and closed. -/
def ownerIsClosed (network : Network α) (channel : Channel) : Bool :=
  channel.owner.any fun key =>
    network.isConnectionAlive key &&
      (network.connection? key).any fun connection => connection.isClosed

/-- Sends an exchange on a channel. -/
def sendOnChannel (network : Network α) (channelId : ChannelId) (exchangeId : ExchangeId) :
    Network α × Except DispatchError StreamId :=
  match network.channel? channelId, network.exchange? exchangeId with
  | some channel, some exchange =>
    if exchange.isResolved then (network, .error .alreadyResolved)
    else if network.isUnderWay exchange then (network, .error .alreadyBound)
    else
      let network := network.bind channelId exchangeId
      if network.ownerIsClosed channel then
        (network.giveUp channelId exchangeId, .error .closed)
      else
        match network.openStream react channel.session exchange.request (.channel channelId) with
        | (network, .ok stream) => (network.giveStream react channelId stream, .ok stream)
        | (network, .error error) =>
          (network.giveUp channelId exchangeId, .error (.session error))
  | _, _ => (network, .error .closed)

/-! ## Dispatching on a connection -/

/-- Sends an exchange on a channel that a connection has just registered, and lets the
channel go.  Where this fails the connection forgets the channel. -/
def sendRegistered (network : Network α) (key : ConnectionKey) (channel : ChannelId)
    (id : ExchangeId) : Network α × Except DispatchError Unit :=
  match network.sendOnChannel react channel id with
  | (network, .ok _) => (network.letGoChannel channel, .ok ())
  | (network, .error error) =>
    ((network.modifyConnection key fun found => found.drop channel).letGoChannel channel,
      .error error)

/-- Sends an exchange on a connection. -/
def send (network : Network α) (key : ConnectionKey) (id : ExchangeId) :
    Network α × Except DispatchError Unit :=
  match network.connection? key, network.exchange? id with
  | some connection, some exchange =>
    if exchange.isResolved then (network, .error .alreadyResolved)
    else
      let (request, verdict) := exchange.request.normalize
      let network := network.modifyExchange id fun found => { found with request }
      match verdict with
      | .error error => (network, .error (.normalize error))
      | .ok () =>
        let (network, channel) := network.addChannel
          { connection := connection.id, owner := some key, session := connection.session }
        if connection.isClosed then (network, .error .closed)
        else
          let network := network.modifyConnection key fun found => found.register channel
          (network.retainChannel channel).sendRegistered react key channel id
  | _, _ => (network, .error .closed)

end Multiplex.Network
