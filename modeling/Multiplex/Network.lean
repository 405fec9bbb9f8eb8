import Multiplex.Connection
import Multiplex.Pool
import Multiplex.Table

/-!
# The network

The network is everything that exchanges move through: the exchanges, channels,
connections, sessions and pools there are, the clock, and the trace of what was
noticed outside.  Operations on it are functions from networks to networks.

## The trace

Every call that reaches a session or a destination leaves a notice, whatever the
session or the destination makes of it, and so does what an observer hears.

## Reactions

Some collaborators of the network are played by its surroundings, and these may
call back into the network in the middle of an operation: while a session or a
stream is being opened, while a connection is being torn down.  An operation therefore
takes a *reaction*, which says what the surroundings do at each such *moment*.
The reaction sees the network as it is at the moment, half done where the
operation is half done.  `quiet` is the reaction of surroundings that only look
on.  What the surroundings remember is the component `surroundings`, which the
operations themselves never read.
-/

namespace Multiplex

/-! ## Notices -/

/-- A call to a collaborator: to a session, to the destination of a connection, to
the factory of a pool, or to an observer. -/
inductive Notice
  | attached (session : SessionKey)
  | opening (pool : PoolKey) (number : Nat)
  | streamOpened (session : SessionKey) (stream : StreamId) (request : Http.Request)
  | streamReset (session : SessionKey) (stream : StreamId) (code : ErrorCode)
  | sessionClosed (session : SessionKey) (code : ErrorCode) (reason : String) (first : Bool)
  | released (connection : ConnectionKey)
  | removed (connection : ConnectionKey)
  | heard (observer : String) (event : StreamEvent)
  deriving DecidableEq

/-- A point in an operation at which the surroundings may act. -/
inductive Moment
  | openingSession (pool : PoolKey)
  | attached (session : SessionKey)
  | openingStream (session : SessionKey)
  | streamOpened (session : SessionKey)
  | streamReset (session : SessionKey)
  | sessionClosed (session : SessionKey)
  | released (connection : ConnectionKey)
  | removed (connection : ConnectionKey)
  deriving DecidableEq, Repr, Inhabited

/-! ## The state -/

/-- Everything that exchanges move through. -/
structure Network (α : Type) where
  exchanges : Table Exchange := {}
  channels : Table Channel := {}
  connections : Table Connection := {}
  sessions : Table Session := {}
  pools : Table Pool := {}
  clock : Nat := 0
  tickets : Nat := 0
  trace : Array Notice := #[]
  surroundings : α

/-- What the surroundings do at a moment. -/
abbrev Reaction (α : Type) := Moment → Network α → Network α

/-- Surroundings that only look on. -/
def quiet {α : Type} : Reaction α := fun _ network => network

namespace Network

variable {α : Type}

/-- Adds a notice to the trace. -/
def note (network : Network α) (notice : Notice) : Network α :=
  { network with trace := network.trace.push notice }

/-! ## Finding

Everything is found by its identity or by its place. -/

def exchange? (network : Network α) (exchange : ExchangeId) : Option Exchange :=
  network.exchanges.get? exchange.number

def channel? (network : Network α) (channel : ChannelId) : Option Channel :=
  network.channels.get? channel.number

def connection? (network : Network α) (connection : ConnectionKey) : Option Connection :=
  network.connections.get? connection.number

def session? (network : Network α) (session : SessionKey) : Option Session :=
  network.sessions.get? session.number

def pool? (network : Network α) (pool : PoolKey) : Option Pool :=
  network.pools.get? pool.number

/-! ## Adding

What is added gets the next identity or place, which is the second component. -/

def addExchange (network : Network α) (exchange : Exchange) : Network α × ExchangeId :=
  let id : ExchangeId := ⟨network.exchanges.size + 1⟩
  ({ network with exchanges := network.exchanges.insert exchange }, id)

def addChannel (network : Network α) (channel : Channel) : Network α × ChannelId :=
  let id : ChannelId := ⟨network.channels.size + 1⟩
  ({ network with channels := network.channels.insert channel }, id)

def addConnection (network : Network α) (connection : Connection) :
    Network α × ConnectionKey :=
  let key : ConnectionKey := ⟨network.connections.size + 1⟩
  ({ network with connections := network.connections.insert connection }, key)

def addSession (network : Network α) (session : Session) : Network α × SessionKey :=
  let key : SessionKey := ⟨network.sessions.size + 1⟩
  ({ network with sessions := network.sessions.insert session }, key)

def addPool (network : Network α) (pool : Pool) : Network α × PoolKey :=
  let key : PoolKey := ⟨network.pools.size + 1⟩
  ({ network with pools := network.pools.insert pool }, key)

/-! ## Changing

What is not there is not changed, and nothing else is. -/

def modifyExchange (network : Network α) (exchange : ExchangeId)
    (change : Exchange → Exchange) : Network α :=
  { network with exchanges := network.exchanges.modify exchange.number change }

def modifyChannel (network : Network α) (channel : ChannelId)
    (change : Channel → Channel) : Network α :=
  { network with channels := network.channels.modify channel.number change }

def modifyConnection (network : Network α) (connection : ConnectionKey)
    (change : Connection → Connection) : Network α :=
  { network with connections := network.connections.modify connection.number change }

def modifySession (network : Network α) (session : SessionKey)
    (change : Session → Session) : Network α :=
  { network with sessions := network.sessions.modify session.number change }

def modifyPool (network : Network α) (pool : PoolKey) (change : Pool → Pool) : Network α :=
  { network with pools := network.pools.modify pool.number change }

/-- Replaces the transport of a session. -/
def setTransport (network : Network α) (session : SessionKey) (transport : Transport) :
    Network α :=
  network.modifySession session fun found => { found with transport }

/-! ## What is still there

An exchange is kept by who holds a handle of it; a connection by who holds a
handle of it and by the pool that lists it; a channel by who holds a handle of
it, by its connection while it is under way, and by its session while the stream
is known.  Whoever works with one of them holds a handle meanwhile. -/

/-- Whether a connection is still there. -/
def isConnectionAlive (network : Network α) (key : ConnectionKey) : Bool :=
  match network.connection? key with
  | none => false
  | some connection =>
    connection.isHeld ||
      match connection.destination with
      | .pool pool => (network.pool? pool).any fun found => found.lists key
      | _ => false

/-- Whether a channel is still there. -/
def isChannelAlive (network : Network α) (id : ChannelId) : Bool :=
  match network.channel? id with
  | none => false
  | some channel =>
    channel.isHeld ||
      (channel.owner.any fun key =>
        network.isConnectionAlive key &&
          (network.connection? key).any fun connection => connection.live.contains id) ||
      (network.session? channel.session).any fun session =>
        session.transport.knows (.channel id)

/-- The exchange that a channel carries: none once the channel was released, and
none if nobody holds the exchange any more. -/
def carried? (network : Network α) (id : ChannelId) : Option ExchangeId := do
  let channel ← network.channel? id
  if channel.released then none else
    let exchange ← channel.exchange
    if (network.exchange? exchange).any Exchange.isHeld then some exchange else none

/-- The exchanges under way on a connection, in the order of its channels. -/
def liveExchanges (network : Network α) (connection : Connection) : List ExchangeId :=
  connection.live.filterMap network.carried?

/-- How a connection is written in running text: with its session. -/
def connectionText (network : Network α) (connection : Connection) : String :=
  let session := match network.session? connection.session with
    | some session => session.inspect
    | none => ""
  "ConnectionMultiplexer@" ++ connection.id.text ++ "[" ++ session ++ "]"

/-! ## Handles and outcomes -/

/-- One more handle of an exchange. -/
def retain (network : Network α) (exchange : ExchangeId) : Network α :=
  network.modifyExchange exchange fun found => { found with handles := found.handles + 1 }

/-- One handle of an exchange less. -/
def letGo (network : Network α) (exchange : ExchangeId) : Network α :=
  network.modifyExchange exchange fun found => { found with handles := found.handles - 1 }

/-- One more handle of a connection. -/
def retainConnection (network : Network α) (connection : ConnectionKey) : Network α :=
  network.modifyConnection connection fun found => { found with handles := found.handles + 1 }

/-- One handle of a connection less. -/
def letGoConnection (network : Network α) (connection : ConnectionKey) : Network α :=
  network.modifyConnection connection fun found => { found with handles := found.handles - 1 }

/-- One more handle of a channel. -/
def retainChannel (network : Network α) (channel : ChannelId) : Network α :=
  network.modifyChannel channel fun found => { found with handles := found.handles + 1 }

/-- One handle of a channel less. -/
def letGoChannel (network : Network α) (channel : ChannelId) : Network α :=
  network.modifyChannel channel fun found => { found with handles := found.handles - 1 }

/-- Whether an exchange is resolved; one that does not exist is not. -/
def isResolved (network : Network α) (exchange : ExchangeId) : Bool :=
  (network.exchange? exchange).any Exchange.isResolved

/-- Gives an exchange an outcome unless it has one.  Whether it had none is the
second component. -/
def resolve (network : Network α) (exchange : ExchangeId) (outcome : Outcome) :
    Network α × Bool :=
  (network.modifyExchange exchange fun found => found.resolve outcome,
    !network.isResolved exchange)

/-- Claims the outcome of an exchange.  The first claim gets the outcome, or
waits for it where there is none yet; later claims find the exchange dropped. -/
def claim (network : Network α) (id : ExchangeId) : Network α × Option Outcome :=
  match network.exchange? id with
  | none => (network, some (.error .dropped))
  | some exchange =>
    if exchange.claimed then (network, some (.error .dropped))
    else
      (network.modifyExchange id fun found => { found with claimed := true }, exchange.outcome)

end Network

end Multiplex
