import Multiplex.Network.Dispatch
import Multiplex.Network.Teardown

/-!
# Pooled connections

A pool hands out a listed connection with capacity, or opens a new one while it
may.  An exchange is tried on one connection after another as long as the
failures may be cured by going elsewhere.

A new connection listens to its session before the pool lists it.  Whoever
closes a pool closes the connections that were listed at that moment, one after
the other in a given order.
-/

namespace Multiplex.Network

variable {α : Type} (react : Reaction α)

/-! ## Acquiring a connection -/

/-- A listed connection with capacity. -/
def available? (network : Network α) (pool : Pool) : Option ConnectionKey :=
  (pool.listed.map Prod.snd).find? fun key =>
    (network.connection? key).any Connection.hasCapacity

/-- Opens a session and a connection over it, and lists the connection.  Whoever
asked for the connection holds its first handle.  The surroundings may act while the
factory is at work. -/
def openConnection (network : Network α) (key : PoolKey) (pool : Pool) :
    Network α × Except PoolError ConnectionKey :=
  let number := pool.opened + 1
  let id : ConnectionId := ⟨number⟩
  let (factory, result) := pool.factory.openSession id
  let network := network.modifyPool key fun found => { found with factory, opened := number }
  let network := react (.openingSession key) (network.note (.opening key number))
  match result with
  | .error error => (network, .error (.openFailed error))
  | .ok transport =>
    let (network, session) := network.addSession { name := pool.label number, transport }
    let (network, connection) := network.connect react
      { id, destination := .pool key, session, limit := pool.maxStreams }
    (network.modifyPool key fun found => found.list id connection, .ok connection)

/-- Provides a connection with capacity, together with a handle of it. -/
def acquire (network : Network α) (key : PoolKey) : Network α × Except PoolError ConnectionKey :=
  match network.pool? key with
  | none => (network, .error .closed)
  | some pool =>
    match network.available? pool with
    | some connection => (network.retainConnection connection, .ok connection)
    | none =>
      if pool.isClosed then (network, .error .closed)
      else if pool.maxConnections ≤ pool.size then
        (network, .error (.exhausted pool.maxConnections))
      else network.openConnection react key pool

/-! ## Sending -/

/-- Tries an exchange on connections of a pool, so many times at most.  `last`
is the failure of the attempt before. -/
def attempt (network : Network α) (key : PoolKey) (id : ExchangeId) :
    Nat → Option DispatchError → Network α × Except PoolError ConnectionKey
  | 0, last =>
    match last, network.pool? key with
    | some error, _ => (network, .error (.sendFailed error))
    | none, some pool => (network, .error (.exhausted pool.maxConnections))
    | none, none => (network, .error .closed)
  | attempts + 1, _ =>
    if (network.pool? key).all Pool.isClosed then (network, .error .closed)
    else
      match network.acquire react key with
      | (network, .error error) => (network, .error error)
      | (network, .ok connection) =>
        match network.send react connection id with
        | (network, .ok ()) => (network, .ok connection)
        | (network, .error error) =>
          let network := network.letGoConnection connection
          if error.isRetryable && !network.isResolved id then
            network.attempt key id attempts (some error)
          else (network, .error (.sendFailed error))

/-- Sends an exchange on a connection of a pool, and hands out the connection that
took it.  Where the number of attempts is no word the sender stops before it has done
anything, and there is no result. -/
def sendPooled (network : Network α) (key : PoolKey) (id : ExchangeId) :
    Network α × Option (Except PoolError ConnectionKey) :=
  match network.pool? key with
  | none => (network, some (.error .closed))
  | some pool =>
    match pool.attempts? with
    | none => (network, none)
    | some attempts =>
      let (network, result) := network.attempt react key id attempts none
      (network, some result)

/-! ## Closing -/

/-- Closes several connections in the given order. -/
def closeInOrder (network : Network α) (order : List ConnectionKey) : Network α :=
  order.foldl (fun network connection => (network.close react connection .requested).1) network

/-- Closes a pool and the connections that it lists. -/
def closePool (network : Network α) (key : PoolKey) : Network α :=
  match network.pool? key with
  | none => network
  | some pool =>
    if pool.isClosed then network
    else
      (network.modifyPool key fun found => { found with isClosed := true }).closeInOrder
        react (pool.listed.map Prod.snd)

end Multiplex.Network
