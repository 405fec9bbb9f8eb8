import Multiplex.Network.Delivery
import Multiplex.Network.Pooling
import Multiplex.Scenario.Names
import Multiplex.Scenario.Report

/-!
# The stage of a scenario

The stage is what a scenario remembers besides the network: the names of the
objects, the hooks that wait, and the events of the current step.  A name is a
handle: what loses its name loses a handle.  The stage is broken once a sender has
stopped without a result.

Connections have names of two kinds.  Those that a scenario made come first;
those of a pool follow, and are known from the end of the first step behind which
the pool listed them.
-/

namespace Multiplex.Scenario

/-- What a scenario remembers. -/
structure Stage where
  exchanges : Names ExchangeId := {}
  births : List (ExchangeId × String) := []
  claims : Names ExchangeId := {}
  channels : Names ChannelId := {}
  connections : Names ConnectionKey := {}
  pooled : Names ConnectionKey := {}
  observers : Names ConnectionKey := {}
  pools : Names PoolKey := {}
  hooks : List Hook := []
  log : Array Event := #[]
  isBroken : Bool := false

/-- Takes the oldest hook that waits at a point. -/
def Stage.takeHook? (stage : Stage) (name : String) (point : Point) :
    Option (List Step × Stage) := do
  let isWanted := fun (hook : Hook) => hook.name == name && hook.point == point
  let hook ← stage.hooks.find? isWanted
  return (hook.steps, { stage with hooks := stage.hooks.eraseP isWanted })

/-- A network with the stage of a scenario around it. -/
abbrev World := Network Stage

end Multiplex.Scenario

namespace Multiplex.Network

open Scenario

/-- Changes the stage. -/
def restage (world : World) (change : Stage → Stage) : World :=
  { world with surroundings := change world.surroundings }

/-! ## Finding objects by their names -/

def findExchange? (world : World) (name : String) : Option ExchangeId :=
  world.surroundings.exchanges.find? name

def findChannel? (world : World) (name : String) : Option ChannelId :=
  world.surroundings.channels.find? name

/-- A connection that the scenario made, or else a pooled one. -/
def findConnection? (world : World) (name : String) : Option ConnectionKey :=
  world.surroundings.connections.find? name <|> world.surroundings.pooled.find? name

def findPool? (world : World) (name : String) : Option PoolKey :=
  world.surroundings.pools.find? name

/-- The last session that was made under a name. -/
def findSession? (world : World) (name : String) : Option SessionKey :=
  (((List.range world.sessions.size).map fun index => SessionKey.mk (index + 1)).reverse).find?
    fun key => (world.session? key).any fun session => session.name == name

/-! ## Names of objects -/

/-- The name of a session. -/
def sessionName (world : World) (key : SessionKey) : String :=
  ((world.session? key).map Session.name).getD ""

/-- The name of the observer of a connection. -/
def observerName (world : World) (key : ConnectionKey) : String :=
  (world.surroundings.observers.nameOf? key).getD ""

/-- The number of a connection. -/
def connectionId (world : World) (key : ConnectionKey) : ConnectionId :=
  ((world.connection? key).map Connection.id).getD default

/-- The name under which the session of a pooled connection is known. -/
def poolLabel (world : World) (key : PoolKey) (number : Nat) : String :=
  ((world.pool? key).map fun pool => pool.label number).getD ""

/-- The name under which a pooled connection is known. -/
def connectionLabel (world : World) (key : ConnectionKey) : String :=
  ((world.connection? key).map fun connection => world.sessionName connection.session).getD ""

/-- The name under which an exchange was made. -/
def birthName (world : World) (exchange : ExchangeId) : String :=
  (world.surroundings.births.lookup exchange).getD ""

/-! ## The log -/

/-- Writes a notice with the names of the scenario. -/
def eventOf (world : World) : Notice → Event
  | .attached session => .attached (world.sessionName session)
  | .opening pool number => .opening (world.poolLabel pool number)
  | .streamOpened session stream request =>
    .streamOpened (world.sessionName session) stream request
  | .streamReset session stream code => .streamReset (world.sessionName session) stream code
  | .sessionClosed session code reason first =>
    .sessionClosed (world.sessionName session) code reason first
  | .released connection =>
    .released (world.observerName connection) (world.connectionId connection)
  | .removed connection =>
    .removed (world.observerName connection) (world.connectionId connection)
  | .heard observer event => .heard observer event

/-- Whether the scenario plays a session itself. -/
def playsSession (world : World) (key : SessionKey) : Bool :=
  match (world.session? key).map Session.transport with
  | some (.loopback _) => false
  | _ => true

/-- Whether the scenario plays the destination of a connection itself. -/
def playsDestination (world : World) (key : ConnectionKey) : Bool :=
  match (world.connection? key).map Connection.destination with
  | some (.pool _) => false
  | _ => true

/-- Whether a notice is about a collaborator that the scenario plays itself. -/
def isWitnessed (world : World) : Notice → Bool
  | .attached session => world.playsSession session
  | .streamOpened session _ _ => world.playsSession session
  | .streamReset session _ _ => world.playsSession session
  | .sessionClosed session _ _ _ => world.playsSession session
  | .released connection => world.playsDestination connection
  | .removed connection => world.playsDestination connection
  | .opening _ _ => true
  | .heard _ _ => true

/-- Moves what was noticed since the last time into the log. -/
def flush (world : World) : World :=
  let events := (world.trace.filter world.isWitnessed).map world.eventOf
  { world with
    trace := #[]
    surroundings := { world.surroundings with log := world.surroundings.log ++ events } }

/-- Adds an event behind everything that was noticed. -/
def record (world : World) (event : Event) : World :=
  world.flush.restage fun stage => { stage with log := stage.log.push event }

/-! ## Hooks -/

/-- The point that a moment is, and the name of the object it belongs to. -/
def pointOf? (world : World) : Moment → Option (String × Point)
  | .openingSession _ | .attached _ => none
  | .openingStream session => some (world.sessionName session, .newStream)
  | .streamOpened session => some (world.sessionName session, .opened)
  | .streamReset session => some (world.sessionName session, .reset)
  | .sessionClosed session => some (world.sessionName session, .close)
  | .released connection => some (world.observerName connection, .release)
  | .removed connection => some (world.observerName connection, .remove)

/-! ## Handles

Giving a name to an object takes it from the object that had it before. -/

/-- Gives a name to an exchange that was retained for it. -/
def nameExchange (world : World) (name : String) (exchange : ExchangeId) : World :=
  let world := match world.findExchange? name with
    | some former => world.letGo former
    | none => world
  world.restage fun stage => { stage with exchanges := stage.exchanges.give name exchange }

/-- Keeps a claim that was retained for it under a name. -/
def nameClaim (world : World) (name : String) (exchange : ExchangeId) : World :=
  let world := match world.surroundings.claims.find? name with
    | some former => world.letGo former
    | none => world
  world.restage fun stage => { stage with claims := stage.claims.give name exchange }

/-- Gives a name to a channel that was retained for it. -/
def nameChannel (world : World) (name : String) (channel : ChannelId) : World :=
  let world := match world.findChannel? name with
    | some former => world.letGoChannel former
    | none => world
  world.restage fun stage => { stage with channels := stage.channels.give name channel }

/-- Takes the observer away that a name stands for. -/
def dropObserver (world : World) (name : String) : World × Bool :=
  match world.surroundings.observers.find? name with
  | none => (world, false)
  | some key =>
    let world := world.modifyConnection key fun found => { found with destination := .gone }
    (world.restage fun stage => { stage with observers := stage.observers.erase name }, true)

/-- Gives a name to an observed connection's observer. -/
def nameObserver (world : World) (name : String) (key : ConnectionKey) : World :=
  ((world.dropObserver name).1).restage fun stage =>
    { stage with observers := stage.observers.give name key }

/-- Takes a name away from a connection. -/
def dropConnection (world : World) (name : String) : World × Bool :=
  match world.surroundings.connections.find? name with
  | none => (world, false)
  | some key =>
    ((world.letGoConnection key).restage fun stage =>
      { stage with connections := stage.connections.erase name }, true)

/-- Gives a name to a connection that was retained for it. -/
def nameConnection (world : World) (name : String) (key : ConnectionKey) : World :=
  ((world.dropConnection name).1).restage fun stage =>
    { stage with connections := stage.connections.give name key }

end Multiplex.Network
