import Multiplex.Scenario.Stage

/-!
# Steps on connections

What the steps on connections do.  A connection and an exchange are kept while a
step works with them, even if the step's own hooks take their names away.
-/

namespace Multiplex.Network

open Scenario

variable (react : Reaction Stage)

/-- Makes a connection over a session. -/
def makeConnection (world : World) (name : String) (id : ConnectionId) (session : String)
    (limit : Nat) (observed : Bool) : World × Answer :=
  match world.findSession? session with
  | none => (world, .noObject)
  | some session =>
    let destination : Destination := if observed then .observed else .gone
    let (world, key) := world.connect react { id, destination, session, limit }
    let world := if observed then world.nameObserver name key else world
    (world.nameConnection name key, .done)

/-- Tells about a connection. -/
def inspectConnection (world : World) (key : ConnectionKey) : Answer :=
  match world.connection? key with
  | none => .noObject
  | some connection =>
    .connection (world.connectionText connection) connection.inspect
      ((world.session? connection.session).any fun session => session.transport.isClosed)

/-- Sends an exchange on a connection and keeps both meanwhile. -/
def sendHeld (world : World) (key : ConnectionKey) (exchange : ExchangeId) : World × Answer :=
  let (world, result) := ((world.retainConnection key).retain exchange).send react key exchange
  ((world.letGoConnection key).letGo exchange,
    match result with
    | .ok () => .done
    | .error error => .unsent error)

/-- Performs a step on a connection. -/
def performConnection (world : World) (step : ConnectionStep) : World × Answer :=
  match step with
  | .make name id session limit observed =>
    world.makeConnection react name id session limit observed
  | .inspect name =>
    match world.findConnection? name with
    | none => (world, .noObject)
    | some key => (world, world.inspectConnection key)
  | .drop name =>
    let (world, had) := world.dropConnection name
    (world, .verdict had)
  | .dropObserver name =>
    let (world, had) := world.dropObserver name
    (world, .verdict had)
  | .send name exchange =>
    match world.findConnection? name, world.findExchange? exchange with
    | some key, some exchange => world.sendHeld react key exchange
    | _, _ => (world, .noObject)
  | .close name reason =>
    match world.findConnection? name with
    | none => (world, .noObject)
    | some key =>
      let (world, first) := world.close react key reason
      (world, .verdict first)
  | .release name channel =>
    match world.findConnection? name, world.findChannel? channel with
    | some key, some channel =>
      (((world.retainConnection key).takeBack react key channel).letGoConnection key, .done)
    | _, _ => (world, .noObject)

end Multiplex.Network
