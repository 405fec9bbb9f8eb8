import Multiplex.Scenario.Stage

/-!
# Steps on channels

What the steps on channels do that a scenario makes by hand.  Such a channel is
not registered with its owner, which it only reports to.
-/

namespace Multiplex.Network

open Scenario

/-- Makes a channel for an owner that was found, or for none. -/
def makeChannel (world : World) (name : String) (owner : Option ConnectionKey)
    (connection : ConnectionId) (session : String) : World × Answer :=
  match world.findSession? session with
  | none => (world, .noObject)
  | some session =>
    let (world, id) := world.addChannel { connection, owner, session, handles := 1 }
    (world.nameChannel name id, .madeChannel id)

/-- Performs a step on a channel. -/
def performChannel (react : Reaction Stage) (world : World) (step : ChannelStep) :
    World × Answer :=
  match step with
  | .make name none connection session => world.makeChannel name none connection session
  | .make name (some owner) connection session =>
    match world.findConnection? owner with
    | none => (world, .noObject)
    | some owner => world.makeChannel name (some owner) connection session
  | .send name exchange =>
    match world.findChannel? name, world.findExchange? exchange with
    | some channel, some exchange =>
      let (world, result) :=
        ((world.retainChannel channel).retain exchange).sendOnChannel react channel exchange
      ((world.letGoChannel channel).letGo exchange,
        match result with
        | .ok stream => .opened stream
        | .error error => .undispatched error)
    | _, _ => (world, .noObject)
  | .inspect name =>
    match world.findChannel? name with
    | none => (world, .noObject)
    | some id =>
      match world.channel? id with
      | none => (world, .noObject)
      | some channel =>
        let exchange := (world.carried? id).map world.birthName
        (world, .channel channel.connection exchange channel.stream channel.released
          (channel.inspect id))

end Multiplex.Network
