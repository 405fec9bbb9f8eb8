import Multiplex.Scenario.Stage

/-!
# Steps on pools

What the steps on pools do.  A connection that a pool hands out is answered with
its label and let go at once; the pool's list keeps it.
-/

namespace Multiplex.Network

open Scenario

/-- Makes a pool.  A pool that had the name before lists nothing any more. -/
def makePool (world : World) (pool : Pool) : World :=
  let world := match world.findPool? pool.name with
    | some former => world.modifyPool former fun found => { found with listed := [] }
    | none => world
  let (world, key) := world.addPool pool
  world.restage fun stage => { stage with pools := stage.pools.give pool.name key }

/-- Answers with the connection that a pool handed out, and lets it go. -/
def answerPooled (world : World) (result : Except PoolError ConnectionKey) : World × Answer :=
  match result with
  | .ok key => (world.letGoConnection key, .pooled (world.connectionLabel key))
  | .error error => (world, .poolFailed error)

/-- Performs a step on a pool that was found. -/
def performOnPool (react : Reaction Stage) (world : World) (key : PoolKey) (pool : Pool) :
    PoolStep → World × Answer
  | .make _ _ _ _ => (world, .noObject)
  | .send _ exchange =>
    match world.findExchange? exchange with
    | none => (world, .noObject)
    | some exchange =>
      match (world.retain exchange).sendPooled react key exchange with
      | (world, some result) => (world.letGo exchange).answerPooled result
      | (world, none) => (world.restage fun stage => { stage with isBroken := true }, .done)
  | .acquire _ =>
    let (world, result) := world.acquire react key
    world.answerPooled result
  | .get _ id => (world, .listed ((pool.get? id).map world.connectionLabel))
  | .release _ id => (world.countRelease key id, .done)
  | .remove _ id => (world.modifyPool key fun found => found.unlist id, .done)
  | .close _ => (world.closePool react key, .done)

/-- Performs a step on a pool. -/
def performPool (react : Reaction Stage) (world : World) (step : PoolStep) : World × Answer :=
  match step with
  | .make name maxConnections maxStreams factory =>
    (world.makePool { name, maxConnections, maxStreams, factory }, .done)
  | step =>
    match world.findPool? step.name with
    | none => (world, .noObject)
    | some key =>
      match world.pool? key with
      | none => (world, .noObject)
      | some pool => world.performOnPool react key pool step

end Multiplex.Network
