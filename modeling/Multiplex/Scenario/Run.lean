import Multiplex.Scenario.Perform.Channel
import Multiplex.Scenario.Perform.Connection
import Multiplex.Scenario.Perform.Exchange
import Multiplex.Scenario.Perform.Pool
import Multiplex.Scenario.Perform.Session

/-!
# Running a scenario

A scenario runs step by step.  Whenever an operation reaches a point at which a
hook waits, the steps of the hook are performed there, and hooks may wait at the
points which these reach in turn.  Every hook fires once, so the nesting is no
deeper than the number of hooks in the scenario, which bounds the recursion.

A scenario in which a sender stops has no records: it ends there as a whole.
-/

namespace Multiplex.Network

open Scenario

/-! ## One step -/

/-- Performs a step.  `rounds` bounds how often answers are delivered that become
due at once. -/
def perform (react : Reaction Stage) (rounds : Nat) (world : World) (step : Step) :
    World × Answer :=
  match step with
  | .session step => world.performSession react step
  | .connection step => world.performConnection react step
  | .exchange step => world.performExchange react step
  | .channel step => world.performChannel react step
  | .pool step => world.performPool react step
  | .report target event => world.performReport react target event
  | .advance milliseconds =>
    let world := ((world.deliverAll react rounds).elapse milliseconds).deliverAll react rounds
    (world, .done)
  | .hook name point steps =>
    (world.restage fun stage => { stage with hooks := stage.hooks ++ [⟨name, point, steps⟩] },
      .done)

/-- Performs steps one after the other. -/
def performAll (react : Reaction Stage) (rounds : Nat) (world : World) :
    List Step → World × List Answer
  | [] => (world, [])
  | step :: steps =>
    let (world, answer) := world.perform react rounds step
    let (world, answers) := world.performAll react rounds steps
    (world, answer :: answers)

/-- Fires the oldest hook that waits at a moment.  Hooks nest up to `depth`. -/
def fire (rounds : Nat) : Nat → Reaction Stage
  | 0 => quiet
  | depth + 1 => fun moment world =>
    match world.pointOf? moment with
    | none => world
    | some (name, point) =>
      match world.surroundings.takeHook? name point with
      | none => world
      | some (steps, stage) =>
        let world : World := { world with surroundings := stage }
        let (world, answers) := world.performAll (fire rounds depth) rounds steps
        world.record (.hooked name point answers)

/-! ## The summary -/

/-- The state of a connection. -/
def summarizeConnection (world : World) (key : ConnectionKey) : Option ConnectionSummary := do
  let connection ← world.connection? key
  let live := (world.liveExchanges connection).map world.birthName
  return {
    status := connection.status
    channelCount := connection.channelCount
    hasCapacity := connection.hasCapacity
    live := live.mergeSort fun first second => first ≤ second }

/-- The state of a pool. -/
def summarizePool (world : World) (key : PoolKey) : Option PoolSummary := do
  let pool ← world.pool? key
  return {
    size := pool.size
    releases := pool.releases
    connections := pool.listed.filterMap fun (_, connection) =>
      (world.summarizeConnection connection).map fun summary =>
        (world.connectionLabel connection, summary) }

/-- The names of the exchanges that have their outcome. -/
def resolvedNames (world : World) : List String :=
  let resolved := world.surroundings.exchanges.entries.filter fun entry =>
    world.isResolved entry.2
  (resolved.map Prod.fst).mergeSort fun first second => first ≤ second

/-- The open streams of the loopback sessions; of sessions with the same name only
the last one counts. -/
def openStreamCounts (world : World) : List (String × Nat) :=
  world.loopbacks.filterMap fun (key, loopback) =>
    let name := world.sessionName key
    if world.findSession? name == some key then some (name, loopback.openStreams) else none

/-- The state of the named objects. -/
def summarize (world : World) : Summary where
  connections := world.surroundings.connections.entries.filterMap fun (name, key) =>
    (world.summarizeConnection key).map fun summary => (name, summary)
  pools := world.surroundings.pools.entries.filterMap fun (name, key) =>
    (world.summarizePool key).map fun summary => (name, summary)
  resolved := world.resolvedNames
  openStreams := world.openStreamCounts

/-! ## The run -/

/-- Makes a listed connection known under its label. -/
def keepListed (world : World) (key : ConnectionKey) : World :=
  let label := world.connectionLabel key
  match world.surroundings.pooled.find? label with
  | some known =>
    if known == key then world
    else
      ((world.letGoConnection known).retainConnection key).restage fun stage =>
        { stage with pooled := stage.pooled.give label key }
  | none =>
    (world.retainConnection key).restage fun stage =>
      { stage with pooled := stage.pooled.give label key }

/-- Makes the connections that the pools list known. -/
def keepAllListed (world : World) : World :=
  let pools := world.surroundings.pools.entries.filterMap fun entry => world.pool? entry.2
  (pools.flatMap fun pool => pool.listed.map Prod.snd).foldl keepListed world

/-- Performs a step of the scenario itself and collects what it leaves. -/
def performRecorded (react : Reaction Stage) (rounds : Nat) (world : World) (step : Step) :
    World × Record :=
  let world := world.restage fun stage => { stage with log := #[] }
  let (world, answer) := world.perform react rounds step
  let world := world.flush.keepAllListed
  let events := world.surroundings.log.toList
  let events := if step.isSpread then Event.sortWitnesses events else events
  (world, ⟨answer, Event.sortResets events, world.summarize⟩)

end Multiplex.Network

namespace Multiplex.Scenario

/-- Performs the steps of a scenario.  Once the stage is broken there is nothing to tell. -/
def runFrom (react : Reaction Stage) (rounds : Nat) (world : World) :
    List Step → Option (List Record)
  | [] => some []
  | step :: steps =>
    let (world, record) := world.performRecorded react rounds step
    if world.surroundings.isBroken then none
    else (runFrom react rounds world steps).map (record :: ·)

/-- Runs a scenario from the beginning. -/
def run (steps : List Step) : Option (List Record) :=
  let hooks := stepsHookCount steps
  runFrom (Network.fire (hooks + 1) hooks) (hooks + 1) { surroundings := {} } steps

end Multiplex.Scenario
