import Multiplex.Scenario.Stage

/-!
# Steps on exchanges

What the steps on exchanges do.  A claim that found no outcome can be kept under
a name; it then holds a handle of its exchange, so that the outcome still
arrives when the exchange has lost all names.  A claim that is not kept is lost,
and the outcome with it.
-/

namespace Multiplex.Network

open Scenario

/-- Makes an exchange and notes the name that it was born with. -/
def makeExchange (world : World) (name : String) (draft : Http.RequestDraft) :
    World × Answer :=
  match draft.build with
  | .error error => (world, .badDraft error)
  | .ok request =>
    let (world, exchange) := world.addExchange { request }
    let world := world.restage fun stage =>
      { stage with births := (exchange, name) :: stage.births }
    (world.nameExchange name exchange, .done)

/-- Claims the outcome of an exchange. -/
def awaitOutcome (world : World) (exchange : ExchangeId) (keep : Option String) :
    World × Answer :=
  match world.claim exchange with
  | (world, some outcome) => (world, .outcome outcome)
  | (world, none) =>
    match keep with
    | none => (world, .pending)
    | some name => ((world.retain exchange).nameClaim name exchange, .pending)

/-- Gives up a kept claim. -/
def dropClaim (world : World) (name : String) : World × Bool :=
  match world.surroundings.claims.find? name with
  | none => (world, false)
  | some exchange =>
    ((world.letGo exchange).restage fun stage =>
      { stage with claims := stage.claims.erase name }, true)

/-- Asks a kept claim for the outcome. -/
def pollClaim (world : World) (name : String) : World × Answer :=
  match world.surroundings.claims.find? name with
  | none => (world, .noClaim)
  | some exchange =>
    match (world.exchange? exchange).bind Exchange.outcome with
    | none => (world, .pending)
    | some outcome => ((world.dropClaim name).1, .outcome outcome)

/-- Takes a name away from an exchange. -/
def dropExchange (world : World) (name : String) : World × Bool :=
  match world.findExchange? name with
  | none => (world, false)
  | some exchange =>
    ((world.letGo exchange).restage fun stage =>
      { stage with exchanges := stage.exchanges.erase name }, true)

/-- Performs a step on an exchange that was found. -/
def performOnExchange (react : Reaction Stage) (world : World) (id : ExchangeId)
    (exchange : Exchange) : ExchangeStep → World × Answer
  | .clone _ name => ((world.retain id).nameExchange name id, .done)
  | .same _ other =>
    match world.findExchange? other with
    | none => (world, .noObject)
    | some other => (world, .verdict (id == other))
  | .inspect _ => (world, .exchange id (exchange.inspect id))
  | .request _ => (world, .request exchange.request)
  | .abort _ error =>
    let (world, first) := (world.retain id).abort react id error
    (world.letGo id, .verdict first)
  | .awaitOutcome _ keep => world.awaitOutcome id keep
  | _ => (world, .noObject)

/-- Performs a step on an exchange. -/
def performExchange (react : Reaction Stage) (world : World) (step : ExchangeStep) :
    World × Answer :=
  match step with
  | .make name draft => world.makeExchange name draft
  | .drop name =>
    let (world, had) := world.dropExchange name
    (world, .verdict had)
  | .poll name => world.pollClaim name
  | .dropClaim name =>
    let (world, had) := world.dropClaim name
    (world, .verdict had)
  | step =>
    match world.findExchange? step.name with
    | none => (world, .noObject)
    | some id =>
      match world.exchange? id with
      | none => (world, .noObject)
      | some exchange => world.performOnExchange react id exchange step

end Multiplex.Network
