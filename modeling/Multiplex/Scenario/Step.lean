import Multiplex.Pool

/-!
# Steps of a scenario

A scenario is a list of steps that make objects, let them act on each other and
ask about them.  Objects are addressed by names, which the scenario chooses.  The
connections of a pool and their sessions are addressed as the pool's name with a
number.

Recording sessions and the observers of connections are played by the scenario.
A `hook` tells what they do, once, when an operation reaches a certain point: its
steps run in the middle of that operation.
-/

namespace Multiplex.Scenario

/-- The points of an operation at which a hook can wait: four on a session and
two on the observer of a connection. -/
inductive Point
  | newStream
  | opened
  | reset
  | close
  | release
  | remove
  deriving DecidableEq, Repr, Inhabited

/-- Where a stream event is sent: to the listener of a stream, or to a channel. -/
inductive Target
  | stream (session : String) (stream : StreamId)
  | channel (channel : String)
  deriving DecidableEq, Repr, Inhabited

/-- Steps on sessions.  A loopback session needs a clock; without one it cannot
be made. -/
inductive SessionStep
  | makeRecording (name : String) (refusal : Option SessionError)
  | makeLoopback (name : String) (id : ConnectionId) (limit delay : Nat)
      (responder : Responder) (hasClock : Bool)
  | inspect (session : String)
  | close (session : String) (code : ErrorCode) (reason : String)
  | reset (session : String) (stream : StreamId) (code : ErrorCode)
  | openStream (session observer : String) (draft : Http.RequestDraft)
  | refuse (session : String) (refusal : Option SessionError)
  | fail (session : String) (error : SessionError)
  | goAway (session : String) (code : ErrorCode) (reason : String)

/-- The name of the session that a step is about. -/
def SessionStep.name : SessionStep → String
  | makeRecording name _ => name
  | makeLoopback name _ _ _ _ _ => name
  | inspect session => session
  | close session _ _ => session
  | reset session _ _ => session
  | openStream session _ _ => session
  | refuse session _ => session
  | fail session _ => session
  | goAway session _ _ => session

/-- Steps on connections. -/
inductive ConnectionStep
  | make (name : String) (id : ConnectionId) (session : String) (limit : Nat)
      (observed : Bool)
  | inspect (connection : String)
  | drop (connection : String)
  | dropObserver (connection : String)
  | send (connection exchange : String)
  | close (connection : String) (reason : CloseReason)
  | release (connection channel : String)

/-- Steps on exchanges.  `awaitOutcome` claims the outcome; if there is none yet,
the claim is kept under a name, from which it can be polled, or given up. -/
inductive ExchangeStep
  | make (name : String) (draft : Http.RequestDraft)
  | clone (exchange name : String)
  | same (first second : String)
  | drop (exchange : String)
  | inspect (exchange : String)
  | request (exchange : String)
  | abort (exchange : String) (error : ExchangeError)
  | awaitOutcome (exchange : String) (keep : Option String)
  | poll (claim : String)
  | dropClaim (claim : String)

/-- The name of the exchange or of the claim that a step is about. -/
def ExchangeStep.name : ExchangeStep → String
  | make name _ => name
  | clone exchange _ => exchange
  | same first _ => first
  | drop exchange => exchange
  | inspect exchange => exchange
  | request exchange => exchange
  | abort exchange _ => exchange
  | awaitOutcome exchange _ => exchange
  | poll claim => claim
  | dropClaim claim => claim

/-- Steps on channels that are made by hand. -/
inductive ChannelStep
  | make (name : String) (owner : Option String) (id : ConnectionId) (session : String)
  | send (channel exchange : String)
  | inspect (channel : String)

/-- Steps on pools. -/
inductive PoolStep
  | make (name : String) (maxConnections maxStreams : Nat) (factory : Factory)
  | send (pool exchange : String)
  | acquire (pool : String)
  | get (pool : String) (id : ConnectionId)
  | release (pool : String) (id : ConnectionId)
  | remove (pool : String) (id : ConnectionId)
  | close (pool : String)

/-- The name of the pool that a step is about. -/
def PoolStep.name : PoolStep → String
  | make name _ _ _ => name
  | send pool _ => pool
  | acquire pool => pool
  | get pool _ => pool
  | release pool _ => pool
  | remove pool _ => pool
  | close pool => pool

/-- One step of a scenario. -/
inductive Step
  | session (step : SessionStep)
  | connection (step : ConnectionStep)
  | exchange (step : ExchangeStep)
  | channel (step : ChannelStep)
  | pool (step : PoolStep)
  | report (target : Target) (event : StreamEvent)
  | advance (milliseconds : Nat)
  | hook (name : String) (point : Point) (steps : List Step)

/-- Whether several sessions may act at once in a step: in the order in which they
happen to be found, or in which their answers happen to be due. -/
def Step.isSpread : Step → Bool
  | .advance _ => true
  | .pool (.close _) => true
  | _ => false

/-- A hook that waits. -/
structure Hook where
  name : String
  point : Point
  steps : List Step

/-! ## How many hooks there are -/

mutual

/-- The hooks that a step sets, those inside of hooks included. -/
def Step.hookCount : Step → Nat
  | .hook _ _ steps => stepsHookCount steps + 1
  | _ => 0

/-- The hooks that several steps set. -/
def stepsHookCount : List Step → Nat
  | [] => 0
  | step :: steps => step.hookCount + stepsHookCount steps

end

end Multiplex.Scenario
