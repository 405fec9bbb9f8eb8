import Multiplex.Scenario.Stage

/-!
# Steps on sessions

What the steps on sessions do, and what stream events do that a scenario sends.
A recording session refuses and reports what it is told to; on a loopback session
such steps find no object.
-/

namespace Multiplex.Network

open Scenario

/-- Why a loopback session cannot be made without a clock. -/
def noClock : SessionError :=
  .transport "there is no reactor running, must be called from the context of a Tokio 1.x runtime"

/-- Lets a recording session refuse streams from now on, or accept them again. -/
def refuse (world : World) (key : SessionKey) (refusal : Option SessionError) : World × Answer :=
  match (world.session? key).map Session.transport with
  | some (.recording recording) =>
    (world.setTransport key (.recording { recording with refusal }), .done)
  | _ => (world, .noObject)

/-- Whether a step that is meant for the listener of a session reaches nobody.  A
loopback session does not tell. -/
def hearsNobody (world : World) (key : SessionKey) : Bool :=
  match (world.session? key).map Session.transport with
  | some (.recording _) => (world.sessionListener? key).isNone
  | _ => false

/-- Counts the closes that were confirmed. -/
def countConfirmed : CloseCallback Nat := fun result count =>
  match result with
  | .ok _ => count + 1
  | .error _ => count

variable (react : Reaction Stage)

/-- Opens a stream that an observer listens to. -/
def openObserved (world : World) (key : SessionKey) (observer : String)
    (draft : Http.RequestDraft) : World × Answer :=
  match draft.build with
  | .error error => (world, .badDraft error)
  | .ok request =>
    match world.openStream react key request (.observer observer) with
    | (world, .ok stream) => (world, .opened stream)
    | (world, .error error) => (world, .refused error)

/-- Performs a step on a session that was found. -/
def performOnSession (world : World) (key : SessionKey) (session : Session) :
    SessionStep → World × Answer
  | .makeRecording _ _ | .makeLoopback _ _ _ _ _ _ => (world, .noObject)
  | .inspect _ => (world, .session session.transport.isClosed session.inspect)
  | .close _ code reason =>
    let (world, first, confirmed) :=
      world.closeSessionCalling react key code reason countConfirmed 0
    (world, .closed first confirmed)
  | .reset _ stream code => (world.resetStream react key stream code, .done)
  | .openStream _ observer draft => world.openObserved react key observer draft
  | .refuse _ refusal => world.refuse key refusal
  | .fail _ error =>
    if world.hearsNobody key then (world, .noListener)
    else (world.failSession react key error, .done)
  | .goAway _ code reason =>
    if world.hearsNobody key then (world, .noListener)
    else (world.goAway react key code reason, .done)

/-- Performs a step on a session. -/
def performSession (world : World) (step : SessionStep) : World × Answer :=
  match step with
  | .makeRecording name refusal =>
    ((world.addSession { name, transport := .recording { refusal } }).1, .done)
  | .makeLoopback name connection limit delay responder hasClock =>
    if hasClock then
      ((world.addSession
        { name, transport := .loopback { connection, limit, delay, responder } }).1, .done)
    else (world, .refused noClock)
  | step =>
    match world.findSession? step.name with
    | none => (world, .noObject)
    | some key =>
      match world.session? key with
      | none => (world, .noObject)
      | some session => world.performOnSession react key session step

/-- Sends an event to the listener of a stream of a recording session, or to a
channel. -/
def performReport (world : World) (target : Target) (event : StreamEvent) : World × Answer :=
  match target with
  | .channel name =>
    match world.findChannel? name with
    | none => (world, .noObject)
    | some id => (world.channelHears react id event, .done)
  | .stream session stream =>
    match ((world.findSession? session).bind world.session?).map Session.transport with
    | some (.recording recording) =>
      match recording.listener? stream with
      | none => (world, .noStream)
      | some listener => (world.hears react listener event, .done)
    | _ => (world, .noObject)

end Multiplex.Network
