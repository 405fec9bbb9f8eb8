import Multiplex.Scenario.Step

/-!
# What a scenario reports

Every step is answered, and it leaves events and a summary: the events are what
was noticed while it ran, the summary is the state of the named objects behind
it.

The order of events is partly arbitrary.  Resets that follow each other directly
are put in the order of their sessions and streams.  Where several sessions act
at once the events of a step are put in the order of the names that noticed
them; the events of one name keep their order.
-/

namespace Multiplex.Scenario

/-! ## Answers -/

/-- The answer to a step. -/
inductive Answer
  | done
  | noObject
  | noStream
  | noListener
  | noClaim
  | pending
  | verdict (value : Bool)
  | badDraft (error : Http.DraftError)
  | refused (error : SessionError)
  | undispatched (error : DispatchError)
  | unsent (error : DispatchError)
  | poolFailed (error : PoolError)
  | outcome (outcome : Outcome)
  | request (request : Http.Request)
  | opened (stream : StreamId)
  | madeChannel (id : ChannelId)
  | pooled (label : String)
  | listed (label : Option String)
  | closed (first : Bool) (confirmations : Nat)
  | session (isClosed : Bool) (inspection : String)
  | connection (text inspection : String) (sessionIsClosed : Bool)
  | exchange (id : ExchangeId) (inspection : String)
  | channel (connection : ConnectionId) (exchange : Option String)
      (stream : Option StreamId) (released : Bool) (inspection : String)

/-! ## Events -/

/-- What was noticed, under the names of the scenario. -/
inductive Event
  | attached (session : String)
  | opening (session : String)
  | streamOpened (session : String) (stream : StreamId) (request : Http.Request)
  | streamReset (session : String) (stream : StreamId) (code : ErrorCode)
  | sessionClosed (session : String) (code : ErrorCode) (reason : String) (first : Bool)
  | released (observer : String) (connection : ConnectionId)
  | removed (observer : String) (connection : ConnectionId)
  | heard (observer : String) (event : StreamEvent)
  | hooked (name : String) (point : Point) (answers : List Answer)

namespace Event

/-- Who noticed an event; nobody is named for a hook. -/
def witness : Event → String
  | attached session => session
  | opening session => session
  | streamOpened session _ _ => session
  | streamReset session _ _ => session
  | sessionClosed session _ _ _ => session
  | released observer _ => observer
  | removed observer _ => observer
  | heard observer _ => observer
  | hooked _ _ _ => ""

/-- The session and the stream of a reset. -/
def resetPlace? : Event → Option (String × StreamId)
  | streamReset session stream _ => some (session, stream)
  | _ => none

/-- Whether two events are resets in the order of their places. -/
def resetsInOrder (first second : Event) : Bool :=
  match first.resetPlace?, second.resetPlace? with
  | some (session, stream), some (otherSession, otherStream) =>
    session < otherSession ||
      (session == otherSession && stream.number ≤ otherStream.number)
  | _, _ => true

/-- Puts a reset in its place among the resets at the front. -/
def insertReset (event : Event) : List Event → List Event
  | [] => [event]
  | next :: events =>
    if event.resetsInOrder next then event :: next :: events
    else next :: insertReset event events

/-- Sorts every run of resets that follow each other directly. -/
def sortResets (events : List Event) : List Event := events.foldr insertReset []

/-- Sorts events by who noticed them. -/
def sortWitnesses (events : List Event) : List Event :=
  events.mergeSort fun first second => first.witness ≤ second.witness

end Event

/-! ## Summaries -/

/-- The state of a connection. -/
structure ConnectionSummary where
  status : ConnectionStatus
  channelCount : Nat
  hasCapacity : Bool
  live : List String

/-- The state of a pool. -/
structure PoolSummary where
  size : Nat
  releases : Nat
  connections : List (String × ConnectionSummary)

/-- The state of the named objects. -/
structure Summary where
  connections : List (String × ConnectionSummary)
  pools : List (String × PoolSummary)
  resolved : List String
  openStreams : List (String × Nat)

/-- What one step leaves. -/
structure Record where
  answer : Answer
  events : List Event
  summary : Summary

end Multiplex.Scenario
