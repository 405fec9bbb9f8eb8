import Multiplex.Exchange

/-!
# Channels

A channel carries one exchange over one stream of a session.  It collects the
response as it arrives, and it is released once, when the exchange is over.
Streams report to listeners: to a channel, or to an observer that is known by
name and only takes note.
-/

namespace Multiplex

/-! ## What a stream reports -/

/-- What a session reports about a stream. -/
inductive StreamEvent
  | response (head : Http.ResponseHead)
  | data (body : Octets) (ended : Bool)
  | reset (code : ErrorCode)
  | failure (error : SessionError)
  deriving DecidableEq

/-- Who is told about a stream. -/
inductive Listener
  | channel (channel : ChannelId)
  | observer (name : String)
  deriving DecidableEq, Repr, Inhabited

/-! ## Channels -/

/-- One exchange on its way over one stream.  The connection is the one under
whose number the channel was made; the owner is the connection that is told
when the channel is released. -/
structure Channel where
  connection : ConnectionId
  owner : Option ConnectionKey
  session : SessionKey
  exchange : Option ExchangeId := none
  stream : Option StreamId := none
  head : Option Http.ResponseHead := none
  body : Octets := []
  cancelled : Bool := false
  released : Bool := false
  handles : Nat := 0
  deriving DecidableEq

namespace Channel

/-- Whether somebody holds a handle. -/
def isHeld (channel : Channel) : Bool := channel.handles != 0

/-- What a body without a head before it means for the exchange. -/
def headless : ExchangeError := .stream (.protocol "response body before response headers")

/-- Notes the head of a response; a later head replaces an earlier one. -/
def collectHead (channel : Channel) (head : Http.ResponseHead) : Channel :=
  { channel with head := some head }

/-- Adds a piece of the body. -/
def collectBody (channel : Channel) (piece : Octets) : Channel :=
  { channel with body := channel.body ++ piece }

/-- The outcome that the collected head and body make. -/
def collected (channel : Channel) : Outcome :=
  match channel.head with
  | some head => .ok ⟨head, channel.body⟩
  | none => .error headless

/-- Forgets the head and body that were collected. -/
def forgetCollected (channel : Channel) : Channel := { channel with head := none, body := [] }

/-- How a channel is written in an inspection. -/
def inspect (channel : Channel) (id : ChannelId) : String :=
  let stream := match channel.stream with
    | some stream => "Some(" ++ stream.inspect ++ ")"
    | none => "None"
  "Channel \x7b id: " ++ id.inspect ++ ", connection: " ++ channel.connection.inspect ++
    ", stream: " ++ stream ++ ", released: " ++ toString channel.released ++ " \x7d"

end Channel

end Multiplex
