import Multiplex.Failure
import Multiplex.Http.Normalize
import Multiplex.Identity

/-!
# Loopback sessions

A loopback session answers every stream by itself.  The answer is computed from
the request when the stream is opened, and is delivered when the delay of the
session has passed, unless the stream was reset or the session closed before.

Times are counted in milliseconds.  Answers that are due at the same time are
delivered in the order in which their streams were opened; each answer carries
a ticket that tells this order across sessions.
-/

namespace Multiplex

/-- Computes the response to a request. -/
abbrev Responder := Http.Request → Http.Response

/-- What somebody who closes a session does once the session is closed.  `κ` is the type of what
they remember. -/
abbrev CloseCallback (κ : Type) := Except SessionError Unit → κ → κ

/-! ## The echo -/

/-- Answers with the body of the request and, where the target has a path that
can stand in a field, with that path. -/
def echo : Responder := fun request =>
  let fields := match request.uri.pathAndQuery? with
    | none => Http.Fields.empty
    | some target =>
      match Http.FieldValue.ofOctets? (Octets.ofText target.text) with
      | none => Http.Fields.empty
      | some value => Http.Fields.empty.append .echoPath value
  ⟨⟨200, fields⟩, request.body⟩

/-! ## The session -/

/-- An answer that waits for its time. -/
structure Reply where
  stream : StreamId
  response : Http.Response
  due : Nat
  ticket : Nat
  deriving DecidableEq

/-- A session that answers by itself.  `ι` is the type of the listeners. -/
structure LoopbackSession (ι : Type) where
  connection : ConnectionId
  limit : Nat
  delay : Nat
  responder : Responder
  nextStream : StreamId := .first
  streams : List (StreamId × ι) := []
  replies : List Reply := []
  isClosed : Bool := false

namespace LoopbackSession

variable {ι : Type}

/-- How many streams wait for their answer. -/
def openStreams (session : LoopbackSession ι) : Nat := session.streams.length

/-- The listener of an open stream. -/
def listener? (session : LoopbackSession ι) (stream : StreamId) : Option ι :=
  (session.streams.find? fun entry => entry.1 == stream).map Prod.snd

/-- Takes a stream out of the open streams. -/
def drop (session : LoopbackSession ι) (stream : StreamId) : LoopbackSession ι :=
  { session with streams := session.streams.filter fun entry => entry.1 != stream }

/-- Opens a stream at time `now`, unless the session is closed or full. -/
def openStream (session : LoopbackSession ι) (now ticket : Nat) (request : Http.Request)
    (listener : ι) : LoopbackSession ι × Except SessionError StreamId :=
  if session.isClosed then (session, .error .closed)
  else if session.limit ≤ session.openStreams then
    (session, .error (.tooManyStreams session.limit))
  else
    let stream := session.nextStream
    let reply : Reply := ⟨stream, session.responder request, now + session.delay, ticket⟩
    let opened := session.drop stream
    ({ opened with
        nextStream := stream.next
        streams := opened.streams ++ [(stream, listener)]
        replies := opened.replies ++ [reply] }, .ok stream)

/-- Resets a stream.  Streams that the peer would have opened do not exist. -/
def reset (session : LoopbackSession ι) (stream : StreamId) : LoopbackSession ι :=
  if stream.isClientInitiated then session.drop stream else session

/-- Closes the session and drops its streams.  Whether this was the first close
is the second component. -/
def close (session : LoopbackSession ι) : LoopbackSession ι × Bool :=
  if session.isClosed then (session, false)
  else ({ session with isClosed := true, streams := [] }, true)

/-- Closes the session and calls back, at the first close and at every later one.  What the
callback makes of `memory` is the last component. -/
def closeCalling {κ : Type} (session : LoopbackSession ι) (callback : CloseCallback κ)
    (memory : κ) : LoopbackSession ι × Bool × κ :=
  if session.isClosed then (session, false, callback (.ok ()) memory)
  else ({ session with isClosed := true, streams := [] }, true, callback (.ok ()) memory)

@[simp] theorem isClosed_drop (session : LoopbackSession ι) (stream : StreamId) :
    (session.drop stream).isClosed = session.isClosed := rfl

@[simp] theorem isClosed_reset (session : LoopbackSession ι) (stream : StreamId) :
    (session.reset stream).isClosed = session.isClosed := by
  unfold reset
  split <;> rfl

@[simp] theorem isClosed_openStream (session : LoopbackSession ι) (now ticket : Nat)
    (request : Http.Request) (listener : ι) :
    (session.openStream now ticket request listener).1.isClosed = session.isClosed := by
  unfold openStream
  split
  · rfl
  · split <;> rfl

@[simp] theorem isClosed_close (session : LoopbackSession ι) :
    session.close.1.isClosed = true := by
  unfold close
  split
  · assumption
  · rfl

/-- Only the first close is told that it was the first. -/
theorem close_snd (session : LoopbackSession ι) : session.close.2 = !session.isClosed := by
  unfold close
  split
  next hclosed => simp [hclosed]
  next hopen => simp [hopen]

/-- Calling back is all that a close with a callback does besides closing. -/
theorem closeCalling_eq {κ : Type} (session : LoopbackSession ι) (callback : CloseCallback κ)
    (memory : κ) : session.closeCalling callback memory =
      (session.close.1, session.close.2, callback (.ok ()) memory) := by
  unfold closeCalling close
  split <;> rfl

/-! ## Delivering answers -/

/-- The answers whose time has come. -/
def due (session : LoopbackSession ι) (now : Nat) : List Reply :=
  session.replies.filter fun reply => reply.due ≤ now

/-- Forgets the answers whose time has come. -/
def settle (session : LoopbackSession ι) (now : Nat) : LoopbackSession ι :=
  { session with replies := session.replies.filter fun reply => now < reply.due }

/-- Takes the stream that an answer belongs to, with its listener, if it is
still open. -/
def take (session : LoopbackSession ι) (stream : StreamId) : LoopbackSession ι × Option ι :=
  match session.listener? stream with
  | none => (session, none)
  | some listener => (session.drop stream, some listener)

/-- How a loopback session is written in an inspection. -/
def inspect (session : LoopbackSession ι) : String :=
  "LoopbackSession \x7b connection: " ++ session.connection.inspect ++ ", open_streams: " ++
    toString session.openStreams ++ ", closed: " ++ toString session.isClosed ++ " \x7d"

end LoopbackSession

end Multiplex
