import Multiplex.Channel
import Multiplex.Session.Loopback
import Multiplex.Session.Recording

/-!
# Sessions

A session carries the streams of one connection.  Its transport either answers
by itself or is driven from outside.  One connection at a time listens to what
happens to the session as a whole.
-/

namespace Multiplex

/-- What moves the streams of a session. -/
inductive Transport
  | loopback (session : LoopbackSession Listener)
  | recording (session : RecordingSession Listener)

namespace Transport

/-- Whether the session was closed. -/
def isClosed : Transport → Bool
  | .loopback session => session.isClosed
  | .recording session => session.isClosed

/-- Whether somebody listens to a stream that the session still knows. -/
def knows (transport : Transport) (listener : Listener) : Bool :=
  match transport with
  | .loopback session => session.streams.any fun entry => entry.2 == listener
  | .recording session => session.streams.any fun entry => entry.2 == listener

end Transport

/-- A session under its name, and the connection that listens to it. -/
structure Session where
  name : String
  transport : Transport
  attached : Option ConnectionKey := none

/-- How a session is written in an inspection. -/
def Session.inspect (session : Session) : String :=
  match session.transport with
  | .loopback loopback => loopback.inspect
  | .recording _ => "Recording(" ++ session.name ++ ")"

end Multiplex
