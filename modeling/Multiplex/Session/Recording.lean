import Multiplex.Failure
import Multiplex.Identity

/-!
# Recording sessions

A recording session keeps the listener of every stream that was ever opened and
does nothing by itself: its streams report what they are made to report.  It can
be told to refuse new streams.
-/

namespace Multiplex

/-- A session whose streams are driven from outside.  `ι` is the type of the
listeners. -/
structure RecordingSession (ι : Type) where
  refusal : Option SessionError := none
  nextStream : StreamId := .first
  streams : List (StreamId × ι) := []
  isClosed : Bool := false

namespace RecordingSession

variable {ι : Type}

/-- The listener of a stream, if it was ever opened. -/
def listener? (session : RecordingSession ι) (stream : StreamId) : Option ι :=
  (session.streams.find? fun entry => entry.1 == stream).map Prod.snd

/-- Why the session would not open a stream now. -/
def obstacle? (session : RecordingSession ι) : Option SessionError :=
  if session.isClosed then some .closed else session.refusal

/-- Opens the next stream. -/
def openNext (session : RecordingSession ι) (listener : ι) : RecordingSession ι :=
  { session with
    nextStream := session.nextStream.next
    streams := session.streams ++ [(session.nextStream, listener)] }

end RecordingSession

end Multiplex
