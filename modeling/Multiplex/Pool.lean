import Multiplex.Session

/-!
# Pools

A pool opens connections to one destination, up to a limit, and lists those that
it may use.  Connections are numbered in the order in which the pool tried to
open them; a failed attempt takes a number too.
-/

namespace Multiplex

/-! ## Opening sessions -/

/-- What happens when a recording session is opened. -/
inductive Opening
  | accept
  | fail (error : SessionError)
  | refuse (error : SessionError)
  deriving DecidableEq, Repr, Inhabited

/-- Where the sessions of a pool come from.  Recording sessions are opened as
planned; behind the end of the plan everything is accepted. -/
inductive Factory
  | loopback (limit : Nat) (delay : Nat) (responder : Responder)
  | recording (plan : List Opening)

namespace Factory

/-- Opens the session of a connection. -/
def openSession (factory : Factory) (id : ConnectionId) :
    Factory × Except SessionError Transport :=
  match factory with
  | .loopback limit delay responder =>
    (factory, .ok (.loopback { connection := id, limit, delay, responder }))
  | .recording [] => (factory, .ok (.recording {}))
  | .recording (.accept :: plan) => (.recording plan, .ok (.recording {}))
  | .recording (.fail error :: plan) => (.recording plan, .error error)
  | .recording (.refuse error :: plan) =>
    (.recording plan, .ok (.recording { refusal := some error }))

end Factory

/-! ## The pool -/

/-- Connections to one destination. -/
structure Pool where
  name : String
  maxConnections : Nat
  maxStreams : Nat
  factory : Factory
  opened : Nat := 0
  listed : List (ConnectionId × ConnectionKey) := []
  releases : Nat := 0
  isClosed : Bool := false

namespace Pool

/-- How many connections the pool lists. -/
def size (pool : Pool) : Nat := pool.listed.length

/-- The listed connection with a number. -/
def get? (pool : Pool) (id : ConnectionId) : Option ConnectionKey :=
  (pool.listed.find? fun entry => entry.1 == id).map Prod.snd

/-- Whether a connection is listed. -/
def lists (pool : Pool) (connection : ConnectionKey) : Bool :=
  pool.listed.any fun entry => entry.2 == connection

/-- Lists a connection under its number. -/
def list (pool : Pool) (id : ConnectionId) (connection : ConnectionKey) : Pool :=
  { pool with listed := (pool.listed.filter fun entry => entry.1 != id) ++ [(id, connection)] }

/-- Takes a connection off the list. -/
def unlist (pool : Pool) (id : ConnectionId) : Pool :=
  { pool with listed := pool.listed.filter fun entry => entry.1 != id }

/-- The name of the session behind the connection with a number. -/
def label (pool : Pool) (number : Nat) : String := pool.name ++ "/" ++ toString number

/-- How often one exchange is tried: once more than there may be connections.  The
number has to be a word of 64 bits; where it is none, whoever asks for it stops. -/
def attempts? (pool : Pool) : Option Nat :=
  if pool.maxConnections + 1 < Word.bound64 then some (pool.maxConnections + 1) else none

theorem attempts?_eq_some {pool : Pool} (hbound : pool.maxConnections + 1 < Word.bound64) :
    pool.attempts? = some (pool.maxConnections + 1) := if_pos hbound

theorem eq_of_attempts? {pool : Pool} {attempts : Nat}
    (hattempts : pool.attempts? = some attempts) : attempts = pool.maxConnections + 1 := by
  unfold attempts? at hattempts
  split at hattempts
  next => exact (Option.some.inj hattempts).symm
  next => cases hattempts

/-- Among the words, only the largest leaves no number of attempts. -/
theorem attempts?_eq_none_iff {pool : Pool} (hword : pool.maxConnections < Word.bound64) :
    pool.attempts? = none ↔ pool.maxConnections + 1 = Word.bound64 := by
  unfold attempts?
  split
  next hbound => exact ⟨nofun, fun hlargest => absurd hlargest (Nat.ne_of_lt hbound)⟩
  next hlarge => exact ⟨fun _ => by omega, fun _ => rfl⟩

end Pool

end Multiplex
