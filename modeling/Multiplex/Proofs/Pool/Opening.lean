import Multiplex.Proofs.Run.Step

/-!
# What opening a connection does

A pool that opens a connection gives out the next number, whether its factory provides a
session or not.  If it does, a new connection over the new session is listed under that
number.  Nothing else changes: `Opens` and `Misses` are the two ways in which an opening
ends.
-/

namespace Multiplex

/-- A pool that has asked its factory for one more session. -/
def Pool.tried (pool : Pool) : Pool :=
  { pool with
    factory := (pool.factory.openSession ⟨pool.opened + 1⟩).1
    opened := pool.opened + 1 }

/-- The connection that a pool opens next. -/
def Pool.nextConnection (pool : Pool) (place : PoolKey) (session : SessionKey) : Connection where
  id := ⟨pool.opened + 1⟩
  destination := .pool place
  session := session
  limit := pool.maxStreams

namespace Network

variable {α : Type} {first second network : Network α} {place : PoolKey} {pool : Pool}

/-- The place that the next session gets. -/
def nextSession (network : Network α) : SessionKey := ⟨network.sessions.size + 1⟩

@[simp] theorem session?_nextSession (network : Network α) :
    network.session? network.nextSession = none := by
  simp [session?, nextSession]

/-- In the second network a pool of the first has opened a connection over a new session. -/
structure Opens (first second : Network α) (place : PoolKey) (pool : Pool)
    (transport : Transport) : Prop where
  provided : (pool.factory.openSession ⟨pool.opened + 1⟩).2 = .ok transport
  exchange? : second.exchange? = first.exchange?
  channel? : second.channel? = first.channel?
  connection? : ∀ key, second.connection? key =
    if key = first.nextConnection then some (pool.nextConnection place first.nextSession)
    else first.connection? key
  session? : ∀ key, second.session? key =
    if key = first.nextSession then
      some ⟨pool.label (pool.opened + 1), transport, some first.nextConnection⟩
    else first.session? key
  pool? : ∀ other, second.pool? other =
    if other = place then some (pool.tried.list ⟨pool.opened + 1⟩ first.nextConnection)
    else first.pool? other
  trace : second.trace.toList = first.trace.toList ++
    [.opening place (pool.opened + 1), .attached first.nextSession]

/-- In the second network a pool of the first has failed to open a connection. -/
structure Misses (first second : Network α) (place : PoolKey) (pool : Pool) : Prop where
  exchange? : second.exchange? = first.exchange?
  channel? : second.channel? = first.channel?
  connection? : second.connection? = first.connection?
  session? : second.session? = first.session?
  pool? : ∀ other, second.pool? other =
    if other = place then some pool.tried else first.pool? other
  trace : second.trace.toList = first.trace.toList ++ [.opening place (pool.opened + 1)]

/-- Where a pool has come to when it has asked its factory for a session. -/
def asked (network : Network α) (place : PoolKey) (pool : Pool) : Network α :=
  (network.modifyPool place fun found =>
    { found with
      factory := (pool.factory.openSession ⟨pool.opened + 1⟩).1
      opened := pool.opened + 1 }).note (.opening place (pool.opened + 1))

theorem misses_asked (hpool : network.pool? place = some pool) :
    Misses network (network.asked place pool) place pool where
  exchange? := rfl
  channel? := rfl
  connection? := rfl
  session? := rfl
  pool? other := by
    simp only [asked, note_frame, pool?_modifyPool]
    split
    next heq => rw [heq, hpool]; rfl
    next => rfl
  trace := by simp [asked]

/-- A connection listens to a session that was just added. -/
theorem attach_eq (network : Network α) {session : Session} {key : SessionKey}
    (hsession : network.session? key = some session) (connection : ConnectionKey) :
    network.attach quiet key connection =
      (network.modifySession key fun found =>
        { found with attached := some connection }).note (.attached key) := by
  simp only [attach, hsession]
  split <;> rfl

/-- Opening a connection succeeds if the factory provides a session, and only then. -/
theorem openConnection_cases (hpool : network.pool? place = some pool) :
    (∃ error final, network.openConnection quiet place pool =
        (final, .error (.openFailed error)) ∧ Misses network final place pool) ∨
      ∃ transport final, network.openConnection quiet place pool =
        (final, .ok network.nextConnection) ∧ Opens network final place pool transport := by
  have hmisses := misses_asked hpool
  unfold openConnection
  dsimp only
  split
  next error hfailed => exact .inl ⟨error, _, rfl, hmisses⟩
  next transport hprovided =>
    -- The session gets the next place, and then the connection over it.
    let named : Session := { name := pool.label (pool.opened + 1), transport }
    let ready := ((network.asked place pool).addSession named).1
    let connected := (ready.addConnection (pool.nextConnection place network.nextSession)).1
    have hready : connected.session? network.nextSession = some named :=
      (session?_addSession ..).trans (if_pos rfl)
    have hattach := attach_eq connected hready network.nextConnection
    refine .inr ⟨transport, _, rfl, ?_⟩
    change Opens network ((connected.attach quiet network.nextSession
      network.nextConnection).modifyPool place fun found =>
        found.list ⟨pool.opened + 1⟩ network.nextConnection) place pool transport
    rw [hattach]
    exact
      { provided := hprovided
        exchange? := rfl
        channel? := rfl
        connection? := fun key => connection?_addConnection ready _ key
        session? := fun key => by
          simp only [modifyPool_frame, note_frame, session?_modifySession]
          change (if key = network.nextSession then _ else (ready.session? key)) = _
          split
          next heq => rw [heq, hready]; rfl
          next hne =>
            refine (session?_addSession ..).trans (if_neg hne)
        pool? := fun other => by
          simp only [pool?_modifyPool]
          change (if other = place then ((network.asked place pool).pool? other).map _
            else (network.asked place pool).pool? other) = _
          rw [hmisses.pool? other]
          split
          next => rfl
          next => rfl
        trace := by
          change (((network.asked place pool).trace.push _)).toList = _
          rw [Array.toList_push, hmisses.trace]
          simp }

end Network

end Multiplex
