import Mathlib.Algebra.Order.BigOperators.Group.List
import Mathlib.Algebra.Order.Ring.Nat
import Multiplex.Proofs.Pool.Acceptance
import Multiplex.Proofs.Pool.Ledger
import Multiplex.Proofs.Pool.Shutdown

/-!
# How a pool fills up

A pool over loopback sessions takes exchanges until each of its connections carries as many as
it may, and not one more.  As long as less is under way than the connections may carry
together, some connection has room, or another one may be opened; and a connection that has
room takes whatever can be sent at all.  Then the pool refuses, and a refusal changes nothing.

This needs that the lists of the pool, of its connections and of their sessions agree, which
is collected in `Steady`.
-/

namespace Multiplex

/-- A dealing that keeps to the sessions that pools open, and lets the pools dispatch. -/
def Dealing.isPlain : Dealing → Bool
  | .send .. | .close _ | .advance _ => true
  | .outside (.makePool ..) _ | .outside (.makeExchange _) _ | .outside (.letGoConnection _) _ =>
    true
  | _ => false

theorem Dealing.moves_of_plain {dealing : Dealing} (hplain : dealing.isPlain = true)
    (session : SessionKey) : dealing.moves session = false := by
  cases dealing with
  | outside operation hoperation =>
      cases operation with
      | makePool | makeExchange | letGoConnection => rfl
      | _ => exact Bool.noConfusion hplain
  | _ => rfl

theorem Dealing.isDispatch_of_plain {dealing : Dealing} (hplain : dealing.isPlain = true) :
    dealing.isDispatch = false := by
  cases dealing with
  | outside operation hoperation =>
      cases operation with
      | makePool | makeExchange | letGoConnection => rfl
      | _ => exact Bool.noConfusion hplain
  | _ => rfl

namespace Network

variable {α : Type} {network : Network α} {id : ChannelId} {key : ConnectionKey}
  {connection : Connection} {loopback : LoopbackSession Listener} {channel : Channel}
  {target : ExchangeId} {exchange : Exchange} {place : PoolKey} {pool : Pool}
  {answer : Answering α} {limit delay : Nat} {responder : Responder} {dealing : Dealing}

/-! ## What can be sent -/

/-- An exchange can be sent: it has no outcome, it is on no way, and its request can be
normalized. -/
structure Sendable (exchange : Exchange) : Prop where
  outcome : exchange.outcome = none
  binding : exchange.binding = none
  normalizes : exchange.request.normalize.2 = .ok ()

/-- A connection that can take an exchange takes it. -/
theorem Ready.accepts (hready : network.Ready key connection loopback) (hsound : Sound network)
    (hexchange : network.exchange? target = some exchange) (hsendable : Sendable exchange) :
    (network.send quiet key target).2 = .ok () := by
  have hunresolved : exchange.isResolved = false := by
    rw [Exchange.isResolved, hsendable.outcome, Option.isSome_none]
  have hfree : network.isUnderWay exchange = false := by
    rw [isUnderWay, hsendable.binding, Option.any_none]
  exact hready.takes hsound hexchange (hurdle?_eq_none_iff.mpr
    ⟨hunresolved, hsendable.normalizes, hready.opened, hfree⟩)

/-! ## What a pool provides -/

private theorem offers_of_acquire (hsound : Sound network) (hpool : network.pool? place = some pool)
    {reached : Network α} (hacquire : network.acquire quiet place = (reached, .ok key)) :
    ∃ connection found, reached.Offers place key connection found ∧ pool.Ages found ∧
      found.isClosed = pool.isClosed := by
  rcases acquire_cases hsound place with
    ⟨error, heq⟩ | ⟨same, connection, found, heq, hoffers⟩ | ⟨found, hfound, -, -, heq⟩
  · simp [heq] at hacquire
  · obtain rfl := Option.some.inj (hpool.symm.trans hoffers.pool?)
    rw [heq, Prod.mk.injEq, Except.ok.injEq] at hacquire
    obtain ⟨rfl, rfl⟩ := hacquire
    exact ⟨_, pool, hoffers.retain hsound, .refl pool, rfl⟩
  · obtain rfl := Option.some.inj (hpool.symm.trans hfound)
    rw [heq] at hacquire
    rcases openConnection_cases hpool with
      ⟨error, final, hmissed, -⟩ | ⟨transport, final, hopened, hopens⟩
    · simp [hmissed] at hacquire
    · rw [hopened, Prod.mk.injEq, Except.ok.injEq] at hacquire
      obtain ⟨rfl, rfl⟩ := hacquire
      have hbecomes : pool.Becomes place (.openConnection place)
          (pool.tried.list ⟨pool.opened + 1⟩ network.nextConnection) := .opens _
      exact ⟨_, _, hopens.offers, hbecomes.ages, rfl⟩

/-- A pool of the first network has taken an exchange on one of its connections, which it still
lists in the second. -/
structure Taken (first second : Network α) (place : PoolKey) (pool : Pool) (key : ConnectionKey) :
    Prop where
  pool : ∃ found, second.pool? place = some found ∧ pool.Ages found ∧
    found.isClosed = pool.isClosed ∧ found.lists key = true
  belongs : second.Belongs key place
  clock : second.clock = first.clock

/-! ## Steady networks -/

/-- The lists of pools, connections and sessions agree, and nothing carries more than it may. -/
structure Steady (network : Network α) : Prop where
  inStep : ∀ session, InStep network session
  furnished : ∀ session, Furnished network session
  limited : Limited network
  loaded : Loaded network
  sized : Sized network
  cleared : ∀ place, Cleared network place

theorem respects_of_plain {operation : Operation} {hoperation : operation.isInternal = false}
    (hplain : dealing.isPlain = true) (hdealing : dealing = .outside operation hoperation)
    (session : SessionKey) : network.Respects session operation := by
  subst hdealing
  cases operation <;> trivial

theorem steady_blank (surroundings : α) : Steady (blank surroundings) where
  inStep := inStep_blank surroundings
  furnished := furnished_blank surroundings
  limited hconnection := by simp at hconnection
  loaded hconnection := by simp at hconnection
  sized place pool hpool := by simp at hpool
  cleared place pool hpool := by simp at hpool

namespace Steady

variable (hsteady : Steady network)
include hsteady

theorem sound : Sound network := (hsteady.inStep ⟨0⟩).sound

theorem stocked : Stocked network := (hsteady.inStep ⟨0⟩).stocked

theorem deal (answer : Answering α) (dealing : Dealing) (hplain : dealing.isPlain = true) :
    Steady (network.deal answer dealing) where
  inStep session := (hsteady.inStep session).deal answer dealing fun _ _ hdealing =>
    respects_of_plain hplain hdealing session
  furnished session := (hsteady.furnished session).deal (hsteady.inStep session) answer dealing
    (Dealing.moves_of_plain hplain session) fun _ _ hdealing =>
      respects_of_plain hplain hdealing session
  limited := Limited.deals hsteady.limited hsteady.sound hsteady.stocked answer [dealing]
  loaded := Loaded.deals hsteady.loaded hsteady.sound hsteady.stocked answer
    (List.forall_mem_singleton.mpr (Dealing.isDispatch_of_plain hplain))
  sized := hsteady.sized.deals hsteady.sound hsteady.stocked answer [dealing]
  cleared place := (hsteady.cleared place).deal hsteady.sound hsteady.stocked answer dealing

/-- A connection that a pool over loopback sessions provides can take an exchange. -/
theorem provides (hpool : network.pool? place = some pool)
    (hfactory : pool.factory = .loopback pool.maxStreams delay responder)
    (hpositive : 1 ≤ pool.maxStreams) : Provides network place :=
  provides_of_mirrored hsteady.sound hsteady.limited hpool hfactory rfl hpositive
    fun {_ connection} _ _ => ⟨(hsteady.inStep connection.session).mirrored,
      (hsteady.inStep connection.session).supplied⟩

/-! ## How much a pool can carry -/

/-- What a pool lists is an open connection that carries at most what the pool says. -/
theorem listed (hpool : network.pool? place = some pool) (hpositive : 1 ≤ pool.maxStreams)
    {entry : ConnectionId × ConnectionKey} (hmem : entry ∈ pool.listed) :
    ∃ connection, network.connection? entry.2 = some connection ∧ connection.isClosed = false ∧
      connection.limit = pool.maxStreams ∧ connection.channelCount ≤ pool.maxStreams := by
  obtain ⟨connection, hconnection, -, hdestination, hopen⟩ :=
    (hsteady.stocked.listed hpool).mp (show (entry.1, entry.2) ∈ pool.listed from hmem)
  obtain ⟨same, hsame, hlimit⟩ := hsteady.limited hconnection hdestination
  obtain rfl := Option.some.inj (hpool.symm.trans hsame)
  have hload := hsteady.loaded hconnection hdestination
  rw [hlimit, Nat.max_eq_right hpositive] at hload
  exact ⟨connection, hconnection, hopen, hlimit, hload⟩

theorem load_le (hpool : network.pool? place = some pool) (hpositive : 1 ≤ pool.maxStreams) :
    network.load pool ≤ pool.size * pool.maxStreams := by
  have hsum := List.sum_le_card_nsmul
    (pool.listed.map fun entry => (network.connection? entry.2).elim 0 Connection.channelCount)
    pool.maxStreams fun count hcount => by
      obtain ⟨entry, hmem, rfl⟩ := List.mem_map.mp hcount
      obtain ⟨connection, hconnection, -, -, hload⟩ := hsteady.listed hpool hpositive hmem
      rwa [hconnection]
  rwa [List.length_map, Nat.nsmul_eq_mul] at hsum

private theorem load_of_full (hpool : network.pool? place = some pool)
    (hpositive : 1 ≤ pool.maxStreams) (hfull : network.available? pool = none) :
    network.load pool = pool.size * pool.maxStreams := by
  refine Nat.le_antisymm (hsteady.load_le hpool hpositive) ?_
  have hsum := List.card_nsmul_le_sum
    (pool.listed.map fun entry => (network.connection? entry.2).elim 0 Connection.channelCount)
    pool.maxStreams fun count hcount => by
      obtain ⟨entry, hmem, rfl⟩ := List.mem_map.mp hcount
      obtain ⟨connection, hconnection, hopen, hlimit, -⟩ := hsteady.listed hpool hpositive hmem
      have hnone := List.find?_eq_none.mp hfull entry.2 (List.mem_map.mpr ⟨entry, hmem, rfl⟩)
      rw [hconnection]
      simpa [hconnection, Connection.hasCapacity, hopen, hlimit] using hnone
  rwa [List.length_map, Nat.nsmul_eq_mul] at hsum

private theorem load_lt (hpool : network.pool? place = some pool) (hpositive : 1 ≤ pool.maxStreams)
    (hroom : network.available? pool = some key) :
    network.load pool < pool.size * pool.maxStreams := by
  have hmem := List.mem_of_find?_eq_some hroom
  obtain ⟨entry, hlisted, rfl⟩ := List.mem_map.mp hmem
  have hsum := List.sum_lt_sum
    (fun entry => (network.connection? entry.2).elim 0 Connection.channelCount)
    (fun _ => pool.maxStreams) (l := pool.listed) (fun other hother => by
      obtain ⟨connection, hconnection, -, -, hload⟩ := hsteady.listed hpool hpositive hother
      rwa [hconnection])
    ⟨entry, hlisted, by
      obtain ⟨connection, hconnection, hopen, hlimit, -⟩ := hsteady.listed hpool hpositive hlisted
      have hcapacity := List.find?_some hroom
      rw [hconnection]
      simpa [hconnection, Connection.hasCapacity, hopen, hlimit] using hcapacity⟩
  rwa [List.map_const', List.sum_replicate, Nat.nsmul_eq_mul] at hsum

section Taking

variable (hpool : network.pool? place = some pool) (hopen : pool.isClosed = false)
  (hfactory : pool.factory = .loopback pool.maxStreams delay responder)
  (hpositive : 1 ≤ pool.maxStreams)
include hpool hopen hpositive

private theorem acquire_of_full (hfull : network.load pool = pool.maxConnections * pool.maxStreams)
    : network.acquire quiet place = (network, .error (.exhausted pool.maxConnections)) := by
  have hsize := hsteady.sized place pool hpool
  have hnone : network.available? pool = none := by
    cases hroom : network.available? pool with
    | none => rfl
    | some key =>
        have hless := hsteady.load_lt hpool hpositive hroom
        have hmost := Nat.mul_le_mul_right pool.maxStreams hsize
        omega
  have hall : pool.maxConnections ≤ pool.size := by
    have hload := hsteady.load_le hpool hpositive
    rw [hfull] at hload
    exact Nat.le_of_mul_le_mul_right hload hpositive
  simp only [acquire, hpool, hnone, hopen, Bool.false_eq_true, if_false, if_pos hall]

include hfactory

/-- A pool that may carry more provides a connection, one that it lists or a new one. -/
theorem acquire_of_room (hroom : network.load pool < pool.maxConnections * pool.maxStreams) :
    ∃ reached key, network.acquire quiet place = (reached, .ok key) := by
  simp only [acquire, hpool, hopen, Bool.false_eq_true, if_false]
  cases hlisted : network.available? pool with
  | some key => exact ⟨_, key, rfl⟩
  | none =>
      have hless : ¬ pool.maxConnections ≤ pool.size := fun hall => by
        have hload := hsteady.load_of_full hpool hpositive hlisted
        have hmost := Nat.mul_le_mul_right pool.maxStreams hall
        omega
      dsimp only
      rw [if_neg hless]
      rcases openConnection_cases hpool with
        ⟨error, final, hmissed, -⟩ | ⟨transport, final, hopened, -⟩
      · simp [openConnection, hfactory, Factory.openSession] at hmissed
      · exact ⟨final, _, hopened⟩

variable (hbound : pool.maxConnections + 1 < Word.bound64)
include hbound

omit hopen in
theorem sendPooled_once (hthere : (network.exchange? target).isSome = true)
    (answer : Answering α) :
    network.sendPooled (answering answer) place target =
      ((network.attempt (answering answer) place target 1 none).1,
        some (network.attempt (answering answer) place target 1 none).2) := by
  rw [sendPooled_eq hpool (Pool.attempts?_eq_some hbound),
    attempt_once hsteady.sound (hsteady.provides hpool hfactory hpositive) hthere]

/-- A pool that carries as much as it may refuses an exchange, and nothing changes. -/
theorem refuses (hfull : network.load pool = pool.maxConnections * pool.maxStreams)
    (hthere : (network.exchange? target).isSome = true) (answer : Answering α) :
    network.sendPooled (answering answer) place target =
      (network, some (.error (.exhausted pool.maxConnections))) := by
  rw [hsteady.sendPooled_once hpool hfactory hpositive hbound hthere, attempt, hpool,
    acquire_answering, hsteady.acquire_of_full hpool hopen hpositive hfull]
  simp [hopen]

/-- A pool that may carry more takes an exchange that can be sent. -/
theorem takes (hroom : network.load pool < pool.maxConnections * pool.maxStreams)
    (hexchange : network.exchange? target = some exchange) (hheld : network.holds target = true)
    (hsendable : Sendable exchange) (answer : Answering α) :
    ∃ key, network.sendPooled (answering answer) place target =
        (network.deal answer (.send place target), some (.ok key)) ∧
      Taken network (network.deal answer (.send place target)) place pool key := by
  have hsound := hsteady.sound
  have hthere : (network.exchange? target).isSome = true := by rw [hexchange, Option.isSome_some]
  obtain ⟨reached, key, hacquire⟩ :=
    hsteady.acquire_of_room hpool hopen hfactory hpositive hroom
  obtain ⟨connection, loopback, hready⟩ := hsteady.provides hpool hfactory hpositive hacquire
  obtain ⟨_, hlogs, hsame, -⟩ := logs_acquire hsound (.send place target) (beq_self_eq_true place)
  rw [hacquire] at hlogs hsame
  have hreached : reached.exchange? target = some exchange := by rw [hsame, hexchange]
  have haccepts := hready.accepts (hlogs.course.sound hsound) hreached hsendable
  have hsent : network.sendPooled (answering answer) place target =
      ((reached.send quiet key target).1, some (.ok key)) := by
    rw [hsteady.sendPooled_once hpool hfactory hpositive hbound hthere, attempt, hpool,
      acquire_answering, hacquire]
    simp only [Option.all_some, hopen, Bool.false_eq_true, if_false, hready.send_answering]
    cases hresult : reached.send quiet key target with
    | mk sent verdict =>
    rw [hresult] at haccepts
    obtain rfl : verdict = .ok () := haccepts
    rfl
  have hdeal : network.deal answer (.send place target) = (reached.send quiet key target).1 := by
    rw [Network.deal, if_pos hheld, hsent]
  rw [hdeal]
  refine ⟨key, hsent, ?_⟩
  -- The connection was offered, and it stays listed when it takes the exchange.
  obtain ⟨offered, found, hoffers, hages, hstatus⟩ := offers_of_acquire hsound hpool hacquire
  have hmay : reached.holds target = true := by rwa [holds, hsame]
  have hbelongs : reached.Belongs key place := ⟨offered, hoffers.connection?, hoffers.destination⟩
  have hturns := turns_undergo (hlogs.course.sound hsound)
    (hlogs.course.stocked hsound hsteady.stocked) (.send key target)
  have hlater := hbelongs.turns hturns
  rw [undergo, if_pos hmay] at hlater
  exact
    { pool := ⟨found, by rw [pool?_send, hoffers.pool?], hages, hstatus, hoffers.lists⟩
      belongs := hlater
      clock := by rw [clock_send, ← network.clock_acquire place, hacquire] }

end Taking

end Steady

end Network

end Multiplex
