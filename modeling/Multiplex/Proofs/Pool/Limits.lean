import Multiplex.Proofs.Pool.Turns
import Multiplex.Proofs.Run.Notices

/-!
# What a pool keeps to

A pool lists open connections under their own numbers, and never more than it may.  Each
of them carries as many channels as the pool allows at most, unless exchanges are dispatched
past the pool.  A pool that was closed lists nothing any more, provides nothing any more, and
asks its factory for nothing.

All of this is kept by the acts of a dealing one by one.  Only opening a connection makes a
list longer, and it is done while the pool is open and not full; only a send makes a
connection carry more, and it is done where there is capacity.
-/

namespace Multiplex

/-- A pool later on: what it was made with stays, and a closed pool stays closed. -/
structure Pool.Ages (before after : Pool) : Prop where
  maxConnections : after.maxConnections = before.maxConnections
  maxStreams : after.maxStreams = before.maxStreams
  loopback : ∀ limit delay responder, after.factory = .loopback limit delay responder ↔
    before.factory = .loopback limit delay responder
  closed : before.isClosed = true → after.isClosed = true

theorem Pool.Ages.refl (pool : Pool) : pool.Ages pool :=
  ⟨rfl, rfl, fun _ _ _ => Iff.rfl, fun hclosed => hclosed⟩

theorem Pool.Ages.trans {first second third : Pool} (hleft : first.Ages second)
    (hright : second.Ages third) : first.Ages third where
  maxConnections := hright.maxConnections.trans hleft.maxConnections
  maxStreams := hright.maxStreams.trans hleft.maxStreams
  loopback limit delay responder :=
    (hright.loopback limit delay responder).trans (hleft.loopback limit delay responder)
  closed hclosed := hright.closed (hleft.closed hclosed)

private theorem Factory.openSession_loopback (factory : Factory) (id : ConnectionId)
    (limit delay : Nat)
    (responder : Responder) : (factory.openSession id).1 = .loopback limit delay responder ↔
      factory = .loopback limit delay responder := by
  cases factory with
  | loopback => exact Iff.rfl
  | recording plan =>
      refine iff_of_false ?_ (by simp)
      cases plan with
      | nil => simp [Factory.openSession]
      | cons opening plan => cases opening <;> simp [Factory.openSession]

theorem Pool.ages_tried (pool : Pool) : pool.Ages pool.tried :=
  ⟨rfl, rfl, fun limit delay responder => pool.factory.openSession_loopback _ limit delay responder,
    fun hclosed => hclosed⟩

/-- What an operation can make of the pool at a place. -/
inductive Pool.Becomes (before : Pool) (place : PoolKey) : Operation → Pool → Prop
  | stays {operation : Operation} : before.Becomes place operation before
  | shuts : before.Becomes place (.shutPool place) { before with isClosed := true }
  | misses : before.Becomes place (.openConnection place) before.tried
  | opens (key : ConnectionKey) : before.Becomes place (.openConnection place)
      (before.tried.list ⟨before.opened + 1⟩ key)
  | counts {operation : Operation} (count : Nat) :
      before.Becomes place operation (before.tally count)
  | unlists {operation : Operation} (id : ConnectionId) :
      before.Becomes place operation (before.unlist id)

/-- Whatever becomes of a pool, it has got older. -/
theorem Pool.Becomes.ages {before after : Pool} {place : PoolKey} {operation : Operation}
    (hbecomes : before.Becomes place operation after) : before.Ages after := by
  have hsame : ∀ limit delay responder, before.factory = .loopback limit delay responder ↔
      before.factory = .loopback limit delay responder := fun _ _ _ => Iff.rfl
  cases hbecomes with
  | stays => exact .refl before
  | shuts => exact ⟨rfl, rfl, hsame, fun _ => rfl⟩
  | misses => exact before.ages_tried
  | opens key =>
      have hages := before.ages_tried
      exact ⟨hages.maxConnections, hages.maxStreams, hages.loopback, hages.closed⟩
  | counts | unlists => exact ⟨rfl, rfl, hsame, fun hclosed => hclosed⟩

/-- A list gets longer in an opening only, and then by one. -/
theorem Pool.Becomes.size_le {before after : Pool} {place : PoolKey} {operation : Operation}
    (hbecomes : before.Becomes place operation after) : after.size ≤ before.size ∨
      operation = .openConnection place ∧ after.size ≤ before.size + 1 := by
  cases hbecomes with
  | stays | shuts | misses | counts => exact .inl (Nat.le_refl _)
  | opens key =>
      refine .inr ⟨rfl, ?_⟩
      have hkept : (before.listed.filter fun entry => entry.1 != ⟨before.opened + 1⟩).length ≤
          before.size := List.length_filter_le ..
      have hsize : (before.tried.list ⟨before.opened + 1⟩ key).size =
          (before.listed.filter fun entry => entry.1 != ⟨before.opened + 1⟩).length + 1 := by
        simp [Pool.size, Pool.list, Pool.tried]
      omega
  | unlists id => exact .inl (List.length_filter_le ..)

/-- A notice that a pool asks its factory for a session. -/
def Notice.opens (place : PoolKey) : Notice → Bool
  | .opening pool _ => pool == place
  | _ => false

namespace Network

variable {α : Type} {network first second : Network α} {key : ConnectionKey} {place : PoolKey}
  {operation : Operation} {dealing : Dealing} {connection : Connection} {pool : Pool}

/-! ## Acts of dealings -/

/-- In a dealing a connection is opened while its pool is open and not full. -/
theorem Does.opens_inv (hdoes : network.Does dealing (.openConnection place)) :
    ∃ pool, network.pool? place = some pool ∧ pool.isClosed = false ∧
      pool.size < pool.maxConnections := by
  cases hdoes with
  | opens _ hpool hopen hsize => exact ⟨_, hpool, hopen, hsize⟩
  | acts _ hoperation => exact Bool.noConfusion hoperation

private theorem Does.sends_inv {target : ExchangeId}
    (hdoes : network.Does dealing (.send key target))
    (hdealing : dealing.isDispatch = false)
    (hconnection : network.connection? key = some connection) :
    connection.live.length < connection.limit ∨ connection.live = [] := by
  cases hdoes with
  | sends hoffers =>
      obtain rfl := Option.some.inj (hconnection.symm.trans hoffers.connection?)
      exact hoffers.capacity
  | acts => exact Bool.noConfusion hdealing

section Induction

variable {motive : Network α → Prop} (hsound : Sound network) (hstocked : Stocked network)
  (hremember : ∀ reached surroundings, motive reached → motive { reached with surroundings })
  (hrearrange : ∀ reached place order, motive reached → motive (reached.rearrange place order))
include hsound hstocked hremember hrearrange

/-- What every act of a course keeps, the course keeps. -/
theorem Course.induction {acts : List (Act α)} (hcourse : Course network acts second)
    (hstart : motive network)
    (hact : ∀ reached operation, Sound reached → Stocked reached →
      (⟨reached, operation⟩ : Act α) ∈ acts → motive reached → motive (reached.undergo operation)) :
    motive second := by
  induction hcourse with
  | start => exact hstart
  | @act middle acts operation hcourse ih =>
      have hmotive : motive middle := ih fun reached other hsound hstocked hmem =>
        hact reached other hsound hstocked (List.mem_append_left _ hmem)
      exact hact middle operation (hcourse.sound hsound) (hcourse.stocked hsound hstocked)
        (by simp) hmotive
  | remember surroundings _ ih => exact hremember _ surroundings (ih hact)
  | rearrange place order _ ih => exact hrearrange _ place order (ih hact)

/-- What every act of some dealings keeps, the dealings keep. -/
theorem deals_induction (answer : Answering α) (dealings : List Dealing) (hstart : motive network)
    (hact : ∀ dealing ∈ dealings, ∀ reached operation, Sound reached → Stocked reached →
      reached.Does dealing operation → motive reached → motive (reached.undergo operation)) :
    motive (network.deals answer dealings) := by
  obtain ⟨acts, hcourse, hfits⟩ := course_deals hsound answer dealings
  refine hcourse.induction hsound hstocked hremember hrearrange hstart ?_
  intro reached operation hsound hstocked hmem
  obtain ⟨dealing, hdealing, hdoes⟩ := hfits _ hmem
  exact hact dealing hdealing reached operation hsound hstocked hdoes

/-- What every act of a dealing keeps, the dealing keeps. -/
theorem deal_induction (answer : Answering α) (hstart : motive network)
    (hact : ∀ reached operation, Sound reached → Stocked reached → reached.Does dealing operation →
      motive reached → motive (reached.undergo operation)) :
    motive (network.deal answer dealing) := by
  refine deals_induction hsound hstocked hremember hrearrange answer [dealing] hstart ?_
  intro other hother
  obtain rfl := List.mem_singleton.mp hother
  exact hact

end Induction

/-! ## What becomes of a pool -/

/-- A turn leaves a pool as it was, or makes of it what the operation does to pools.  A pool
that was not there before is new. -/
theorem Turns.becomes (hturns : Turns first operation second) (place : PoolKey) :
    Evolves (fun before after => before.Becomes place operation after) Pool.IsNew
      (first.pool? place) (second.pool? place) := by
  have hstays : ∀ {operation found}, found = first.pool? place →
      Evolves (fun before after => before.Becomes place operation after) Pool.IsNew
        (first.pool? place) found := fun hsame => .of_eq (fun _ => .stays) hsame
  cases hturns with
  | rests _ hrests => exact (hrests.pool place).imp (fun hsame => hsame ▸ .stays) fun hnew => hnew
  | @shuts other =>
      rw [pool?_modifyPool]
      split
      next heq =>
        subst heq
        exact .of_map fun _ => .shuts
      next => exact hstays rfl
  | @opens other pool _ _ hpool hopens =>
      rw [hopens.pool? place]
      split
      next heq =>
        subst heq
        rw [hpool]
        exact .old (.opens first.nextConnection)
      next => exact hstays rfl
  | @misses other pool _ hpool hmisses =>
      rw [hmisses.pool? place]
      split
      next heq =>
        subst heq
        rw [hpool]
        exact .old .misses
      next => exact hstays rfl
  | ends _ _ hpool =>
      rw [hpool place]
      exact .of_map fun _ => .counts _
  | closes _ _ _ _ _ hpool =>
      rw [hpool place]
      split
      · exact .of_map fun _ => .unlists _
      · exact hstays rfl
  | dispatches _ _ _ _ _ hpool => exact hstays (congrFun hpool place)

/-- In any turn a pool gets older, or it is new. -/
theorem Turns.pool_ages (hturns : Turns first operation second) (place : PoolKey) :
    Evolves Pool.Ages Pool.IsNew (first.pool? place) (second.pool? place) :=
  (hturns.becomes place).imp Pool.Becomes.ages fun hnew => hnew

/-! ## How many connections a pool lists -/

/-- No pool lists more connections than it may. -/
def Sized (network : Network α) : Prop :=
  ∀ place pool, network.pool? place = some pool → pool.size ≤ pool.maxConnections

theorem Sized.turns (hsized : Sized first) (hdoes : first.Does dealing operation)
    (hturns : Turns first operation second) : Sized second := by
  intro place after hafter
  cases hbefore : first.pool? place with
  | none =>
      have hnew := (hturns.becomes place).fresh_of_none hbefore hafter
      simp [Pool.size, hnew.1]
  | some before =>
      have hbecomes := (hturns.becomes place).change_of_some hbefore hafter
      rw [hbecomes.ages.maxConnections]
      rcases hbecomes.size_le with hle | ⟨rfl, hle⟩
      · exact Nat.le_trans hle (hsized place before hbefore)
      · -- The pool was not full when it opened the connection.
        obtain ⟨same, hsame, -, hroom⟩ := hdoes.opens_inv
        obtain rfl := Option.some.inj (hbefore.symm.trans hsame)
        exact Nat.le_trans hle hroom

theorem Sized.deals (hsized : Sized network) (hsound : Sound network)
    (hstocked : Stocked network) (answer : Answering α) (dealings : List Dealing) :
    Sized (network.deals answer dealings) := by
  refine deals_induction (motive := Sized) hsound hstocked (fun _ _ hsized => hsized) ?_ answer
    dealings hsized fun dealing _ reached operation hsound hstocked hdoes hsized =>
      hsized.turns hdoes (turns_undergo hsound hstocked operation)
  intro reached other order hsized place after hafter
  obtain ⟨listed, hperm, hpool⟩ := reached.pool?_rearrange other place order
  rw [hpool] at hafter
  obtain ⟨before, hbefore, rfl⟩ := Option.map_eq_some_iff.mp hafter
  have hlength : (listed before).length = before.listed.length := (hperm before).length_eq
  exact Nat.le_trans (Nat.le_of_eq hlength) (hsized place before hbefore)

/-! ## How much a connection carries -/

/-- The connections of a pool take as many channels as the pool says. -/
def Limited (network : Network α) : Prop :=
  ∀ {key connection place}, network.connection? key = some connection →
    connection.destination = .pool place →
    ∃ pool, network.pool? place = some pool ∧ connection.limit = pool.maxStreams

/-- The connections of pools carry as many channels as they take, or a single one. -/
def Loaded (network : Network α) : Prop :=
  ∀ {key connection place}, network.connection? key = some connection →
    connection.destination = .pool place → connection.live.length ≤ max 1 connection.limit

/-- A connection of a pool after a turn is one that the pool has just opened, or it was there
and carries at most one channel more. -/
theorem Turns.connection_before (hturns : Turns first operation second)
    (hafter : second.connection? key = some connection)
    (hdestination : connection.destination = .pool place) :
    (∃ before, first.connection? key = some before ∧ before.destination = .pool place ∧
      connection.limit = before.limit ∧ (connection.live.length ≤ before.live.length ∨
        connection.live.length = before.live.length + 1 ∧
          ∃ target, operation = .send key target)) ∨
      ∃ pool transport, first.pool? place = some pool ∧
        Opens first second place pool transport ∧
        connection = pool.nextConnection place first.nextSession := by
  cases hturns with
  | rests _ hrests =>
      cases hbefore : first.connection? key with
      | none =>
          exact absurd hdestination ((hrests.connection key).fresh_of_none hbefore hafter place)
      | some before =>
          have hstays := (hrests.connection key).change_of_some hbefore hafter
          exact .inl ⟨before, rfl, (hstays.destination place).mp hdestination, hstays.limit,
            .inl (Nat.le_of_eq (congrArg List.length hstays.live))⟩
  | shuts => exact .inl ⟨connection, hafter, hdestination, rfl, .inl (Nat.le_refl _)⟩
  | @opens other pool _ _ hpool hopens =>
      rw [hopens.connection? key] at hafter
      split at hafter
      next =>
        obtain rfl := Option.some.inj hafter
        obtain rfl : other = place := Destination.pool.inj hdestination
        exact .inr ⟨pool, _, hpool, hopens, rfl⟩
      next => exact .inl ⟨connection, hafter, hdestination, rfl, .inl (Nat.le_refl _)⟩
  | misses _ hmisses =>
      rw [hmisses.connection?] at hafter
      exact .inl ⟨connection, hafter, hdestination, rfl, .inl (Nat.le_refl _)⟩
  | ends _ hconnection =>
      rw [hconnection key] at hafter
      obtain ⟨before, hbefore, rfl⟩ := Option.map_eq_some_iff.mp hafter
      exact .inl ⟨before, hbefore, hdestination, rfl, .inl (List.length_filter_le ..)⟩
  | @closes _ other _ closed _ _ _ hconnection _ hothers =>
      rw [hothers key] at hafter
      split at hafter
      next heq =>
        obtain rfl := Option.some.inj hafter
        exact .inl ⟨closed, heq ▸ hconnection, hdestination, rfl, .inl (Nat.zero_le _)⟩
      next => exact .inl ⟨connection, hafter, hdestination, rfl, .inl (Nat.le_refl _)⟩
  | @dispatches other sending target _ _ _ hconnection _ hothers =>
      rw [hothers key] at hafter
      split at hafter
      next heq =>
        obtain rfl := Option.some.inj hafter
        subst heq
        exact .inl ⟨sending, hconnection, hdestination, rfl,
          .inr ⟨by simp [Connection.register], target, rfl⟩⟩
      next => exact .inl ⟨connection, hafter, hdestination, rfl, .inl (Nat.le_refl _)⟩

theorem Limited.turns (hlimited : Limited first) (hturns : Turns first operation second) :
    Limited second := by
  have hkept : ∀ {place : PoolKey} {before : Pool}, first.pool? place = some before →
      ∃ after, second.pool? place = some after ∧ after.maxStreams = before.maxStreams := by
    intro place before hbefore
    obtain ⟨after, hafter, hages⟩ := (hturns.pool_ages place).exists_after hbefore
    exact ⟨after, hafter, hages.maxStreams⟩
  intro key connection place hafter hdestination
  rcases hturns.connection_before hafter hdestination with
    ⟨before, hbefore, hgoes, hlimit, -⟩ | ⟨pool, transport, hpool, -, rfl⟩
  · obtain ⟨pool, hpool, hsame⟩ := hlimited hbefore hgoes
    obtain ⟨after, hthere, hstreams⟩ := hkept hpool
    exact ⟨after, hthere, hlimit.trans (hsame.trans hstreams.symm)⟩
  · obtain ⟨after, hthere, hstreams⟩ := hkept hpool
    exact ⟨after, hthere, hstreams.symm⟩

theorem Loaded.turns (hloaded : Loaded first) (hdoes : first.Does dealing operation)
    (hdealing : dealing.isDispatch = false) (hturns : Turns first operation second) :
    Loaded second := by
  intro key connection place hafter hdestination
  rcases hturns.connection_before hafter hdestination with
    ⟨before, hbefore, hgoes, hlimit, hle | ⟨hmore, target, rfl⟩⟩ | ⟨pool, transport, -, -, rfl⟩
  · have hfits := hloaded hbefore hgoes
    rw [hlimit]
    exact Nat.le_trans hle hfits
  · rcases hdoes.sends_inv hdealing hbefore with hroom | hempty
    · omega
    · rw [hempty, List.length_nil] at hmore
      omega
  · exact Nat.zero_le _

theorem Limited.deals (hlimited : Limited network) (hsound : Sound network)
    (hstocked : Stocked network) (answer : Answering α) (dealings : List Dealing) :
    Limited (network.deals answer dealings) := by
  refine deals_induction (motive := Limited) hsound hstocked (fun _ _ hlimited => hlimited) ?_
    answer dealings hlimited fun dealing _ reached operation hsound hstocked _ hlimited =>
      hlimited.turns (turns_undergo hsound hstocked operation)
  intro reached other order hlimited key connection place hconnection hdestination
  obtain ⟨before, hbefore, hlimit⟩ := hlimited hconnection hdestination
  obtain ⟨listed, -, hpool⟩ := reached.pool?_rearrange other place order
  exact ⟨{ before with listed := listed before }, by rw [hpool, hbefore]; rfl, hlimit⟩

theorem Loaded.deals (hloaded : Loaded network) (hsound : Sound network)
    (hstocked : Stocked network) (answer : Answering α) {dealings : List Dealing}
    (hdealings : ∀ dealing ∈ dealings, dealing.isDispatch = false) :
    Loaded (network.deals answer dealings) :=
  deals_induction (motive := Loaded) hsound hstocked (fun _ _ hloaded => hloaded)
    (fun _ _ _ hloaded => hloaded) answer dealings hloaded
    fun dealing hmem _ operation hsound hstocked hdoes hloaded =>
      hloaded.turns hdoes (hdealings dealing hmem) (turns_undergo hsound hstocked operation)

/-! ## Pools that were closed -/

/-- A pool was closed, and lists nothing any more. -/
def Emptied (network : Network α) (place : PoolKey) : Prop :=
  ∃ pool, network.pool? place = some pool ∧ pool.isClosed = true ∧ pool.listed = []

private theorem stocks_close (hsound : Sound network) {reason : CloseReason} {number : ConnectionId}
    {other : ConnectionKey}
    (hstocks : (network.undergo (.close key reason)).Stocks place number other) :
    network.Stocks place number other ∧ other ≠ key := by
  change ((network.close quiet key reason).1).Stocks place number other at hstocks
  obtain ⟨after, hafter, hid, hdestination, hopen⟩ := hstocks
  cases hthere : network.isOpen key with
  | false =>
      rw [close_of_not_open hthere] at hafter
      refine ⟨⟨after, hafter, hid, hdestination, hopen⟩, ?_⟩
      rintro rfl
      simp [isOpen, hafter, hopen] at hthere
  | true =>
      obtain ⟨connection, hconnection, hbefore⟩ := isOpen_iff.mp hthere
      obtain ⟨second, heq, hcloses⟩ :=
        closes_of_open hsound.coherent hsound.housed hconnection hbefore reason
      rw [heq, hcloses.connection?] at hafter
      split at hafter
      next =>
        obtain rfl := Option.some.inj hafter
        simp at hopen
      next hne => exact ⟨⟨after, hafter, hid, hdestination, hopen⟩, hne⟩

private theorem stocks_closeInOrder (hsound : Sound network) {order : List ConnectionKey}
    {number : ConnectionId} {other : ConnectionKey}
    (hstocks : (network.closeInOrder quiet order).Stocks place number other) :
    network.Stocks place number other ∧ other ∉ order := by
  induction order generalizing network with
  | nil => exact ⟨hstocks, by simp⟩
  | cons key rest ih =>
      obtain ⟨hthen, hrest⟩ := ih (hsound.undergo (.close key .requested)) hstocks
      obtain ⟨hbefore, hne⟩ := stocks_close hsound hthen
      exact ⟨hbefore, by simp [hne, hrest]⟩

/-- A pool is still there after a course, and it has got older. -/
theorem Course.pool_ages {acts : List (Act α)} (hcourse : Course first acts second)
    (hsound : Sound first) (hstocked : Stocked first) (hpool : first.pool? place = some pool) :
    ∃ after, second.pool? place = some after ∧ pool.Ages after := by
  refine hcourse.induction (motive := fun reached =>
    ∃ after, reached.pool? place = some after ∧ pool.Ages after) hsound hstocked
    (fun _ _ hages => hages) ?_ ⟨pool, hpool, .refl pool⟩ ?_
  · rintro reached other order ⟨before, hbefore, hages⟩
    obtain ⟨listed, -, hfound⟩ := reached.pool?_rearrange other place order
    exact ⟨{ before with listed := listed before }, by rw [hfound, hbefore]; rfl,
      hages.maxConnections, hages.maxStreams, hages.loopback, hages.closed⟩
  · rintro reached operation hsound hstocked - ⟨before, hbefore, hages⟩
    have hturns := turns_undergo hsound hstocked operation
    obtain ⟨after, hafter, hlater⟩ := (hturns.pool_ages place).exists_after hbefore
    exact ⟨after, hafter, hages.trans hlater⟩

theorem emptied_closePool (hsound : Sound network) (hstocked : Stocked network)
    (hpool : network.pool? place = some pool) (hopen : pool.isClosed = false) :
    Emptied (network.closePool quiet place) place := by
  let shut := network.undergo (.shutPool place)
  obtain ⟨closing, hcourse⟩ := logs_closeInOrder shut place (pool.listed.map Prod.snd)
  have hready : Sound shut := hsound.undergo _
  have hshut : shut.pool? place = some { pool with isClosed := true } := by
    show (network.modifyPool place _).pool? place = _
    rw [pool?_modifyPool, if_pos rfl, hpool]
    rfl
  rw [closePool_of_open hpool hopen]
  have hstock := hstocked.undergo hsound (.shutPool place)
  obtain ⟨after, hafter, hages⟩ := closing.pool_ages hready hstock hshut
  refine ⟨after, hafter, hages.closed rfl, List.eq_nil_iff_forall_not_mem.mpr ?_⟩
  rintro ⟨number, key⟩ hmem
  have hstocks := ((closing.stocked hready hstock).listed hafter).mp hmem
  obtain ⟨hbefore, hnot⟩ := stocks_closeInOrder hready hstocks
  have hlisted : (number, key) ∈ pool.listed := (hstock.listed hshut).mpr hbefore
  exact hnot (List.mem_map.mpr ⟨_, hlisted, rfl⟩)

theorem Emptied.turns (hemptied : Emptied first place) (hdoes : first.Does dealing operation)
    (hturns : Turns first operation second) : Emptied second place := by
  obtain ⟨pool, hpool, hclosed, hlisted⟩ := hemptied
  obtain ⟨after, hafter, hbecomes⟩ := (hturns.becomes place).exists_after hpool
  refine ⟨after, hafter, hbecomes.ages.closed hclosed, ?_⟩
  cases hbecomes with
  | stays | shuts | misses | counts => exact hlisted
  | opens key =>
      -- A closed pool opens nothing.
      obtain ⟨same, hsame, hopen, -⟩ := hdoes.opens_inv
      obtain rfl := Option.some.inj (hpool.symm.trans hsame)
      exact Bool.noConfusion (hclosed.symm.trans hopen)
  | unlists id => simp [Pool.unlist, hlisted]

/-! ## What the factory is asked for -/

/-- So often a pool asked its factory for a session. -/
def openings (network : Network α) (place : PoolKey) : Nat :=
  network.trace.toList.countP (Notice.opens place)

theorem openings_of_notices {notices : List Notice}
    (htrace : second.trace.toList = first.trace.toList ++ notices)
    (hnot : ∀ notice ∈ notices, notice.opens place = false) :
    second.openings place = first.openings place := by
  have hzero : notices.countP (Notice.opens place) = 0 :=
    List.countP_eq_zero.mpr fun notice hmem => by simp [hnot notice hmem]
  rw [openings, htrace, List.countP_append, hzero, Nat.add_zero, openings]

theorem openings_of_trace (htrace : second.trace = first.trace) :
    second.openings place = first.openings place := by
  rw [openings, htrace, openings]

private theorem openings_of_nothing (hnothing : network.happening operation = .nothing)
    (hother : operation ≠ .openConnection place) :
    (network.undergo operation).openings place = network.openings place := by
  cases hpublic : operation.isPublic with
  | false =>
      rcases (aloof_of_nothing hnothing hpublic).trace with htrace | ⟨name, event, htrace⟩
      · exact openings_of_trace htrace
      · have hnotices : (network.undergo operation).trace.toList =
            network.trace.toList ++ [.heard name event] := by
          rw [htrace, Array.toList_push]
        exact openings_of_notices hnotices (by simp [Notice.opens])
  | true =>
      cases operation with
      | openConnection other =>
          have hne : place ≠ other := fun heq => hother (heq ▸ rfl)
          simp only [undergo]
          split
          next => rfl
          next pool hpool =>
            rcases openConnection_cases hpool with
              ⟨error, final, heq, hmisses⟩ | ⟨transport, final, heq, hopens⟩
            · rw [heq]
              exact openings_of_notices hmisses.trace (by simp [Notice.opens, hne.symm])
            · rw [heq]
              exact openings_of_notices hopens.trace (by simp [Notice.opens, hne.symm])
      | moveSession session transport =>
          obtain ⟨-, -, -, htrace⟩ := network.moveSession_frame session transport
          exact openings_of_trace htrace
      | makeConnection id observed session limit =>
          simp only [undergo]
          split
          next hthere =>
            obtain ⟨found, hfound⟩ := Option.isSome_iff_exists.mp hthere
            let made : Connection :=
              { id, destination := Connection.watchedBy observed, session, limit }
            have hadded : (network.addConnection made).1.session? session = some found := hfound
            have htrace : ((network.addConnection made).1.attach quiet session
                network.nextConnection).trace.toList =
                  network.trace.toList ++ [.attached session] := by
              rw [attach_eq _ hadded]
              exact Array.toList_push
            exact openings_of_notices htrace (by simp [Notice.opens])
          next => rfl
      | retainConnection key =>
          simp only [undergo]
          split <;> rfl
      | letGoConnection key =>
          simp only [undergo, release]
          split <;> rfl
      | makeSession | makePool | shutPool | loseDestination => rfl
      | _ => exact Bool.noConfusion hpublic

private theorem openings_undergo (hsound : Sound network)
    (hother : operation ≠ .openConnection place) :
    (network.undergo operation).openings place = network.openings place := by
  by_cases hnothing : network.happening operation = .nothing
  · exact openings_of_nothing hnothing hother
  · obtain ⟨notices, htrace, hwarranted⟩ := trace_undergo hsound operation
    refine openings_of_notices htrace fun notice hmem => ?_
    have hreason := hwarranted notice hmem
    cases notice with
    | opening => exact absurd hreason hnothing
    | _ => rfl

/-- An emptied pool stays empty, and does not ask its factory again. -/
theorem Emptied.deals (hemptied : Emptied network place) (hsound : Sound network)
    (hstocked : Stocked network) (answer : Answering α) (dealings : List Dealing) :
    Emptied (network.deals answer dealings) place ∧
      (network.deals answer dealings).openings place = network.openings place := by
  refine deals_induction (motive := fun reached => Emptied reached place ∧
      reached.openings place = network.openings place) hsound hstocked (fun _ _ hkept => hkept) ?_
    answer dealings ⟨hemptied, rfl⟩ ?_
  rotate_left
  · rintro dealing - reached operation hsound hstocked hdoes ⟨hemptied, hsame⟩
    refine ⟨hemptied.turns hdoes (turns_undergo hsound hstocked operation), ?_⟩
    refine (openings_undergo hsound ?_).trans hsame
    rintro rfl
    obtain ⟨pool, hpool, hclosed, -⟩ := hemptied
    obtain ⟨same, hopen, hstill, -⟩ := hdoes.opens_inv
    obtain rfl := Option.some.inj (hpool.symm.trans hopen)
    simp [hclosed] at hstill
  · rintro reached other order ⟨⟨pool, hpool, hclosed, hlisted⟩, hsame⟩
    obtain ⟨listed, hperm, hfound⟩ := reached.pool?_rearrange other place order
    have hempty : listed pool = [] := List.perm_nil.mp (hlisted ▸ hperm pool)
    refine ⟨⟨{ pool with listed := listed pool }, ?_, hclosed, hempty⟩, hsame⟩
    rw [hfound, hpool]
    rfl

/-! ## Closing -/

/-- If a pool was closed, it lists nothing. -/
def Cleared (network : Network α) (place : PoolKey) : Prop :=
  ∀ pool, network.pool? place = some pool → pool.isClosed = true → pool.listed = []

theorem Turns.closed_before {after : Pool} (hturns : Turns first operation second)
    (hother : operation ≠ .shutPool place) (hafter : second.pool? place = some after)
    (hclosed : after.isClosed = true) :
    ∃ before, first.pool? place = some before ∧ before.isClosed = true := by
  cases hbefore : first.pool? place with
  | none =>
      have hnew := (hturns.becomes place).fresh_of_none hbefore hafter
      exact Bool.noConfusion (hnew.2.2.2.symm.trans hclosed)
  | some before =>
      refine ⟨before, rfl, ?_⟩
      cases (hturns.becomes place).change_of_some hbefore hafter with
      | shuts => exact absurd rfl hother
      | stays | misses | opens | counts | unlists => exact hclosed

theorem Does.shuts_inv (hdoes : network.Does dealing (.shutPool place)) :
    dealing = .close place := by
  cases hdoes with
  | shuts => rfl
  | acts _ hoperation => exact Bool.noConfusion hoperation

theorem Cleared.deal (hcleared : Cleared network place) (hsound : Sound network)
    (hstocked : Stocked network) (answer : Answering α) (dealing : Dealing) :
    Cleared (network.deal answer dealing) place := by
  by_cases hclose : dealing = .close place
  · subst hclose
    show Cleared (network.closePool quiet place) place
    intro after hafter hclosed
    cases hpool : network.pool? place with
    | none =>
        have hsame : network.closePool quiet place = network := by simp [closePool, hpool]
        rw [hsame, hpool] at hafter
        simp at hafter
    | some pool =>
        cases hopen : pool.isClosed with
        | true =>
            have hsame : network.closePool quiet place = network := by
              simp [closePool, hpool, hopen]
            exact hcleared after (hsame ▸ hafter) hclosed
        | false =>
            obtain ⟨same, hsame, -, hlisted⟩ := emptied_closePool hsound hstocked hpool hopen
            obtain rfl := Option.some.inj (hafter.symm.trans hsame)
            exact hlisted
  · refine deal_induction (motive := fun reached => Cleared reached place) hsound hstocked
      (fun _ _ hkept => hkept) ?_ answer hcleared ?_
    rotate_left
    · intro reached operation hsound hstocked hdoes hkept after hafter hclosed
      have hturns := turns_undergo hsound hstocked operation
      have hother : operation ≠ .shutPool place := by
        rintro rfl
        exact hclose hdoes.shuts_inv
      obtain ⟨before, hbefore, hover⟩ := hturns.closed_before hother hafter hclosed
      have hemptied : Emptied reached place := ⟨before, hbefore, hover, hkept before hbefore hover⟩
      obtain ⟨same, hsame, -, hlisted⟩ := hemptied.turns hdoes hturns
      obtain rfl := Option.some.inj (hafter.symm.trans hsame)
      exact hlisted
    · intro reached other order hkept after hafter hclosed
      obtain ⟨listed, hperm, hfound⟩ := reached.pool?_rearrange other place order
      rw [hfound] at hafter
      obtain ⟨before, hbefore, rfl⟩ := Option.map_eq_some_iff.mp hafter
      exact List.perm_nil.mp (hkept before hbefore hclosed ▸ hperm before)

theorem Cleared.deals (hcleared : Cleared network place) (hsound : Sound network)
    (hstocked : Stocked network) (answer : Answering α) (dealings : List Dealing) :
    Cleared (network.deals answer dealings) place := by
  induction dealings generalizing network with
  | nil => exact hcleared
  | cons dealing rest ih =>
      exact ih (hcleared.deal hsound hstocked answer dealing) (hsound.deal answer dealing)
        (hstocked.deals hsound answer [dealing])

/-- A pool is emptied when it is closed, be it for the first time or not. -/
theorem emptied_of_close (hsound : Sound network) (hstocked : Stocked network)
    (hcleared : Cleared network place) (hthere : (network.pool? place).isSome = true) :
    Emptied (network.closePool quiet place) place := by
  obtain ⟨pool, hpool⟩ := Option.isSome_iff_exists.mp hthere
  cases hopen : pool.isClosed with
  | false => exact emptied_closePool hsound hstocked hpool hopen
  | true =>
      have hsame : network.closePool quiet place = network := by simp [closePool, hpool, hopen]
      rw [hsame]
      exact ⟨pool, hpool, hopen, hcleared pool hpool hopen⟩

/-! ## What callers can rely on -/

/-- A pool lists open connections under their own numbers, and no more than it may. -/
structure Orderly (network : Network α) (pool : Pool) : Prop where
  listed : ∀ number key, (number, key) ∈ pool.listed → ∃ connection,
    network.connection? key = some connection ∧ connection.id = number ∧
      connection.status = .opened
  once : (pool.listed.map Prod.fst).Nodup
  size : pool.size ≤ pool.maxConnections

/-- A pool is over: it lists nothing, and whoever asks it for anything is turned away and
leaves everything as it was. -/
structure Over (network : Network α) (place : PoolKey) (pool : Pool) : Prop where
  empty : pool.size = 0
  acquire : ∀ react, network.acquire react place = (network, .error .closed)
  send : ∀ react target, network.sendPooled react place target = (network, some (.error .closed))

private theorem orderly_of_stocked (hstocked : Stocked network) (hsized : Sized network)
    (hpool : network.pool? place = some pool) : Orderly network pool where
  listed number key hmem := by
    obtain ⟨connection, hconnection, hid, -, hopen⟩ := (hstocked.listed hpool).mp hmem
    exact ⟨connection, hconnection, hid, by simp [Connection.status, hopen]⟩
  once := hstocked.once hpool
  size := hsized place pool hpool

/-- A pool that is emptied turns everyone away, for the number of attempts to send is a word. -/
theorem over_of_emptied (hemptied : Emptied network place) (hpool : network.pool? place = some pool)
    (hbound : pool.maxConnections + 1 < Word.bound64) : Over network place pool := by
  obtain ⟨same, hsame, hclosed, hlisted⟩ := hemptied
  obtain rfl := Option.some.inj (hpool.symm.trans hsame)
  have hattempts := Pool.attempts?_eq_some hbound
  refine ⟨by simp [Pool.size, hlisted], fun react => ?_, fun react target => ?_⟩
  · simp [Network.acquire, hpool, available?, hlisted, hclosed]
  · simp [sendPooled_eq hpool hattempts, attempt, hpool, hclosed]

/-- After any dealings every pool is orderly.  If no exchange is dispatched past the pools, no
connection carries more channels than its pool allows.  A pool that was closed is over, and
has not asked its factory for anything since. -/
theorem orderly_deals (surroundings : α) (answer : Answering α) (dealings : List Dealing)
    (hpool : ((blank surroundings).deals answer dealings).pool? place = some pool)
    (hbound : pool.maxConnections + 1 < Word.bound64) (hstreams : 1 ≤ pool.maxStreams) :
    let final := (blank surroundings).deals answer dealings
    Orderly final pool ∧
      ((∀ dealing ∈ dealings, dealing.isDispatch = false) →
        ∀ number key connection, (number, key) ∈ pool.listed →
          final.connection? key = some connection → connection.channelCount ≤ pool.maxStreams) ∧
      ∀ before after, dealings = before ++ .close place :: after →
        (((blank surroundings).deals answer before).pool? place).isSome = true →
          Over final place pool ∧ final.openings place =
            ((blank surroundings).deals answer (before ++ [.close place])).openings place := by
  intro final
  have hsound : Sound (blank surroundings) := sound_blank surroundings
  have hstocked : Stocked (blank surroundings) := stocked_blank surroundings
  have hsized : Sized (blank surroundings) := fun other found hfound => by simp at hfound
  have hlimited : Limited (blank surroundings) := fun hfound => by simp at hfound
  have hloaded : Loaded (blank surroundings) := fun hfound => by simp at hfound
  have hcleared : Cleared (blank surroundings) place := fun found hfound => by simp at hfound
  have hstock : Stocked final := hstocked.deals hsound answer dealings
  refine ⟨orderly_of_stocked hstock (hsized.deals hsound hstocked answer dealings) hpool, ?_, ?_⟩
  · intro hdealings number key connection hmem hconnection
    obtain ⟨same, hsame, -, hdestination, -⟩ := (hstock.listed hpool).mp hmem
    obtain rfl := Option.some.inj (hconnection.symm.trans hsame)
    obtain ⟨found, hfound, hlimit⟩ :=
      hlimited.deals hsound hstocked answer dealings hconnection hdestination
    obtain rfl := Option.some.inj (hpool.symm.trans hfound)
    have hfits : connection.live.length ≤ max 1 connection.limit :=
      hloaded.deals hsound hstocked answer hdealings hconnection hdestination
    rwa [hlimit, Nat.max_eq_right hstreams] at hfits
  · rintro before after rfl hthere
    have hready : Sound ((blank surroundings).deals answer before) := hsound.deals answer before
    have hfilled := hstocked.deals hsound answer before
    have hemptied := emptied_of_close hready hfilled
      (hcleared.deals hsound hstocked answer before) hthere
    obtain ⟨hstill, hasked⟩ := hemptied.deals (hready.deal answer (.close place))
      (hfilled.deals hready answer [.close place]) answer after
    have hsplit : final = (((blank surroundings).deals answer before).closePool quiet place).deals
        answer after := deals_append answer _ before (.close place :: after)
    rw [deals_append, hsplit]
    exact ⟨over_of_emptied hstill (hsplit ▸ hpool) hbound, hasked⟩

/-- A pool that is closed while an exchange is under way is over. -/
theorem orderly_deals_closed :
    let dealings := firstDealings ++ [.send ⟨1⟩ ⟨1⟩, .close ⟨1⟩]
    let final := (blank ()).deals steadfast dealings
    ∃ pool, final.pool? ⟨1⟩ = some pool ∧ pool.maxConnections + 1 < Word.bound64 ∧
      1 ≤ pool.maxStreams ∧ Over final ⟨1⟩ pool := by
  intro dealings final
  have hpool : final.pool? ⟨1⟩ = some
      { name := "p", maxConnections := 2, maxStreams := 2, factory := .recording [],
        opened := 1, isClosed := true } := rfl
  have horderly := orderly_deals () steadfast dealings hpool (by decide) (by decide)
  exact ⟨_, hpool, by decide, by decide,
    (horderly.2.2 (firstDealings ++ [.send ⟨1⟩ ⟨1⟩]) [] rfl rfl).1⟩

end Network

end Multiplex
