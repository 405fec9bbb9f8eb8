import Multiplex.Proofs.Stress.PlainDealings

/-!
# Lading a pool

A pool is laden exchange by exchange.  Each one that it takes waits on one of its connections
and is under way there; the pool has counted no release, and carries as many as it took.  So it
takes exchanges as long as it took fewer than its connections may carry together, and refuses
them from then on.

There are two ends to this.  If the pool is closed, all that it took is aborted, nothing is ever
released, and whatever is sent later is refused.  If time passes until all answers are due, each
exchange gets its own, and every channel is released; this is as long as no session runs out of
numbers for its streams.
-/

namespace Multiplex

/-- An open pool over loopback sessions that take as many streams as its connections take
channels. -/
structure Pool.Serves (pool : Pool) (connections streams delay : Nat) (responder : Responder) :
    Prop where
  opened : pool.isClosed = false
  maxConnections : pool.maxConnections = connections
  maxStreams : pool.maxStreams = streams
  factory : pool.factory = .loopback streams delay responder

private theorem Pool.Ages.serves {before after : Pool} {connections streams delay : Nat}
    {responder : Responder} (hages : before.Ages after)
    (hserves : before.Serves connections streams delay responder) (hopen : after.isClosed = false) :
    after.Serves connections streams delay responder where
  opened := hopen
  maxConnections := hages.maxConnections.trans hserves.maxConnections
  maxStreams := hages.maxStreams.trans hserves.maxStreams
  factory := (hages.loopback _ _ _).mpr hserves.factory

namespace Network

variable {α : Type} {network : Network α} {key : ConnectionKey} {connection : Connection}
  {target : ExchangeId} {exchange : Exchange} {place : PoolKey} {pool : Pool} {dealing : Dealing}
  {targets : List ExchangeId} {connections streams delay count : Nat}
  {responder : Responder}

/-! ## What a pool stays -/

private theorem serves_deal (hsound : Sound network) (hstocked : Stocked network)
    (answer : Answering α) (hdispatching : dealing.isDispatching = true)
    (hpool : ∃ pool, network.pool? place = some pool ∧
      pool.Serves connections streams delay responder) :
    ∃ pool, (network.deal answer dealing).pool? place = some pool ∧
      pool.Serves connections streams delay responder := by
  refine deal_induction (motive := fun reached => ∃ pool, reached.pool? place = some pool ∧
    pool.Serves connections streams delay responder) hsound hstocked (fun _ _ hkept => hkept) ?_
    answer hpool ?_
  · rintro reached other order ⟨found, hfound, hserves⟩
    obtain ⟨listed, -, hpool⟩ := reached.pool?_rearrange other place order
    refine ⟨{ found with listed := listed found }, by rw [hpool, hfound]; rfl, ?_⟩
    exact ⟨hserves.opened, hserves.maxConnections, hserves.maxStreams, hserves.factory⟩
  · rintro reached operation hsound hstocked hdoes ⟨found, hfound, hserves⟩
    have hturns := turns_undergo hsound hstocked operation
    obtain ⟨after, hafter, hages⟩ := (hturns.pool_ages place).exists_after hfound
    refine ⟨after, hafter, hages.serves hserves (Bool.eq_false_iff.mpr fun hclosed => ?_)⟩
    have hother : operation ≠ .shutPool place := by
      rintro rfl
      obtain rfl := hdoes.shuts_inv
      exact Bool.noConfusion hdispatching
    obtain ⟨before, hbefore, hthen⟩ := hturns.closed_before hother hafter hclosed
    obtain rfl := Option.some.inj (hfound.symm.trans hbefore)
    simp [hserves.opened] at hthen

/-! ## Exchanges that wait -/

/-- An exchange that is held waits on a connection of a pool. -/
structure WaitsAt (network : Network α) (place : PoolKey) (target : ExchangeId) : Prop where
  held : network.holds target = true
  unresolved : network.outcome? target = none
  watched : ∃ key id, network.Watched key id target ∧ network.Belongs key place

/-- What an exchange waits for on a connection of a pool is due when the delay has passed. -/
def ExpectsAt (network : Network α) (place : PoolKey) (delay : Nat) (target : ExchangeId) : Prop :=
  ∃ errand : Errand, errand.target = target ∧ network.Expects errand [] ∧
    network.Belongs errand.key place ∧ errand.reply.due ≤ network.clock + delay

/-- No session of a pool has run out of numbers for its streams. -/
def HasNumbers (network : Network α) (place : PoolKey) : Prop :=
  ∀ {key connection}, network.connection? key = some connection →
    connection.destination = .pool place → network.streamsOpened connection.session < 2 ^ 31

/-- While exchanges are dispatched, an exchange that waits does so on. -/
theorem WaitsAt.deal (hwaits : network.WaitsAt place target) (hsound : Sound network)
    (hstocked : Stocked network) (answer : Answering α) (dealing : Dealing)
    (hdispatching : dealing.isDispatching = true) :
    (network.deal answer dealing).WaitsAt place target := by
  obtain ⟨hheld, hnone, key, id, hwatched, hbelongs⟩ := hwaits
  refine ⟨holds_deal hsound hstocked answer dealing
    (Dealing.isPlain_of_isDispatching hdispatching) hheld, ?_, key, id,
    hwatched.deals hsound answer [dealing], hbelongs.deals hsound hstocked answer [dealing]⟩
  rw [outcome?_deal hsound hstocked answer hdispatching hwatched.isSome, hnone]

/-- While exchanges are dispatched, what waits for an answer waits on. -/
theorem Expects.deal {errand : Errand} (hexpects : network.Expects errand [])
    (hinStep : InStep network errand.session) (answer : Answering α)
    (hdispatching : dealing.isDispatching = true)
    (hheld : (network.deal answer dealing).holds errand.target = true)
    (hnone : (network.deal answer dealing).outcome? errand.target = none)
    (hfew : (network.deal answer dealing).streamsOpened errand.session < 2 ^ 31) :
    (network.deal answer dealing).Expects errand [] := by
  have hplain := Dealing.isPlain_of_isDispatching hdispatching
  have hfate : (network.deal answer dealing).Fate errand False [] :=
    Fate.deal (.inl hexpects) hinStep answer dealing (Dealing.moves_of_plain hplain errand.session)
      (fun _ _ hdealing => respects_of_plain hplain hdealing errand.session)
      (fun hspared => hspared.elim) hfew
  rcases hfate with hwaits | hmet | ⟨error, hfailed, -⟩
  · exact hwaits
  · cases hmet with
    | answered houtcome => simp [hnone] at houtcome
    | dropped _ hleft => simp [hheld] at hleft
  · simp [hnone] at hfailed

/-- An exchange that waits on a connection of a pool waits for its session. -/
theorem Expects.home {errand : Errand} (hexpects : network.Expects errand [])
    (hbelongs : network.Belongs errand.key place) : ∃ connection,
    network.connection? errand.key = some connection ∧ connection.session = errand.session ∧
      connection.destination = .pool place := by
  obtain ⟨connection, hconnection, hover⟩ := hexpects.carrier
  obtain ⟨same, hsame, hdestination⟩ := hbelongs
  obtain rfl := Option.some.inj (hconnection.symm.trans hsame)
  exact ⟨connection, hconnection, hover, hdestination⟩

/-- While exchanges are dispatched, what is expected stays so, and is due when it was. -/
theorem ExpectsAt.deal {delay : Nat} (hexpects : network.ExpectsAt place delay target)
    (hinStep : ∀ session, InStep network session) (answer : Answering α) (dealing : Dealing)
    (hdispatching : dealing.isDispatching = true)
    (hclock : network.clock ≤ (network.deal answer dealing).clock)
    (hwaits : (network.deal answer dealing).WaitsAt place target)
    (hnumbers : (network.deal answer dealing).HasNumbers place) :
    (network.deal answer dealing).ExpectsAt place delay target := by
  obtain ⟨errand, rfl, hwaiting, hbelongs, hdue⟩ := hexpects
  have hsound := (hinStep errand.session).sound
  have hstill := hbelongs.deals hsound (hinStep errand.session).stocked answer [dealing]
  refine ⟨errand, rfl, ?_, hstill, by omega⟩
  refine hwaiting.deal (hinStep errand.session) answer hdispatching hwaits.held hwaits.unresolved ?_
  obtain ⟨before, hbefore, hover, -⟩ := hwaiting.home hbelongs
  obtain ⟨after, hafter, hsession⟩ := (later_deals hsound answer [dealing]).over_after hbefore
  obtain ⟨same, hsame, hdestination⟩ := hstill
  obtain rfl := Option.some.inj (hafter.symm.trans hsame)
  rw [← hover, ← hsession]
  exact hnumbers hafter hdestination

/-! ## Laden pools -/

/-- A pool has taken some exchanges, and nothing else was done to it.  Each of them waits on one
of its connections for an answer, which is due when the delay of the sessions has passed. -/
structure Laden (network : Network α) (place : PoolKey) (targets : List ExchangeId)
    (connections streams delay : Nat) (responder : Responder) : Prop where
  steady : Steady network
  pool : ∃ pool, network.pool? place = some pool ∧ pool.Serves connections streams delay responder
  ledger : Ledger network place [] [] targets.length
  carriesOnly : network.CarriesOnly targets
  unspent : ∀ session, network.Unspent session
  waits : ∀ target ∈ targets, network.WaitsAt place target
  /-- Unless numbers of streams come twice, the answer is on its way. -/
  expects : min targets.length streams < 2 ^ 31 → ∀ target ∈ targets,
    network.ExpectsAt place delay target

/-- A session of a laden pool has opened no more streams than its connection carries channels. -/
theorem Ledger.streamsOpened_le (hledger : Ledger network place [] [] count)
    (hsteady : Steady network) (hunspent : network.Unspent connection.session)
    (hpool : network.pool? place = some pool) (hpositive : 1 ≤ pool.maxStreams)
    (hconnection : network.connection? key = some connection)
    (hdestination : connection.destination = .pool place) :
    network.streamsOpened connection.session ≤ min count pool.maxStreams := by
  rcases hunspent with hnone | ⟨other, found, hfound, hover, hle⟩
  · omega
  obtain rfl := (hsteady.inStep connection.session).mirrored.alone hconnection hfound rfl hover
  obtain rfl := Option.some.inj (hconnection.symm.trans hfound)
  have hcount : connection.live.length ≤ count := by
    cases hopen : connection.isClosed with
    | true => simp [hsteady.sound.housed.closed hconnection hopen]
    | false =>
        have hlisted : (connection.id, key) ∈ pool.listed :=
          (hsteady.stocked.listed hpool).mpr ⟨connection, hconnection, rfl, hdestination, hopen⟩
        have hlength := (underWay_perm hpool hconnection hlisted).length_eq
        have hall := hledger.count
        simp only [List.nil_append, List.append_nil, List.length_append] at hlength hall
        omega
  obtain ⟨same, hsame, hlimit⟩ := hsteady.limited hconnection hdestination
  obtain rfl := Option.some.inj (hpool.symm.trans hsame)
  have hload := hsteady.loaded hconnection hdestination
  omega

namespace Laden

variable (hladen : network.Laden place targets connections streams delay responder)
include hladen

theorem load_eq (hpool : network.pool? place = some pool) : network.load pool = targets.length := by
  rw [← length_underWay hpool]
  simpa using hladen.ledger.count

private theorem ledger_deal (answer : Answering α) (dealing : Dealing)
    (hdispatching : dealing.isDispatching = true) :
    Ledger (network.deal answer dealing) place [] []
      (targets.length + (network.accepts answer place dealing).toNat) := by
  have hsound := hladen.steady.sound
  have hstocked := hladen.steady.stocked
  obtain ⟨ended, hledger⟩ := hladen.ledger.deal hsound hstocked answer
    (Dealing.isDispatch_of_plain (Dealing.isPlain_of_isDispatching hdispatching))
  obtain ⟨hreleases, hcut⟩ := releases_of_dispatching hsound hstocked answer hdispatching place
  have hnone : ended = [] := by
    have hlength := hledger.releases
    rw [hreleases, hladen.ledger.releases] at hlength
    exact List.eq_nil_of_length_eq_zero (by simpa using hlength.symm)
  rwa [hnone, hcut] at hledger

/-- While exchanges are dispatched, the pool stays laden with what it took before and what it
takes now. -/
theorem deal (hpositive : 1 ≤ streams) (answer : Answering α) (dealing : Dealing)
    (others : List ExchangeId) (hdispatching : dealing.isDispatching = true)
    (hcount : (network.accepts answer place dealing).toNat = others.length)
    (hclock : network.clock ≤ (network.deal answer dealing).clock)
    (hsends : ∀ place target, dealing = .send place target → target ∈ others)
    (hwaits : ∀ target ∈ others, (network.deal answer dealing).WaitsAt place target)
    (hexpects : (network.deal answer dealing).HasNumbers place →
      ∀ target ∈ others, (network.deal answer dealing).ExpectsAt place delay target) :
    (network.deal answer dealing).Laden place (targets ++ others) connections streams delay
      responder := by
  have hsound := hladen.steady.sound
  have hstocked := hladen.steady.stocked
  have hsteady := hladen.steady.deal answer dealing (Dealing.isPlain_of_isDispatching hdispatching)
  have hpool := serves_deal hsound hstocked answer hdispatching hladen.pool
  have hunspent := fun session =>
    (hladen.unspent session).deal (hladen.steady.inStep session) answer hdispatching
  have hledger := hladen.ledger_deal answer dealing hdispatching
  rw [hcount, ← List.length_append] at hledger
  have hkept : ∀ target ∈ targets, (network.deal answer dealing).WaitsAt place target :=
    fun target hmem => (hladen.waits target hmem).deal hsound hstocked answer dealing hdispatching
  refine
    { steady := hsteady
      pool := hpool
      ledger := hledger
      carriesOnly := (hladen.carriesOnly.mono (List.subset_append_left ..)).deal hsound hstocked
        answer hdispatching fun place target hdealing =>
          List.mem_append_right _ (hsends place target hdealing)
      unspent := hunspent
      waits := List.forall_mem_append.mpr ⟨hkept, hwaits⟩
      expects := fun hfew => ?_ }
  have hnumbers : (network.deal answer dealing).HasNumbers place := by
    intro key connection hconnection hdestination
    obtain ⟨pool, hfound, hserves⟩ := hpool
    have hle := hledger.streamsOpened_le hsteady (hunspent connection.session) hfound
      (hserves.maxStreams ▸ hpositive) hconnection hdestination
    rw [hserves.maxStreams] at hle
    exact Nat.lt_of_le_of_lt hle hfew
  have hearlier : min targets.length streams < 2 ^ 31 := by
    rw [List.length_append] at hfew
    omega
  refine List.forall_mem_append.mpr ⟨fun target hmem => ?_, hexpects hnumbers⟩
  exact (hladen.expects hearlier target hmem).deal hladen.steady.inStep answer dealing hdispatching
    hclock (hkept target hmem) hnumbers

/-- To make an exchange or to let a connection go changes nothing about what is under way. -/
theorem idle (hpositive : 1 ≤ streams) (answer : Answering α) (operation : Operation)
    (hoperation : operation.isInternal = false)
    (hdispatching : (Dealing.outside operation hoperation).isDispatching = true) :
    (network.undergo operation).Laden place targets connections streams delay responder := by
  have hclock : network.clock ≤ (network.undergo operation).clock := by
    cases operation with
    | makeExchange => exact Nat.le_refl _
    | letGoConnection =>
        simp only [undergo, release]
        split <;> exact Nat.le_refl _
    | _ => exact Bool.noConfusion hdispatching
  rw [← List.append_nil targets]
  exact hladen.deal hpositive answer (.outside operation hoperation) [] hdispatching rfl hclock
    (by simp) (by simp) (by simp)

section Sends

variable (hpositive : 1 ≤ streams) (hbound : connections + 1 < Word.bound64)
include hpositive hbound

/-- A pool that took as many as its connections may carry refuses whatever is sent, and nothing
changes. -/
theorem refuses (hfull : targets.length = connections * streams) (target : ExchangeId)
    (hthere : (network.exchange? target).isSome = true) (answer : Answering α) :
    network.sendPooled (answering answer) place target =
      (network, some (.error (.exhausted connections))) := by
  obtain ⟨pool, hpool, hopen, rfl, rfl, hfactory⟩ := hladen.pool
  exact hladen.steady.refuses hpool hopen hfactory hpositive hbound
    ((hladen.load_eq hpool).trans hfull) hthere answer

/-- A pool that took fewer takes an exchange that can be sent. -/
theorem takes (hroom : targets.length < connections * streams)
    (hexchange : network.exchange? target = some exchange) (hheld : network.holds target = true)
    (hsendable : Sendable exchange) (answer : Answering α) :
    ∃ key sent, network.sendPooled (answering answer) place target = (sent, some (.ok key)) ∧
      (sent.letGoConnection key).Laden place (targets ++ [target]) connections streams delay
        responder := by
  have hsound := hladen.steady.sound
  have hstocked := hladen.steady.stocked
  obtain ⟨pool, hpool, hserves⟩ := hladen.pool
  obtain ⟨hopen, rfl, rfl, hfactory⟩ := hserves
  obtain ⟨key, hsent, htaken⟩ := hladen.steady.takes hpool hopen hfactory hpositive hbound
    (by rwa [hladen.load_eq hpool]) hexchange hheld hsendable answer
  have haccepts : network.accepts answer place (.send place target) = true := by
    simp [accepts, hheld, hsent, Except.isOk, Except.toBool]
  have hthere : (network.exchange? target).isSome = true := by rw [hexchange, Option.isSome_some]
  obtain ⟨connection, hconnection, hdestination⟩ := htaken.belongs
  have hnone : (network.deal answer (.send place target)).outcome? target = none := by
    rw [outcome?_deal hsound hstocked answer rfl hthere, outcome?, hexchange, Option.bind_some,
      hsendable.outcome]
  have hsends : (network.deal answer (.send place target)).Laden place (targets ++ [target])
      pool.maxConnections pool.maxStreams delay responder := by
    refine hladen.deal hpositive answer (.send place target) [target] rfl ?_
      (Nat.le_of_eq htaken.clock.symm) ?_ ?_ ?_
    · rw [haccepts]
      rfl
    · intro _ other hdealing
      obtain ⟨-, rfl⟩ := Dealing.send.inj hdealing
      exact List.mem_singleton_self _
    · exact List.forall_mem_singleton.mpr ⟨holds_deal hsound hstocked answer _ rfl hheld, hnone,
        watched_of_accepts hsound hstocked haccepts⟩
    · refine fun hnumbers => List.forall_mem_singleton.mpr ?_
      obtain ⟨channel, stream, ticket, hexpects⟩ := expects_of_accepted hpool hfactory hexchange
        hheld (congrArg Prod.snd hsent) hconnection (hladen.steady.inStep connection.session)
        (hladen.steady.furnished connection.session) (hnumbers hconnection hdestination)
      exact ⟨_, rfl, hexpects, ⟨connection, hconnection, hdestination⟩, Nat.le_refl _⟩
  refine ⟨key, _, hsent, ?_⟩
  obtain ⟨found, hfound, -, -, hlists⟩ := htaken.pool
  rw [← undergo_letGoConnection hconnection hdestination hfound hlists]
  exact hsends.idle hpositive answer (.letGoConnection key) rfl rfl

end Sends

/-! ## When the answers come -/

/-- When the answers are due, every exchange gets its own, and every channel is released. -/
theorem advance (hpositive : 1 ≤ streams) (hfew : min targets.length streams < 2 ^ 31)
    (answer : Answering α) :
    (∀ target ∈ targets, ∃ response,
      (network.deal answer (.advance delay)).outcome? target = some (.ok response)) ∧
    (network.deal answer (.advance delay)).releases place = targets.length := by
  have hsound := hladen.steady.sound
  have hstocked := hladen.steady.stocked
  have hsteady := hladen.steady.deal answer (.advance delay) rfl
  obtain ⟨hcarries, hopened⟩ :=
    carriesOnly_advance hladen.carriesOnly hsound hstocked answer delay
  have hheld : ∀ target ∈ targets,
      (network.deal answer (.advance delay)).holds target = true := fun target hmem =>
    holds_deal hsound hstocked answer _ rfl (hladen.waits target hmem).held
  have hanswered : ∀ target ∈ targets, ∃ response,
      (network.deal answer (.advance delay)).outcome? target = some (.ok response) := by
    intro target hmem
    obtain ⟨errand, rfl, hexpects, hbelongs, hdue⟩ := hladen.expects hfew target hmem
    obtain ⟨connection, hconnection, hover, hdestination⟩ := hexpects.home hbelongs
    obtain ⟨pool, hpool, hserves⟩ := hladen.pool
    have hle := hladen.ledger.streamsOpened_le hladen.steady (hladen.unspent connection.session)
      hpool (hserves.maxStreams ▸ hpositive) hconnection hdestination
    rw [hserves.maxStreams, hover, ← hopened] at hle
    have hmet : (network.deal answer (.advance delay)).Met errand :=
      hexpects.met (hladen.steady.inStep errand.session) hdue (Nat.lt_of_le_of_lt hle hfew)
    cases hmet with
    | answered houtcome => exact ⟨_, houtcome⟩
    | dropped _ hleft => simp [hheld errand.target hmem] at hleft
  refine ⟨hanswered, ?_⟩
  have hdispatch : (Dealing.advance delay).isDispatch = false := rfl
  obtain ⟨ended, hledger⟩ := hladen.ledger.deal hsound hstocked answer hdispatch
  -- A channel that were still under way would carry an exchange that has its outcome.
  have hover : (network.deal answer (.advance delay)).underWay place = [] := by
    refine List.eq_nil_iff_forall_not_mem.mpr fun id hmem => ?_
    obtain ⟨key, hregistered, -⟩ := hsteady.stocked.registered hmem
    obtain ⟨channel, target, hchannel, hslot, -, hwaits⟩ := hsteady.sound.of_registered hregistered
    have htarget := hcarries id channel target hchannel hslot
    obtain ⟨response, houtcome⟩ := hanswered target htarget
    simp [isResolved_of_outcome houtcome, hheld target htarget] at hwaits
  have hcount := hledger.count
  rw [hledger.releases]
  simpa [hover, closings, cutOffs, accepts] using hcount

end Laden

/-! ## Pools that were closed in between -/

/-- A pool that had taken some exchanges was closed, and nothing else was done since but to send
more and to wait. -/
structure Shut (network : Network α) (place : PoolKey) (targets : List ExchangeId)
    (connections : Nat) : Prop where
  steady : Steady network
  emptied : network.Emptied place
  limit : ∃ pool, network.pool? place = some pool ∧ pool.maxConnections = connections
  releases : network.releases place = 0
  aborted : ∀ target ∈ targets, network.outcome? target = some (.error (.aborted .requested))

theorem pool_ages_deal (hsound : Sound network) (hstocked : Stocked network)
    (answer : Answering α) (dealing : Dealing) (hpool : network.pool? place = some pool) :
    ∃ after, (network.deal answer dealing).pool? place = some after ∧ pool.Ages after := by
  obtain ⟨acts, hcourse, -⟩ := course_deal hsound answer dealing
  exact hcourse.pool_ages hsound hstocked hpool

/-- When a laden pool is closed, all that it took is aborted, and no release is counted. -/
theorem Laden.close (hladen : network.Laden place targets connections streams delay responder)
    (answer : Answering α) :
    (network.deal answer (.close place)).Shut place targets connections := by
  have hsound := hladen.steady.sound
  have hstocked := hladen.steady.stocked
  obtain ⟨pool, hpool, hserves⟩ := hladen.pool
  obtain ⟨after, hafter, hages⟩ := pool_ages_deal hsound hstocked answer (.close place) hpool
  refine
    { steady := hladen.steady.deal answer (.close place) rfl
      emptied := emptied_of_close hsound hstocked (hladen.steady.cleared place)
        (by rw [hpool, Option.isSome_some])
      limit := ⟨after, hafter, hages.maxConnections.trans hserves.maxConnections⟩
      releases := by
        rw [releases_of_pooled hsound hstocked answer rfl]
        exact hladen.ledger.releases
      aborted := fun target hmem => ?_ }
  obtain ⟨hheld, hnone, key, id, hwatched, hbelongs⟩ := hladen.waits target hmem
  have hstill := holds_deal hsound hstocked answer (.close place) rfl hheld
  refine (settled_of_closePool hsound hstocked (hladen.steady.cleared place) hwatched hbelongs
    hstill).1 (Bool.eq_false_iff.mpr fun hresolved => ?_)
  obtain ⟨outcome, houtcome⟩ := exists_outcome_of_isResolved hresolved
  simp [hnone] at houtcome

namespace Shut

variable (hshut : network.Shut place targets connections)
include hshut

theorem deal (answer : Answering α) (dealing : Dealing) (hplain : dealing.isPlain = true) :
    (network.deal answer dealing).Shut place targets connections := by
  have hsound := hshut.steady.sound
  have hstocked := hshut.steady.stocked
  obtain ⟨pool, hpool, hlimit⟩ := hshut.limit
  obtain ⟨after, hafter, hages⟩ := pool_ages_deal hsound hstocked answer dealing hpool
  exact
    { steady := hshut.steady.deal answer dealing hplain
      emptied := (hshut.emptied.deals hsound hstocked answer [dealing]).1
      limit := ⟨after, hafter, hages.maxConnections.trans hlimit⟩
      releases :=
        (releases_of_emptied hshut.emptied hsound hstocked answer [dealing]).trans hshut.releases
      aborted := fun target hmem =>
        (later_deals hsound answer [dealing]).outcome_after (hshut.aborted target hmem) }

/-- A pool that was closed refuses whatever is sent, and nothing changes. -/
theorem refuses (hbound : connections + 1 < Word.bound64) (react : Reaction α)
    (target : ExchangeId) :
    network.sendPooled react place target = (network, some (.error .closed)) := by
  obtain ⟨pool, hpool, rfl⟩ := hshut.limit
  exact (over_of_emptied hshut.emptied hpool hbound).send react target

end Shut

end Network

end Multiplex
