import Multiplex.Proofs.Network.Coherence
import Multiplex.Proofs.Run.Operation

/-!
# What upkeep does

Most operations come to nothing as far as exchanges under way are concerned: something is
made that nothing refers to yet, a handle is taken or dropped, a session changes.  `Calm`
says what such operations have in common.
-/

namespace Multiplex

/-- What may become of something that is looked up: it changes in a certain way, or it is
new. -/
inductive Evolves {β : Type} (change : β → β → Prop) (fresh : β → Prop) :
    Option β → Option β → Prop
  | none : Evolves change fresh none none
  | new {after : β} : fresh after → Evolves change fresh none (some after)
  | old {before after : β} : change before after → Evolves change fresh (some before) (some after)

namespace Evolves

variable {β : Type} {change : β → β → Prop} {fresh : β → Prop}

theorem of_eq (hrefl : ∀ found, change found found) {first second : Option β}
    (hsame : second = first) : Evolves change fresh first second := by
  subst hsame
  cases second with
  | none => exact .none
  | some found => exact .old (hrefl found)

theorem of_map {first : Option β} {after : β → β} (hchange : ∀ found, change found (after found)) :
    Evolves change fresh first (first.map after) := by
  cases first with
  | none => exact .none
  | some found => exact .old (hchange found)

theorem trans {first second third : Option β}
    (hchange : ∀ {before middle after}, change before middle → change middle after →
      change before after)
    (hfresh : ∀ {middle after}, fresh middle → change middle after → fresh after)
    (hleft : Evolves change fresh first second) (hright : Evolves change fresh second third) :
    Evolves change fresh first third := by
  cases hleft with
  | none => exact hright
  | new hnew => cases hright with
    | old hlater => exact .new (hfresh hnew hlater)
  | old hearlier => cases hright with
    | old hlater => exact .old (hchange hearlier hlater)

theorem exists_after {first second : Option β} (hevolves : Evolves change fresh first second)
    {before : β} (hbefore : first = some before) :
    ∃ after, second = some after ∧ change before after := by
  cases hevolves with
  | none => exact absurd hbefore (by simp)
  | new => exact absurd hbefore (by simp)
  | old hchange => exact ⟨_, rfl, Option.some.inj hbefore ▸ hchange⟩

theorem change_of_some {first second : Option β} (hevolves : Evolves change fresh first second)
    {before after : β} (hbefore : first = some before) (hafter : second = some after) :
    change before after := by
  obtain ⟨found, hfound, hchange⟩ := hevolves.exists_after hbefore
  exact Option.some.inj (hfound.symm.trans hafter) ▸ hchange

theorem imp {other : β → β → Prop} {young : β → Prop} {first second : Option β}
    (hevolves : Evolves change fresh first second)
    (hchange : ∀ {before after}, change before after → other before after)
    (hfresh : ∀ {after}, fresh after → young after) : Evolves other young first second := by
  cases hevolves with
  | none => exact .none
  | new hnew => exact .new (hfresh hnew)
  | old hold => exact .old (hchange hold)

theorem fresh_of_none {first second : Option β} (hevolves : Evolves change fresh first second)
    {after : β} (hbefore : first = .none) (hafter : second = some after) : fresh after := by
  cases hevolves with
  | none => exact absurd hafter (by simp)
  | new hnew => exact Option.some.inj hafter ▸ hnew
  | old => exact absurd hbefore (by simp)

end Evolves

/-- An exchange that upkeep may have changed. -/
structure Exchange.Rests (before after : Exchange) : Prop where
  request : after.request = before.request
  held : after.isHeld = true → before.isHeld = true
  outcome : after.outcome = before.outcome
  binding : after.binding = before.binding

/-- A connection that upkeep may have changed. -/
structure Connection.Rests (before after : Connection) : Prop where
  id : after.id = before.id
  session : after.session = before.session
  limit : after.limit = before.limit
  live : after.live = before.live
  closed : after.isClosed = before.isClosed

/-- A session that stays closed. -/
def Session.Stays (before after : Session) : Prop :=
  before.transport.isClosed = true → after.transport.isClosed = true

/-- A notice that has nothing to do with an exchange under way. -/
def Notice.isUpkeep : Notice → Bool
  | .attached _ | .opening _ _ | .heard _ _ => true
  | _ => false

theorem Exchange.Rests.refl (exchange : Exchange) : exchange.Rests exchange := ⟨rfl, id, rfl, rfl⟩

theorem Connection.Rests.refl (connection : Connection) : connection.Rests connection :=
  ⟨rfl, rfl, rfl, rfl, rfl⟩

theorem Session.Stays.refl (session : Session) : session.Stays session := fun hclosed => hclosed

namespace Network

variable {α : Type} {first second third network : Network α}

/-- The second network comes from the first by upkeep. -/
structure Calm (first second : Network α) : Prop where
  exchange : ∀ id, Evolves Exchange.Rests (fun after => after.outcome = none ∧ after.binding = none)
    (first.exchange? id) (second.exchange? id)
  channel : ∀ id, Evolves Eq (fun after => after.exchange = none) (first.channel? id)
    (second.channel? id)
  connection : ∀ key, Evolves Connection.Rests
    (fun after => after.live = [] ∧ after.isClosed = false) (first.connection? key)
    (second.connection? key)
  session : ∀ key, Evolves Session.Stays (fun _ => True) (first.session? key) (second.session? key)
  trace : ∃ notices, second.trace.toList = first.trace.toList ++ notices ∧
    ∀ notice ∈ notices, notice.isUpkeep = true

namespace Calm

/-- Networks in which everything is found alike, apart from sessions. -/
theorem of_eq (hexchange : second.exchange? = first.exchange?)
    (hchannel : second.channel? = first.channel?)
    (hconnection : second.connection? = first.connection?)
    (hsession : ∀ key, Evolves Session.Stays (fun _ => True) (first.session? key)
      (second.session? key))
    (htrace : ∃ notices, second.trace.toList = first.trace.toList ++ notices ∧
      ∀ notice ∈ notices, notice.isUpkeep = true) : Calm first second where
  exchange id := .of_eq Exchange.Rests.refl (congrFun hexchange id)
  channel id := .of_eq (fun _ => rfl) (congrFun hchannel id)
  connection key := .of_eq Connection.Rests.refl (congrFun hconnection key)
  session := hsession
  trace := htrace

theorem sessions_of_eq (hsession : second.session? = first.session?) (key : SessionKey) :
    Evolves Session.Stays (fun _ => True) (first.session? key) (second.session? key) :=
  .of_eq Session.Stays.refl (congrFun hsession key)

theorem trace_of_eq (htrace : second.trace = first.trace) :
    ∃ notices, second.trace.toList = first.trace.toList ++ notices ∧
      ∀ notice ∈ notices, notice.isUpkeep = true :=
  ⟨[], by simp [htrace], by simp⟩

theorem refl (network : Network α) : Calm network network :=
  of_eq rfl rfl rfl (sessions_of_eq rfl) (trace_of_eq rfl)

theorem of_self (hsame : second = network) : Calm network second := by
  rw [hsame]
  exact refl network

theorem trans (hleft : Calm first second) (hright : Calm second third) : Calm first third where
  exchange id := (hleft.exchange id).trans
    (fun hearlier hlater => ⟨hlater.request.trans hearlier.request,
      fun hheld => hearlier.held (hlater.held hheld), hlater.outcome.trans hearlier.outcome,
      hlater.binding.trans hearlier.binding⟩)
    (fun hnew hlater => ⟨hlater.outcome.trans hnew.1, hlater.binding.trans hnew.2⟩)
    (hright.exchange id)
  channel id := (hleft.channel id).trans Eq.trans (fun hnew hlater => hlater ▸ hnew)
    (hright.channel id)
  connection key := (hleft.connection key).trans
    (fun hearlier hlater => ⟨hlater.id.trans hearlier.id, hlater.session.trans hearlier.session,
      hlater.limit.trans hearlier.limit, hlater.live.trans hearlier.live,
      hlater.closed.trans hearlier.closed⟩)
    (fun hnew hlater => ⟨hlater.live.trans hnew.1, hlater.closed.trans hnew.2⟩)
    (hright.connection key)
  session key := (hleft.session key).trans
    (fun hearlier hlater hclosed => hlater (hearlier hclosed)) (fun _ _ => trivial)
    (hright.session key)
  trace := by
    obtain ⟨earlier, hearlier, hidle⟩ := hleft.trace
    obtain ⟨later, hlater, hidle'⟩ := hright.trace
    refine ⟨earlier ++ later, by rw [hlater, hearlier, List.append_assoc], fun notice hmem => ?_⟩
    rcases List.mem_append.mp hmem with hmem | hmem
    · exact hidle notice hmem
    · exact hidle' notice hmem

theorem note (network : Network α) {notice : Notice} (hnotice : notice.isUpkeep = true) :
    Calm network (network.note notice) :=
  of_eq rfl rfl rfl (sessions_of_eq rfl) ⟨[notice], by simp, by simpa using hnotice⟩

/-- A network changed in nothing but its pools. -/
theorem modifyPool (network : Network α) (key : PoolKey) (change : Pool → Pool) :
    Calm network (network.modifyPool key change) :=
  of_eq rfl rfl rfl (sessions_of_eq rfl) (trace_of_eq rfl)

theorem addPool (network : Network α) (pool : Pool) : Calm network (network.addPool pool).1 :=
  of_eq rfl rfl rfl (sessions_of_eq rfl) (trace_of_eq rfl)

theorem addSession (network : Network α) (session : Session) :
    Calm network (network.addSession session).1 := by
  refine of_eq rfl rfl rfl (fun key => ?_) (trace_of_eq rfl)
  rw [session?_addSession]
  split
  next heq =>
    rw [heq, session?_addSession_snd]
    exact .new trivial
  next => exact .of_eq Session.Stays.refl rfl

theorem modifySession (network : Network α) (key : SessionKey) {change : Session → Session}
    (hchange : ∀ session : Session, session.Stays (change session)) :
    Calm network (network.modifySession key change) := by
  refine of_eq rfl rfl rfl (fun other => ?_) (trace_of_eq rfl)
  rw [session?_modifySession]
  split
  next => exact .of_map hchange
  next => exact .of_eq Session.Stays.refl rfl

theorem modifyExchange (network : Network α) (id : ExchangeId) {change : Exchange → Exchange}
    (hchange : ∀ exchange : Exchange, exchange.Rests (change exchange)) :
    Calm network (network.modifyExchange id change) where
  exchange other := by
    rw [exchange?_modifyExchange]
    split
    next => exact .of_map hchange
    next => exact .of_eq Exchange.Rests.refl rfl
  channel _ := .of_eq (fun _ => rfl) rfl
  connection _ := .of_eq Connection.Rests.refl rfl
  session := sessions_of_eq rfl
  trace := trace_of_eq rfl

theorem modifyConnection (network : Network α) (key : ConnectionKey)
    {change : Connection → Connection}
    (hchange : ∀ connection : Connection, connection.Rests (change connection)) :
    Calm network (network.modifyConnection key change) where
  exchange _ := .of_eq Exchange.Rests.refl rfl
  channel _ := .of_eq (fun _ => rfl) rfl
  connection other := by
    rw [connection?_modifyConnection]
    split
    next => exact .of_map hchange
    next => exact .of_eq Connection.Rests.refl rfl
  session := sessions_of_eq rfl
  trace := trace_of_eq rfl

theorem addExchange (network : Network α) (request : Http.Request) :
    Calm network (network.addExchange { request }).1 where
  exchange id := by
    rw [exchange?_addExchange]
    split
    next heq =>
      rw [heq, exchange?_nextExchange]
      exact .new ⟨rfl, rfl⟩
    next => exact .of_eq Exchange.Rests.refl rfl
  channel _ := .of_eq (fun _ => rfl) rfl
  connection _ := .of_eq Connection.Rests.refl rfl
  session := sessions_of_eq rfl
  trace := trace_of_eq rfl

theorem addChannel (network : Network α) {channel : Channel} (hslot : channel.exchange = none) :
    Calm network (network.addChannel channel).1 where
  exchange _ := .of_eq Exchange.Rests.refl rfl
  channel id := by
    rw [channel?_addChannel]
    split
    next heq =>
      rw [heq, channel?_nextChannel]
      exact .new hslot
    next => exact .of_eq (fun _ => rfl) rfl
  connection _ := .of_eq Connection.Rests.refl rfl
  session := sessions_of_eq rfl
  trace := trace_of_eq rfl

theorem addConnection (network : Network α) {connection : Connection}
    (hlive : connection.live = []) (hopen : connection.isClosed = false) :
    Calm network (network.addConnection connection).1 where
  exchange _ := .of_eq Exchange.Rests.refl rfl
  channel _ := .of_eq (fun _ => rfl) rfl
  connection key := by
    rw [connection?_addConnection]
    split
    next heq =>
      rw [heq, connection?_nextConnection]
      exact .new ⟨hlive, hopen⟩
    next => exact .of_eq Connection.Rests.refl rfl
  session := sessions_of_eq rfl
  trace := trace_of_eq rfl

theorem attach (network : Network α) (key : SessionKey) (connection : ConnectionKey) :
    Calm network (network.attach quiet key connection) := by
  unfold Network.attach
  split
  · exact refl network
  · have hattached : Calm network (network.modifySession key fun found =>
        { found with attached := some connection }) :=
      modifySession network key fun _ hclosed => hclosed
    split
    · exact hattached.trans (note _ rfl)
    · exact hattached.trans (note _ rfl)

theorem connect (network : Network α) {connection : Connection}
    (hlive : connection.live = []) (hopen : connection.isClosed = false) :
    Calm network (network.connect quiet connection).1 :=
  (addConnection network hlive hopen).trans (attach _ _ _)

theorem openConnection (network : Network α) (key : PoolKey) (pool : Pool) :
    Calm network (network.openConnection quiet key pool).1 := by
  unfold Network.openConnection
  dsimp only
  split
  · exact (modifyPool network key _).trans (note _ rfl)
  · exact ((((modifyPool network key _).trans (note _ rfl)).trans (addSession _ _)).trans
      (connect _ rfl rfl)).trans (modifyPool _ key _)

theorem claim (network : Network α) (id : ExchangeId) : Calm network (network.claim id).1 := by
  unfold Network.claim
  split
  · exact refl network
  · split
    · exact refl network
    · exact modifyExchange network id fun _ => ⟨rfl, fun hheld => hheld, rfl, rfl⟩

theorem retain (network : Network α) {id : ExchangeId} (hheld : network.holds id = true) :
    Calm network (network.retain id) where
  exchange other := by
    rw [Network.retain, exchange?_modifyExchange]
    split
    next heq =>
      subst heq
      cases hfound : network.exchange? other with
      | none => exact .none
      | some found =>
          have hthen : found.isHeld = true := by simpa [holds, hfound] using hheld
          exact .old ⟨rfl, fun _ => hthen, rfl, rfl⟩
    next => exact .of_eq Exchange.Rests.refl rfl
  channel _ := .of_eq (fun _ => rfl) rfl
  connection _ := .of_eq Connection.Rests.refl rfl
  session := sessions_of_eq rfl
  trace := trace_of_eq rfl

theorem letGo (network : Network α) (id : ExchangeId) : Calm network (network.letGo id) := by
  refine modifyExchange network id fun found => ⟨rfl, fun hheld => ?_, rfl, rfl⟩
  simp only [Exchange.isHeld, bne_iff_ne, ne_eq] at hheld ⊢
  omega

theorem moveSession (network : Network α) (key : SessionKey) (transport : Transport) :
    Calm network (network.moveSession key transport) := by
  unfold Network.moveSession
  split
  · exact refl network
  next session hsession =>
    split
    · exact refl network
    next hallowed =>
      refine of_eq rfl rfl rfl (fun other => ?_) (trace_of_eq rfl)
      rw [session?_setTransport]
      split
      next heq =>
        rw [heq, hsession]
        exact .old fun hclosed => by simpa [hclosed] using hallowed
      next => exact .of_eq Session.Stays.refl rfl

theorem release (network : Network α) (key : ConnectionKey) :
    Calm network (network.release key) := by
  unfold Network.release
  dsimp only
  split
  · exact refl network
  · exact modifyConnection network key fun _ => ⟨rfl, rfl, rfl, rfl, rfl⟩

theorem undergo {operation : Operation} (hnothing : network.happening operation = .nothing) :
    Calm network (network.undergo operation) := by
  cases operation with
  | makeSession name transport => exact addSession network _
  | moveSession session transport => exact moveSession network session transport
  | makePool name maxConnections maxStreams factory => exact addPool network _
  | shutPool pool => exact modifyPool network pool _
  | makeConnection id observed session limit =>
      simp only [Network.undergo]
      split
      · exact connect network rfl rfl
      · exact refl network
  | openConnection pool =>
      simp only [Network.undergo]
      split
      · exact refl network
      · exact openConnection network pool _
  | retainConnection connection =>
      simp only [Network.undergo]
      split
      · exact modifyConnection network connection fun _ => ⟨rfl, rfl, rfl, rfl, rfl⟩
      · exact refl network
  | letGoConnection connection => exact release network connection
  | loseDestination connection =>
      exact modifyConnection network connection fun _ => ⟨rfl, rfl, rfl, rfl, rfl⟩
  | makeExchange request => exact addExchange network request
  | retain exchange =>
      simp only [Network.undergo]
      split
      next hheld => exact retain network hheld
      next => exact refl network
  | letGo exchange => exact letGo network exchange
  | claim exchange =>
      simp only [Network.undergo]
      split
      · exact claim network exchange
      · exact refl network
  | makeChannel connection owner session =>
      simp only [Network.undergo]
      split
      · exact addChannel network rfl
      · exact refl network
  | hears listener event =>
      cases listener with
      | channel channel => exact of_self (undergo_eq_self rfl hnothing)
      | observer name => exact note network rfl
  | send connection exchange => exact of_self (undergo_eq_self rfl hnothing)
  | sendOnChannel channel exchange => exact of_self (undergo_eq_self rfl hnothing)
  | abort exchange error => exact of_self (undergo_eq_self rfl hnothing)
  | close connection reason => exact of_self (undergo_eq_self rfl hnothing)
  | goAway session code reason => exact of_self (undergo_eq_self rfl hnothing)
  | failSession session error => exact of_self (undergo_eq_self rfl hnothing)
  | elapse milliseconds => exact of_eq rfl rfl rfl (sessions_of_eq rfl) (trace_of_eq rfl)

/-! ## Agreement after upkeep -/

theorem later (hcalm : Calm first second) : Later first second where
  exchange hbefore := by
    obtain ⟨after, hafter, hrests⟩ := (hcalm.exchange _).exists_after hbefore
    exact ⟨after, hafter, hrests.held, fun _ => hrests.outcome⟩
  channel hbefore := by
    obtain ⟨after, hafter, rfl⟩ := (hcalm.channel _).exists_after hbefore
    exact ⟨_, hafter, .refl _⟩
  connection hbefore := by
    obtain ⟨after, hafter, hrests⟩ := (hcalm.connection _).exists_after hbefore
    exact ⟨after, hafter, hrests.id, hrests.session, hrests.limit,
      fun hclosed => hrests.closed.trans hclosed⟩
  session hbefore := (hcalm.session _).exists_after hbefore

theorem ends (hcalm : Calm first second) : Ends first second fun _ => False where
  toLater := hcalm.later
  newExchange hbefore hafter := ((hcalm.exchange _).fresh_of_none hbefore hafter).2
  newChannel hbefore hafter := (hcalm.channel _).fresh_of_none hbefore hafter
  newConnection hbefore hafter := ((hcalm.connection _).fresh_of_none hbefore hafter).1
  binding hbefore hafter := .inl ((hcalm.exchange _).change_of_some hbefore hafter).binding
  slot hbefore hafter := by
    obtain rfl := (hcalm.channel _).change_of_some hbefore hafter
    exact .inl rfl
  live hbefore hafter := by
    have hlive := ((hcalm.connection _).change_of_some hbefore hafter).live
    rw [hlive]
    exact ⟨List.Sublist.refl _, fun id hmem => iff_of_true hmem not_false⟩
  kept _ _ hbefore hafter := by
    obtain rfl := (hcalm.channel _).change_of_some hbefore hafter
    exact ⟨rfl, rfl, rfl⟩
  resolved hbefore hafter hunresolved hresolved _ _ _ := by
    have houtcome := ((hcalm.exchange _).change_of_some hbefore hafter).outcome
    rw [Exchange.isResolved, houtcome, ← Exchange.isResolved, hunresolved] at hresolved
    exact Bool.false_ne_true hresolved
  settled _ _ _ _ hover := hover.elim

end Calm

/-! ## Housing during upkeep -/

namespace Housed

variable {key : ConnectionKey}

theorem of_calm (hhoused : Housed first) (hcalm : Calm first second)
    (hconnection : second.connection? = first.connection?) (hpool : second.pool? = first.pool?) :
    Housed second :=
  hhoused.of_surroundings hconnection hcalm.later.session
    (fun {place before} hbefore => ⟨before, by rw [hpool, hbefore], Nat.le_refl _, rfl⟩)
    fun hnone hsome => by simp [hpool, hnone] at hsome

theorem attach (hhoused : Housed network) (session : SessionKey) (connection : ConnectionKey) :
    Housed (network.attach quiet session connection) := by
  refine hhoused.of_calm (Calm.attach network session connection) ?_ ?_
  all_goals
    unfold Network.attach
    split
    · rfl
    · split <;> rfl

theorem addPool (hhoused : Housed network) {pool : Pool} (hlisted : pool.listed = []) :
    Housed (network.addPool pool).1 := by
  refine hhoused.of_surroundings rfl (fun hbefore => ⟨_, hbefore, id⟩)
    (fun {place before} hbefore => ?_) fun {place after} hnone hsome => ?_
  · rw [pool?_addPool, if_neg]
    · exact ⟨before, hbefore, Nat.le_refl _, rfl⟩
    · intro heq
      simp [heq] at hbefore
  · rw [pool?_addPool] at hsome
    split at hsome
    next => rw [← Option.some.inj hsome, hlisted]
    next => simp [hnone] at hsome

theorem modifyPool (hhoused : Housed network) (place : PoolKey) {change : Pool → Pool}
    (hchange : ∀ pool, network.pool? place = some pool →
      pool.opened ≤ (change pool).opened ∧ (change pool).listed = pool.listed) :
    Housed (network.modifyPool place change) := by
  refine hhoused.of_surroundings rfl (fun hbefore => ⟨_, hbefore, id⟩)
    (fun {other before} hbefore => ?_) fun {other after} hnone hsome => ?_
  · rw [pool?_modifyPool, hbefore]
    split
    next heq => exact ⟨change before, rfl, hchange before (heq ▸ hbefore)⟩
    next => exact ⟨before, rfl, Nat.le_refl _, rfl⟩
  · rw [pool?_modifyPool, hnone] at hsome
    split at hsome
    · simp at hsome
    · simp at hsome

theorem release (hhoused : Housed network) (key : ConnectionKey) :
    Housed (network.release key) := by
  unfold Network.release
  dsimp only
  split
  next => exact hhoused
  next hkept =>
    refine hhoused.modifyConnection (fun _ => ⟨rfl, rfl, rfl, rfl, fun _ => Iff.rfl⟩)
      fun connection hconnection hopen => ?_
    have halive : (network.letGoConnection key).isConnectionAlive key = true := by
      simpa [isOpen, hconnection, hopen] using hkept
    exact halive

theorem retainConnection (hhoused : Housed network) (key : ConnectionKey) :
    Housed (network.retainConnection key) := by
  refine hhoused.modifyConnection (fun _ => ⟨rfl, rfl, rfl, rfl, fun _ => Iff.rfl⟩)
    fun connection hconnection _ => isConnectionAlive_iff.mpr ?_
  refine ⟨{ connection with handles := connection.handles + 1 }, ?_, .inl ?_⟩
  · rw [connection?_modifyConnection, if_pos rfl, hconnection, Option.map_some]
  · simp [Connection.isHeld]

theorem loseDestination (hhoused : Housed network) (key : ConnectionKey) :
    Housed (network.modifyConnection key Connection.unwatched) := by
  refine hhoused.modifyConnection (fun connection => ⟨rfl, rfl, rfl, rfl, fun place => ?_⟩)
    fun connection hconnection hopen => ?_
  · simp only [Connection.unwatched]
    split
    next hobserved => simp [hobserved]
    next => rfl
  · obtain ⟨same, hsame, hcases⟩ := isConnectionAlive_iff.mp (hhoused.alive hconnection hopen)
    refine isConnectionAlive_iff.mpr ⟨same.unwatched, ?_, ?_⟩
    · rw [connection?_modifyConnection, if_pos rfl, hsame, Option.map_some]
    · rcases hcases with hheld | ⟨place, pool, hdestination, hpool, hlists⟩
      · exact .inl hheld
      · exact .inr ⟨place, pool, by simp [Connection.unwatched, hdestination], hpool, hlists⟩

theorem connect (hhoused : Housed network) {connection : Connection}
    (hlive : connection.live = []) (hopen : connection.isClosed = false)
    (hheld : connection.isHeld = true)
    (hsession : ∃ session, network.session? connection.session = some session)
    (hnumber : ∀ place, connection.destination = .pool place →
      ∃ pool, network.pool? place = some pool ∧ connection.id.number ≤ pool.opened)
    (hfresh : ∀ place, connection.destination = .pool place → ∀ other found,
      network.connection? other = some found → found.destination = .pool place →
        found.id ≠ connection.id) :
    Housed (network.connect quiet connection).1 :=
  (hhoused.addConnection hlive hopen hheld hsession hnumber hfresh).attach _ _

private theorem connection?_attach (network : Network α) (session : SessionKey)
    (connection : ConnectionKey) :
    (network.attach quiet session connection).connection? = network.connection? := by
  unfold Network.attach
  split
  · rfl
  · split <;> rfl

/-- A pool may list a connection that was made for it just before, if the number is the
last that it gave out. -/
private theorem connect_list (hhoused : Housed network) {connection : Connection} {place : PoolKey}
    (hlive : connection.live = []) (hopen : connection.isClosed = false)
    (hheld : connection.isHeld = true)
    (hsession : ∃ session, network.session? connection.session = some session)
    (hdestination : connection.destination = .pool place)
    (hpool : ∃ pool, network.pool? place = some pool ∧ pool.opened = connection.id.number)
    (hfresh : ∀ other found, network.connection? other = some found →
      found.destination = .pool place → found.id ≠ connection.id) :
    Housed ((network.connect quiet connection).1.modifyPool place fun found =>
      found.list connection.id (network.connect quiet connection).2) := by
  have hconnected : Housed (network.connect quiet connection).1 := by
    refine hhoused.connect hlive hopen hheld hsession (fun other hother => ?_)
      fun other hother => ?_
    · obtain rfl := Destination.pool.inj (hdestination.symm.trans hother)
      obtain ⟨pool, hthere, hnumber⟩ := hpool
      exact ⟨pool, hthere, Nat.le_of_eq hnumber.symm⟩
    · obtain rfl := Destination.pool.inj (hdestination.symm.trans hother)
      exact hfresh
  have hthere : (network.connect quiet connection).1.connection?
      (network.connect quiet connection).2 = some connection := by
    simp only [Network.connect, connection?_attach, connection?_addConnection]
    exact if_pos rfl
  exact hconnected.list hthere hdestination

theorem openConnection (hhoused : Housed network) {place : PoolKey} {pool : Pool}
    (hpool : network.pool? place = some pool) :
    Housed (network.openConnection quiet place pool).1 := by
  unfold Network.openConnection
  dsimp only
  have hmodified : Housed (network.modifyPool place fun found =>
      { found with factory := (pool.factory.openSession ⟨pool.opened + 1⟩).1,
                   opened := pool.opened + 1 }) := by
    refine hhoused.modifyPool place fun found hfound => ⟨?_, rfl⟩
    obtain rfl := Option.some.inj (hpool.symm.trans hfound)
    exact Nat.le_succ _
  have hnumbered := hmodified.of_calm
    (Calm.note _ (rfl : (Notice.opening place (pool.opened + 1)).isUpkeep = true)) rfl rfl
  split
  next => exact hnumbered
  next transport hopened =>
    have hsession := hnumbered.of_calm
      (Calm.addSession _ { name := pool.label (pool.opened + 1), transport }) rfl rfl
    refine hsession.connect_list rfl rfl rfl ⟨_, (session?_addSession ..).trans (if_pos rfl)⟩ rfl
      ?_ fun key found hfound hgoes hid => ?_
    · simp [pool?_modifyPool, hpool]
    · -- The pool has not given out this number before.
      obtain ⟨same, hsame, hle⟩ := hhoused.numbered hfound hgoes
      obtain rfl := Option.some.inj (hpool.symm.trans hsame)
      rw [hid] at hle
      exact Nat.not_succ_le_self _ hle

theorem undergo (hhoused : Housed network) {operation : Operation}
    (hnothing : network.happening operation = .nothing) :
    Housed (network.undergo operation) := by
  have hcalm := Calm.undergo hnothing
  cases hpublic : operation.isPublic with
  | false =>
      have haloof := aloof_of_nothing hnothing hpublic
      exact hhoused.of_calm hcalm haloof.connection? haloof.pool?
  | true =>
      cases operation with
      | makeSession name transport => exact hhoused.of_calm hcalm rfl rfl
      | moveSession session transport =>
          obtain ⟨-, hconnection, hpool, -⟩ := network.moveSession_frame session transport
          exact hhoused.of_calm hcalm hconnection hpool
      | makePool name maxConnections maxStreams factory => exact hhoused.addPool rfl
      | shutPool pool => exact hhoused.modifyPool pool fun found _ => ⟨Nat.le_refl _, rfl⟩
      | makeConnection id observed session limit =>
          simp only [Network.undergo]
          split
          next hsession =>
            have hnopool : ∀ place, Connection.watchedBy observed ≠ .pool place := by
              cases observed <;> simp [Connection.watchedBy]
            exact hhoused.connect rfl rfl rfl (Option.isSome_iff_exists.mp hsession)
              (fun place hplace => absurd hplace (hnopool place))
              fun place hplace => absurd hplace (hnopool place)
          next => exact hhoused
      | openConnection pool =>
          simp only [Network.undergo]
          split
          next => exact hhoused
          next found hfound => exact hhoused.openConnection hfound
      | retainConnection connection =>
          simp only [Network.undergo]
          split
          · exact hhoused.retainConnection connection
          · exact hhoused
      | letGoConnection connection => exact hhoused.release connection
      | loseDestination connection => exact hhoused.loseDestination connection
      | _ => exact Bool.noConfusion hpublic

end Housed

end Network

end Multiplex
