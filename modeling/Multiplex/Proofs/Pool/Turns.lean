import Multiplex.Proofs.Pool.Stock

/-!
# What an operation does to pools

An operation opens a connection of a pool, or fails to, or shuts a pool, or closes a
connection, or makes a connection list one channel more or one channel less, or does nothing
that concerns pools.  `Turns` says so, together with what becomes of all connections and
pools, and later files look at nothing else.

The first thing that follows is that the stock of every pool stays in order.
-/

namespace Multiplex

/-- A connection of which nothing changes that concerns its pool. -/
structure Connection.Stays (before after : Connection) : Prop extends before.Rests after where
  destination : ∀ place, after.destination = .pool place ↔ before.destination = .pool place

/-- A connection of which nothing changes by which its pool lists it. -/
structure Connection.Berths (before after : Connection) : Prop where
  id : after.id = before.id
  closed : after.isClosed = before.isClosed
  destination : ∀ place, after.destination = .pool place ↔ before.destination = .pool place

theorem Connection.Stays.berths {before after : Connection} (hstays : before.Stays after) :
    before.Berths after :=
  ⟨hstays.id, hstays.closed, hstays.destination⟩

theorem Connection.Stays.refl (connection : Connection) : connection.Stays connection :=
  ⟨.refl connection, fun _ => Iff.rfl⟩

/-- A pool that has not been used yet. -/
def Pool.IsNew (pool : Pool) : Prop :=
  pool.listed = [] ∧ pool.releases = 0 ∧ pool.opened = 0 ∧ pool.isClosed = false

/-- An act that neither dispatches an exchange nor closes a connection. -/
def Act.Idle {α : Type} (act : Act α) : Prop :=
  (∀ place, act.dispatches place = false) ∧
    ∀ key reason, act.network.happening act.operation ≠ .closed key reason

namespace Network

variable {α : Type} {network first second : Network α} {key : ConnectionKey} {place : PoolKey}
  {id : ChannelId} {target : ExchangeId} {connection : Connection} {pool : Pool}

/-- Nothing changes that concerns pools.  There may be new connections that belong to no pool,
and new pools. -/
structure Rests (first second : Network α) : Prop where
  connection : ∀ key, Evolves Connection.Stays
    (fun after => ∀ place, after.destination ≠ .pool place)
    (first.connection? key) (second.connection? key)
  pool : ∀ place, Evolves Eq Pool.IsNew (first.pool? place) (second.pool? place)

/-- What can come of an operation for the pools. -/
inductive Turns (first : Network α) : Operation → Network α → Prop
  | rests {operation : Operation} {second : Network α} :
      Act.Idle ⟨first, operation⟩ → Rests first second → Turns first operation second
  | shuts {place : PoolKey} : Turns first (.shutPool place)
      (first.modifyPool place fun found => { found with isClosed := true })
  | opens {place : PoolKey} {pool : Pool} {transport : Transport} {second : Network α} :
      first.pool? place = some pool → Opens first second place pool transport →
      Turns first (.openConnection place) second
  | misses {place : PoolKey} {pool : Pool} {second : Network α} :
      first.pool? place = some pool → Misses first second place pool →
      Turns first (.openConnection place) second
  | ends {operation : Operation} {id : ChannelId} {second : Network α} :
      Act.Idle ⟨first, operation⟩ →
      (∀ key, second.connection? key = (first.connection? key).map fun found => found.drop id) →
      (∀ place, second.pool? place = (first.pool? place).map fun pool =>
        pool.tally (first.listedIn place id).toNat) →
      (∀ after, second.channel? id = some after → after.released = true) →
      Turns first operation second
  | closes {operation : Operation} {key : ConnectionKey} {reason : CloseReason}
      {connection : Connection} {second : Network α} :
      (∀ place, Act.dispatches place ⟨first, operation⟩ = false) →
      first.happening operation = .closed key reason →
      first.connection? key = some connection → connection.isClosed = false →
      (∀ other, second.connection? other =
        if other = key then some { connection with isClosed := true, live := [] }
        else first.connection? other) →
      (∀ place, second.pool? place = if connection.destination = .pool place then
          (first.pool? place).map fun pool => pool.unlist connection.id
        else first.pool? place) →
      Turns first operation second
  | dispatches {key : ConnectionKey} {connection : Connection} {target : ExchangeId}
      {second : Network α} :
      first.holds target = true → (first.send quiet key target).2 = .ok () →
      first.connection? key = some connection → connection.isClosed = false →
      (∀ other, second.connection? other =
        if other = key then some (connection.register first.nextChannel)
        else first.connection? other) →
      second.pool? = first.pool? → Turns first (.send key target) second

namespace Rests

theorem of_eq (hconnection : second.connection? = first.connection?)
    (hpool : second.pool? = first.pool?) : Rests first second where
  connection key := .of_eq Connection.Stays.refl (congrFun hconnection key)
  pool place := .of_eq (fun _ => rfl) (congrFun hpool place)

theorem refl (network : Network α) : Rests network network := of_eq rfl rfl

theorem modifyConnection (network : Network α) (key : ConnectionKey)
    {change : Connection → Connection}
    (hchange : ∀ connection : Connection, connection.Stays (change connection)) :
    Rests network (network.modifyConnection key change) where
  connection other := by
    rw [connection?_modifyConnection]
    split
    next => exact .of_map hchange
    next => exact .of_eq Connection.Stays.refl rfl
  pool _ := .of_eq (fun _ => rfl) rfl

theorem attach_frame (network : Network α) (session : SessionKey) (connection : ConnectionKey) :
    (network.attach quiet session connection).connection? = network.connection? ∧
      (network.attach quiet session connection).pool? = network.pool? := by
  unfold attach
  split
  · exact ⟨rfl, rfl⟩
  · split <;> exact ⟨rfl, rfl⟩

theorem connect (network : Network α) (hdestination : ∀ place,
      connection.destination ≠ .pool place) :
    Rests network (network.connect quiet connection).1 where
  connection key := by
    obtain ⟨hconnection, -⟩ := attach_frame (network.addConnection connection).1
      connection.session network.nextConnection
    have hafter : (network.connect quiet connection).1.connection? key =
        (network.addConnection connection).1.connection? key := congrFun hconnection key
    rw [hafter, connection?_addConnection]
    split
    next heq =>
      rw [heq, connection?_nextConnection]
      exact .new hdestination
    next => exact .of_eq Connection.Stays.refl rfl
  pool place := by
    obtain ⟨-, hpool⟩ := attach_frame (network.addConnection connection).1
      connection.session network.nextConnection
    exact .of_eq (fun _ => rfl) (congrFun hpool place)

theorem addPool (network : Network α) (hnew : pool.IsNew) :
    Rests network (network.addPool pool).1 where
  connection _ := .of_eq Connection.Stays.refl rfl
  pool place := by
    rw [pool?_addPool]
    split
    next heq =>
      rw [heq, pool?_addPool_snd]
      exact .new hnew
    next => exact .of_eq (fun _ => rfl) rfl

theorem release (network : Network α) (key : ConnectionKey) :
    Rests network (network.release key) := by
  unfold Network.release
  dsimp only
  split
  · exact refl network
  · exact modifyConnection network key fun _ => ⟨⟨rfl, rfl, rfl, rfl, rfl⟩, fun _ => Iff.rfl⟩

theorem unwatched (network : Network α) (key : ConnectionKey) :
    Rests network (network.modifyConnection key Connection.unwatched) := by
  refine modifyConnection network key fun connection => ⟨⟨rfl, rfl, rfl, rfl, rfl⟩, fun place => ?_⟩
  simp only [Connection.unwatched]
  split
  next hobserved => simp [hobserved]
  next => rfl

end Rests

/-! ## Turns -/

private theorem idle_of_nothing {operation : Operation}
    (hnothing : network.happening operation = .nothing) : Act.Idle ⟨network, operation⟩ := by
  refine ⟨fun place => ?_, fun key reason hclosed => ?_⟩
  · cases operation with
    | send key target =>
        simp only [happening] at hnothing
        split at hnothing
        next => exact Happening.noConfusion hnothing
        next hnot => simp [Act.dispatches, hnot]
    | _ => rfl
  · rw [show network.happening operation = .nothing from hnothing] at hclosed
    exact Happening.noConfusion hclosed

private theorem turns_of_nothing {operation : Operation}
    (hnothing : network.happening operation = .nothing) :
    Turns network operation (network.undergo operation) := by
  have hidle := idle_of_nothing hnothing
  cases hpublic : operation.isPublic with
  | false =>
      have haloof := aloof_of_nothing hnothing hpublic
      exact .rests hidle (.of_eq haloof.connection? haloof.pool?)
  | true =>
      cases operation with
      | shutPool place => exact .shuts
      | openConnection place =>
          simp only [undergo]
          split
          next => exact .rests hidle (.refl network)
          next pool hpool =>
            rcases openConnection_cases hpool with
              ⟨error, final, heq, hmisses⟩ | ⟨transport, final, heq, hopens⟩
            · rw [heq]
              exact .misses hpool hmisses
            · rw [heq]
              exact .opens hpool hopens
      | makeSession name transport => exact .rests hidle (.of_eq rfl rfl)
      | moveSession session transport =>
          obtain ⟨-, hconnection, hpool, -⟩ := network.moveSession_frame session transport
          exact .rests hidle (.of_eq hconnection hpool)
      | makePool name maxConnections maxStreams factory =>
          exact .rests hidle (.addPool network ⟨rfl, rfl, rfl, rfl⟩)
      | makeConnection id observed session limit =>
          refine .rests hidle ?_
          simp only [undergo]
          split
          · exact .connect network (by cases observed <;> simp [Connection.watchedBy])
          · exact .refl network
      | retainConnection key =>
          refine .rests hidle ?_
          simp only [undergo]
          split
          · exact .modifyConnection network key fun _ =>
              ⟨⟨rfl, rfl, rfl, rfl, rfl⟩, fun _ => Iff.rfl⟩
          · exact .refl network
      | letGoConnection key => exact .rests hidle (.release network key)
      | loseDestination key => exact .rests hidle (.unwatched network key)
      | _ => exact Bool.noConfusion hpublic

section Bring

variable (hsound : Sound network) (hstocked : Stocked network)
include hsound hstocked

private theorem turns_event {operation : Operation} {event : StreamEvent}
    (hhappening : network.happening operation = .event id event)
    (hsend : ∀ place, Act.dispatches place ⟨network, operation⟩ = false) :
    Turns network operation (network.channelHears quiet id event) := by
  have hidle : Act.Idle ⟨network, operation⟩ := ⟨hsend, fun key reason hclosed => by
    simp [hhappening] at hclosed⟩
  have hpool := pool?_channelHears hsound hstocked id event
  have hstep := brings_event hsound id event
  generalize network.channelHears quiet id event = second at hstep hpool
  cases hstep with
  | unheard => exact .rests hidle (.refl network)
  | absorbed => exact .rests hidle (.of_eq rfl rfl)
  | @reported _ _ channel outcome _ hchannel hverdict hstops =>
      have hlast : event.isLast = true := by rw [← channel.isSome_verdict?, hverdict]; rfl
      refine .ends hidle hstops.connection? (fun place => ?_) fun after hafter => ?_
      · rw [hpool, hlast, Bool.true_and]
      · rw [hstops.channel?, if_pos rfl, hchannel] at hafter
        rw [← Option.some.inj hafter, Channel.released_retire]

private theorem turns_aborted {operation : Operation} {error : ExchangeError}
    (hheld : network.holds target = true)
    (hhappening : network.happening operation = .aborted target error)
    (hsend : ∀ place, Act.dispatches place ⟨network, operation⟩ = false) :
    Turns network operation (network.abort quiet target error).1 := by
  have hidle : Act.Idle ⟨network, operation⟩ := ⟨hsend, fun key reason hclosed => by
    simp [hhappening] at hclosed⟩
  have hpool := pool?_abort hsound hstocked hheld error
  have hstep := brings_abort hsound hheld error
  generalize (network.abort quiet target error).1 = second at hstep hpool
  cases hstep with
  | decided => exact .rests hidle (.refl network)
  | withdrawn => exact .rests hidle (.of_eq rfl rfl)
  | @cancelled _ _ exchange id _ hexchange _ hunresolved hbinding hstops =>
      refine .ends hidle hstops.connection? (fun place => ?_) fun after hafter => ?_
      · rw [hpool]
        simp [isResolved, hexchange, hunresolved, hbinding]
      · rw [hstops.channel?, if_pos rfl] at hafter
        obtain ⟨before, -, rfl⟩ := Option.map_eq_some_iff.mp hafter
        exact Channel.released_retire _

omit hstocked in
private theorem turns_closed {operation : Operation} {reason : CloseReason}
    (hopen : network.isOpen key = true)
    (hhappening : network.happening operation = .closed key reason)
    (hsend : ∀ place, Act.dispatches place ⟨network, operation⟩ = false) :
    Turns network operation (network.close quiet key reason).1 := by
  obtain ⟨connection, hconnection, hopen⟩ := isOpen_iff.mp hopen
  obtain ⟨second, heq, hcloses⟩ :=
    closes_of_open hsound.coherent hsound.housed hconnection hopen reason
  have hpool := pool?_close hsound hconnection hopen reason
  rw [heq] at hpool ⊢
  exact .closes hsend hhappening hconnection hopen hcloses.connection? hpool

omit hstocked in
private theorem turns_sent (hheld : network.holds target = true) :
    Turns network (.send key target) (network.send quiet key target).1 := by
  have hhappening : network.happening (.send key target) = .sent key target := by
    simp [happening, hheld]
  have hpool := network.pool?_send key target
  have hstep := brings_send hsound hheld key
  generalize hsecond : (network.send quiet key target).1 = second at hstep hpool
  cases hstep with
  | undispatched hfailed hundispatched =>
      obtain ⟨error, hfailed⟩ := hfailed
      refine .rests ⟨fun place => ?_, fun other reason hclosed => ?_⟩
        (.of_eq hundispatched.connection? hpool)
      · simp [Act.dispatches, hfailed, Except.isOk, Except.toBool]
      · simp [hhappening] at hclosed
  | dispatched hok hconnection _ _ hdispatched =>
      exact .dispatches hheld hok hconnection hdispatched.opened hdispatched.connection? hpool

omit hsound hstocked in
private theorem turns_sentOn {channel : Channel} (hchannel : network.channel? id = some channel)
    (hfree : channel.isHeld = true) (hheld : network.holds target = true) :
    Turns network (.sendOnChannel id target) (network.sendOnChannel quiet id target).1 := by
  have hidle : Act.Idle ⟨network, .sendOnChannel id target⟩ := by
    refine ⟨fun place => rfl, fun key reason hclosed => ?_⟩
    simp [happening, hchannel, hfree, hheld] at hclosed
  have hpool := network.pool?_sendOnChannel id target
  have hstep := brings_sendOn hchannel hfree hheld
  generalize (network.sendOnChannel quiet id target).1 = second at hstep hpool
  cases hstep with
  | unsent => exact .rests hidle (.refl network)
  | givenUp _ _ _ _ hhandles => exact .rests hidle (.of_eq hhandles.connection? hpool)
  | sentOn _ _ _ _ _ _ _ hhandles => exact .rests hidle (.of_eq hhandles.connection? hpool)

theorem turns_undergo (operation : Operation) :
    Turns network operation (network.undergo operation) := by
  by_cases hnothing : network.happening operation = .nothing
  · exact turns_of_nothing hnothing
  have hoccurs := occurs_happening hnothing
  rw [undergo_eq_bring hnothing]
  generalize hhappening : network.happening operation = happening at hoccurs ⊢
  cases hoccurs with
  | event id event => exact turns_event hsound hstocked hhappening fun _ => rfl
  | sent key hheld => exact turns_sent hsound hheld
  | sentOn hchannel hfree hheld => exact turns_sentOn hchannel hfree hheld
  | aborted error hheld => exact turns_aborted hsound hstocked hheld hhappening fun _ => rfl
  | closed reason hother hopen =>
      refine turns_closed hsound hopen hhappening fun place => ?_
      unfold Act.dispatches
      split
      next key target hsend => exact absurd hsend (hother key target)
      next => rfl

end Bring

/-! ## The stock stays in order -/

section Stock

/-- Where connections keep what concerns their pool, the stock is the same. -/
theorem stocks_iff (hconnection : ∀ key, Evolves Connection.Berths
      (fun after => ∀ place, after.destination ≠ .pool place)
      (first.connection? key) (second.connection? key)) (place : PoolKey) (number : ConnectionId)
    (key : ConnectionKey) : second.Stocks place number key ↔ first.Stocks place number key := by
  constructor
  · rintro ⟨after, hafter, hid, hdestination, hopen⟩
    cases hbefore : first.connection? key with
    | none => exact absurd hdestination ((hconnection key).fresh_of_none hbefore hafter place)
    | some before =>
        have hkept := (hconnection key).change_of_some hbefore hafter
        exact ⟨before, hbefore, hkept.id ▸ hid, (hkept.destination place).mp hdestination,
          hkept.closed ▸ hopen⟩
  · rintro ⟨before, hbefore, hid, hdestination, hopen⟩
    obtain ⟨after, hafter, hkept⟩ := (hconnection key).exists_after hbefore
    exact ⟨after, hafter, hkept.id.trans hid, (hkept.destination place).mpr hdestination,
      hkept.closed.trans hopen⟩

private theorem stocks_iff_of_map {change : ConnectionKey → Connection → Connection}
    (hconnection : ∀ key, second.connection? key = (first.connection? key).map (change key))
    (hchange : ∀ key (connection : Connection), connection.Berths (change key connection))
    (place : PoolKey) (number : ConnectionId) (key : ConnectionKey) :
    second.Stocks place number key ↔ first.Stocks place number key :=
  stocks_iff (fun key => by rw [hconnection key]; exact .of_map (hchange key)) place number key

variable (hhoused : Housed first) (hstocked : Stocked first)
include hhoused hstocked

/-- Where the stock and the lists stay the same, they agree as they did.  A pool that is new
has no connections. -/
theorem Stocked.of_listed
    (hstocks : ∀ place number key, second.Stocks place number key ↔
      first.Stocks place number key)
    (hpool : ∀ place, Evolves (fun before after : Pool => after.listed = before.listed)
      (fun after => after.listed = []) (first.pool? place) (second.pool? place)) :
    Stocked second where
  listed {place after} hafter number key := by
    rw [hstocks]
    cases hbefore : first.pool? place with
    | none =>
        have hlisted : after.listed = [] := (hpool place).fresh_of_none hbefore hafter
        refine iff_of_false (by simp [hlisted]) ?_
        rintro ⟨connection, hconnection, -, hdestination, -⟩
        obtain ⟨pool, hthere, -⟩ := hhoused.numbered hconnection hdestination
        simp [hbefore] at hthere
    | some before =>
        have hlisted : after.listed = before.listed := (hpool place).change_of_some hbefore hafter
        rw [hlisted, hstocked.listed hbefore]
  once {place after} hafter := by
    cases hbefore : first.pool? place with
    | none =>
        have hlisted : after.listed = [] := (hpool place).fresh_of_none hbefore hafter
        simp [hlisted]
    | some before =>
        have hlisted : after.listed = before.listed := (hpool place).change_of_some hbefore hafter
        rw [hlisted]
        exact hstocked.once hbefore

theorem Stocked.number_ne (hpool : first.pool? place = some pool) {number : ConnectionId}
    (hmem : (number, key) ∈ pool.listed) : number ≠ ⟨pool.opened + 1⟩ := by
  intro heq
  obtain ⟨connection, hconnection, hid, hdestination, -⟩ := (hstocked.listed hpool).mp hmem
  obtain ⟨found, hfound, hle⟩ := hhoused.numbered hconnection hdestination
  obtain rfl := Option.some.inj (hpool.symm.trans hfound)
  rw [hid, heq] at hle
  exact absurd hle (by simp)

/-- A new connection goes to the end of the list. -/
theorem Stocked.listed_list (hpool : first.pool? place = some pool) (key : ConnectionKey) :
    (pool.tried.list ⟨pool.opened + 1⟩ key).listed = pool.listed ++ [(⟨pool.opened + 1⟩, key)] := by
  have hkeep : (pool.listed.filter fun entry => entry.1 != ⟨pool.opened + 1⟩) = pool.listed :=
    List.filter_eq_self.mpr fun entry hmem => by
      have hlisted : (entry.1, entry.2) ∈ pool.listed := hmem
      simpa using hstocked.number_ne hhoused hpool hlisted
  simp only [Pool.list, Pool.tried, hkeep]

theorem Stocked.opens (hpool : first.pool? place = some pool) {transport : Transport}
    (hopens : Opens first second place pool transport) : Stocked second := by
  have hfresh : first.connection? first.nextConnection = none := by simp
  -- The stock of the pool grows by the new connection.
  have hstocks : ∀ other number key, second.Stocks other number key ↔
      first.Stocks other number key ∨
        other = place ∧ number = ⟨pool.opened + 1⟩ ∧ key = first.nextConnection := by
    intro other number key
    unfold Stocks
    rw [hopens.connection? key]
    by_cases hnew : key = first.nextConnection
    · subst hnew
      rw [if_pos rfl]
      constructor
      · rintro ⟨connection, hconnection, hid, hdestination, -⟩
        obtain rfl := Option.some.inj hconnection
        exact .inr ⟨(Destination.pool.inj hdestination).symm, hid.symm, rfl⟩
      · rintro (⟨connection, hconnection, -⟩ | ⟨rfl, rfl, -⟩)
        · simp [hfresh] at hconnection
        · exact ⟨_, rfl, rfl, rfl, rfl⟩
    · simp [hnew]
  have hlist := hstocked.listed_list hhoused hpool first.nextConnection
  refine ⟨fun {other after} hafter number key => ?_, fun {other after} hafter => ?_⟩
  · rw [hopens.pool? other] at hafter
    rw [hstocks]
    by_cases heq : other = place
    · subst heq
      obtain rfl := Option.some.inj ((if_pos rfl).symm.trans hafter)
      rw [hlist, List.mem_append, List.mem_singleton, hstocked.listed hpool, Prod.mk.injEq]
      simp
    · rw [if_neg heq] at hafter
      rw [hstocked.listed hafter]
      simp [heq]
  · rw [hopens.pool? other] at hafter
    by_cases heq : other = place
    · subst heq
      obtain rfl := Option.some.inj ((if_pos rfl).symm.trans hafter)
      rw [hlist, List.map_append, List.map_singleton, List.nodup_append]
      refine ⟨hstocked.once hpool, by simp, fun number hmem other hother => ?_⟩
      obtain ⟨entry, hlisted, rfl⟩ := List.mem_map.mp hmem
      obtain rfl := List.mem_singleton.mp hother
      have hentry : (entry.1, entry.2) ∈ pool.listed := hlisted
      exact hstocked.number_ne hhoused hpool hentry
    · rw [if_neg heq] at hafter
      exact hstocked.once hafter

theorem Stocked.closes (hconnection : first.connection? key = some connection)
    (hafter : ∀ other, second.connection? other =
      if other = key then some { connection with isClosed := true, live := [] }
      else first.connection? other)
    (hpool : ∀ place, second.pool? place = if connection.destination = .pool place then
        (first.pool? place).map fun pool => pool.unlist connection.id
      else first.pool? place) : Stocked second := by
  -- The stock loses the closed connection, whatever pool it belongs to.
  have hstocks : ∀ place number other, second.Stocks place number other ↔
      first.Stocks place number other ∧ other ≠ key := by
    intro place number other
    unfold Stocks
    rw [hafter other]
    by_cases heq : other = key
    · simp [heq]
    · simp [heq]
  refine ⟨fun {place after} hfound number other => ?_, fun {place after} hfound => ?_⟩
  · rw [hstocks]
    rw [hpool place] at hfound
    split at hfound
    next hdestination =>
      obtain ⟨pool, hbefore, rfl⟩ := Option.map_eq_some_iff.mp hfound
      simp only [Pool.unlist, List.mem_filter, hstocked.listed hbefore, bne_iff_ne]
      -- Of the connections of the pool only the closed one has its number.
      refine and_congr_right fun hstock => not_congr ⟨fun hsame => ?_, fun hsame => ?_⟩
      · obtain ⟨found, hother, hid, hgoes, -⟩ := hstock
        exact hhoused.unique hother hconnection hgoes hdestination (hid.trans hsame)
      · obtain ⟨found, hother, hid, -, -⟩ := hstock
        rw [hsame, hconnection] at hother
        rw [← hid, ← Option.some.inj hother]
    next helsewhere =>
      rw [hstocked.listed hfound]
      refine (and_iff_left_of_imp fun hstock hsame => helsewhere ?_).symm
      obtain ⟨found, hother, -, hgoes, -⟩ := hstock
      rw [hsame, hconnection] at hother
      rwa [← Option.some.inj hother] at hgoes
  · rw [hpool place] at hfound
    split at hfound
    next =>
      obtain ⟨pool, hbefore, rfl⟩ := Option.map_eq_some_iff.mp hfound
      exact (hstocked.once hbefore).sublist (List.filter_sublist.map _)
    next => exact hstocked.once hfound

/-- Whatever turn an operation takes, the stock stays in order. -/
theorem Stocked.turns {operation : Operation} (hturns : Turns first operation second) :
    Stocked second := by
  cases hturns with
  | rests _ hrests =>
      refine hstocked.of_listed hhoused (stocks_iff fun key => ?_) fun place => ?_
      · exact (hrests.connection key).imp Connection.Stays.berths fun hnew => hnew
      · exact (hrests.pool place).imp (fun hsame => hsame ▸ rfl) fun hnew => hnew.1
  | @shuts place =>
      refine hstocked.of_listed hhoused (fun _ _ _ => Iff.rfl) fun other => ?_
      rw [pool?_modifyPool]
      split
      · exact .of_map fun _ => rfl
      · exact .of_eq (fun found => Eq.refl found.listed) rfl
  | opens hpool hopens => exact hstocked.opens hhoused hpool hopens
  | @misses place pool _ hpool hmisses =>
      refine hstocked.of_listed hhoused (fun other number key => ?_) fun other => ?_
      · simp only [Stocks, hmisses.connection?]
      · rw [hmisses.pool? other]
        split
        next heq =>
          rw [heq, hpool]
          exact .old rfl
        next => exact .of_eq (fun found => Eq.refl found.listed) rfl
  | ends _ hconnection hpool =>
      refine hstocked.of_listed hhoused
        (stocks_iff_of_map hconnection fun _ _ => ⟨rfl, rfl, fun _ => Iff.rfl⟩) fun place => ?_
      rw [hpool place]
      exact .of_map fun _ => rfl
  | closes _ _ hconnection _ hafter hpool =>
      exact hstocked.closes hhoused hconnection hafter hpool
  | @dispatches key connection _ _ _ _ hconnection _ hafter hpool =>
      refine hstocked.of_listed hhoused (stocks_iff fun other => ?_) fun place => ?_
      · rw [hafter other]
        split
        next heq =>
          rw [heq, hconnection]
          exact .old ⟨rfl, rfl, fun _ => Iff.rfl⟩
        next => exact .of_eq (fun _ => ⟨rfl, rfl, fun _ => Iff.rfl⟩) rfl
      · exact .of_eq (fun found => Eq.refl found.listed) (congrFun hpool place)

end Stock

theorem Stocked.undergo (hstocked : Stocked network) (hsound : Sound network)
    (operation : Operation) : Stocked (network.undergo operation) :=
  hstocked.turns hsound.housed (turns_undergo hsound hstocked operation)

theorem Stocked.rearrange (hstocked : Stocked network) (place : PoolKey)
    (order : List (ConnectionId × ConnectionKey)) : Stocked (network.rearrange place order) := by
  refine ⟨fun {other after} hafter number key => ?_, fun {other after} hafter => ?_⟩
  all_goals
    obtain ⟨listed, hperm, hpool⟩ := network.pool?_rearrange place other order
    rw [hpool] at hafter
    obtain ⟨before, hbefore, rfl⟩ := Option.map_eq_some_iff.mp hafter
  · exact (hperm before).mem_iff.trans (hstocked.listed hbefore)
  · exact ((hperm before).map Prod.fst).nodup_iff.mpr (hstocked.once hbefore)

theorem Course.stocked {acts : List (Act α)} (hcourse : Course first acts second)
    (hsound : Sound first) (hstocked : Stocked first) : Stocked second := by
  induction hcourse with
  | start => exact hstocked
  | act operation hcourse ih => exact ih.undergo (hcourse.sound hsound) operation
  | remember surroundings _ ih => exact ⟨ih.listed, ih.once⟩
  | rearrange place order _ ih => exact ih.rearrange place order

theorem stocked_blank (surroundings : α) : Stocked (blank surroundings) :=
  ⟨fun hpool => by simp at hpool, fun hpool => by simp at hpool⟩

theorem Stocked.deals (hstocked : Stocked network) (hsound : Sound network)
    (answer : Answering α) (dealings : List Dealing) :
    Stocked (network.deals answer dealings) := by
  obtain ⟨acts, hcourse, -⟩ := course_deals hsound answer dealings
  exact hcourse.stocked hsound hstocked

end Network

end Multiplex
