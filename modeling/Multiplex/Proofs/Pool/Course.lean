import Multiplex.Proofs.Pool.Dealing

/-!
# The course of a dealing

`Course` says that one network comes from another by operations, with changes of mind and
rearrangements in between, and it keeps a log of the operations.  `course_deal` gives every
dealing a course, and `Does` lists what can stand in its log, together with what the pool
knows when it does it: a connection is opened while the pool is open and not full, and an
exchange is sent where there is capacity.
-/

namespace Multiplex

/-- An operation, and the network in which it is performed. -/
structure Act (α : Type) where
  network : Network α
  operation : Operation

namespace Network

variable {α : Type} {network first second third : Network α} {answer : Answering α}
  {key : ConnectionKey} {place : PoolKey} {pool : Pool} {target : ExchangeId} {id : ChannelId}
  {channel : Channel} {acts : List (Act α)}

/-! ## Courses -/

/-- The second network comes from the first by the operations in the log. -/
inductive Course : Network α → List (Act α) → Network α → Prop
  | start (network : Network α) : Course network [] network
  | act {first second : Network α} {acts : List (Act α)} (operation : Operation) :
      Course first acts second →
      Course first (acts ++ [⟨second, operation⟩]) (second.undergo operation)
  | remember {first second : Network α} {acts : List (Act α)} (surroundings : α) :
      Course first acts second → Course first acts { second with surroundings }
  | rearrange {first second : Network α} {acts : List (Act α)} (place : PoolKey)
      (order : List (ConnectionId × ConnectionKey)) :
      Course first acts second → Course first acts (second.rearrange place order)

namespace Course

theorem single (network : Network α) (operation : Operation) :
    Course network [⟨network, operation⟩] (network.undergo operation) :=
  .act operation (.start network)

theorem trans {earlier later : List (Act α)} (hleft : Course first earlier second)
    (hright : Course second later third) : Course first (earlier ++ later) third := by
  induction hright with
  | start => rwa [List.append_nil]
  | act operation _ ih =>
      rw [← List.append_assoc]
      exact .act operation ih
  | remember surroundings _ ih => exact .remember surroundings ih
  | rearrange place order _ ih => exact .rearrange place order ih

end Course

/-! ## What dealings keep -/

/-- What a pool looks like after a rearrangement. -/
theorem pool?_rearrange (network : Network α) (place other : PoolKey)
    (order : List (ConnectionId × ConnectionKey)) :
    ∃ listed : Pool → List (ConnectionId × ConnectionKey),
      (∀ pool, (listed pool).Perm pool.listed) ∧
        (network.rearrange place order).pool? other =
          (network.pool? other).map fun pool => { pool with listed := listed pool } := by
  refine ⟨fun pool => if other = place ∧ order.isPerm pool.listed = true then order
    else pool.listed, fun pool => ?_, ?_⟩
  · dsimp only
    split
    next hperm => exact List.isPerm_iff.mp hperm.2
    next => exact List.Perm.refl _
  · unfold rearrange
    rw [pool?_modifyPool]
    by_cases heq : other = place
    · rw [if_pos heq]
      congr 1
      funext pool
      split
      next hperm => simp [heq, hperm]
      next hnot => simp [hnot]
    · simp [heq]

theorem Housed.rearrange (hhoused : Housed network) (place : PoolKey)
    (order : List (ConnectionId × ConnectionKey)) : Housed (network.rearrange place order) where
  toNumbered := by
    refine hhoused.toNumbered.of_after (fun hafter => ⟨_, hafter, rfl, fun _ => Iff.rfl⟩)
      (fun hbefore => ⟨_, hbefore⟩) (fun {other before} hbefore => ?_)
      fun {other after} hafter => ?_
    · obtain ⟨listed, -, hpool⟩ := network.pool?_rearrange place other order
      rw [hpool, hbefore]
      exact ⟨_, rfl, Nat.le_refl _⟩
    · obtain ⟨listed, hperm, hpool⟩ := network.pool?_rearrange place other order
      rw [hpool] at hafter
      obtain ⟨before, hbefore, rfl⟩ := Option.map_eq_some_iff.mp hafter
      exact ⟨before, hbefore, (hperm before).subset⟩
  session := hhoused.session
  closed := hhoused.closed
  alive := by
    intro key connection hconnection hopen
    obtain ⟨same, hsame, hcases⟩ := isConnectionAlive_iff.mp (hhoused.alive hconnection hopen)
    refine isConnectionAlive_iff.mpr ⟨same, hsame, hcases.imp_right ?_⟩
    rintro ⟨other, before, hdestination, hbefore, hlists⟩
    obtain ⟨listed, hperm, hpool⟩ := network.pool?_rearrange place other order
    refine ⟨other, { before with listed := listed before }, hdestination, ?_, ?_⟩
    · rw [hpool, hbefore, Option.map_some]
    · simpa [Pool.lists, (hperm before).mem_iff] using hlists

/-- What a network comes to depends neither on what is remembered nor on the order in which
pools list their connections. -/
theorem Sound.remember (hsound : Sound network) (surroundings : α) :
    Sound { network with surroundings } where
  housed :=
    { listed := hsound.housed.listed
      numbered := hsound.housed.numbered
      unique := hsound.housed.unique
      session := hsound.housed.session
      closed := hsound.housed.closed
      alive := hsound.housed.alive }
  coherent :=
    { nodup := hsound.coherent.nodup
      works := hsound.coherent.works
      named := hsound.coherent.named
      carried := hsound.coherent.carried
      waiting := hsound.coherent.waiting
      bound := hsound.coherent.bound }

theorem Sound.rearrange (hsound : Sound network) (place : PoolKey)
    (order : List (ConnectionId × ConnectionKey)) : Sound (network.rearrange place order) where
  housed := hsound.housed.rearrange place order
  coherent :=
    { nodup := hsound.coherent.nodup
      works := hsound.coherent.works
      named := hsound.coherent.named
      carried := hsound.coherent.carried
      waiting := hsound.coherent.waiting
      bound := hsound.coherent.bound }

namespace Course

theorem sound (hcourse : Course first acts second) (hsound : Sound first) : Sound second := by
  induction hcourse with
  | start => exact hsound
  | act operation _ ih => exact ih.undergo operation
  | remember surroundings _ ih => exact ih.remember surroundings
  | rearrange place order _ ih => exact ih.rearrange place order

theorem later (hcourse : Course first acts second) (hsound : Sound first) :
    Later first second := by
  induction hcourse with
  | start => exact .refl _
  | act operation hcourse ih =>
      exact ih.trans (later_undergo (hcourse.sound hsound) operation)
  | remember surroundings _ ih => exact ⟨ih.exchange, ih.channel, ih.connection, ih.session⟩
  | rearrange place order _ ih => exact ⟨ih.exchange, ih.channel, ih.connection, ih.session⟩

theorem watched (hcourse : Course first acts second) (hsound : Sound first)
    (hwatched : first.Watched key id target) : second.Watched key id target := by
  induction hcourse with
  | start => exact hwatched
  | act operation hcourse ih => exact ih.undergo (hcourse.sound hsound) operation
  | remember surroundings _ ih => exact ih
  | rearrange place order _ ih => exact ih

/-- A log that ends in a certain network comes with one for every operation in it. -/
theorem split (hcourse : Course first acts second) {act : Act α} (hmem : act ∈ acts) :
    ∃ earlier later, acts = earlier ++ act :: later ∧ Course first earlier act.network ∧
      Course (act.network.undergo act.operation) later second := by
  induction hcourse with
  | start => simp at hmem
  | @act middle acts operation hcourse ih =>
      rcases List.mem_append.mp hmem with hearlier | hlast
      · obtain ⟨earlier, later, rfl, hleft, hright⟩ := ih hearlier
        exact ⟨earlier, later ++ [⟨middle, operation⟩], by simp, hleft, .act operation hright⟩
      · obtain rfl := List.mem_singleton.mp hlast
        exact ⟨acts, [], by simp, hcourse, .start _⟩
  | remember surroundings _ ih =>
      obtain ⟨earlier, later, heq, hleft, hright⟩ := ih hmem
      exact ⟨earlier, later, heq, hleft, .remember surroundings hright⟩
  | rearrange place order _ ih =>
      obtain ⟨earlier, later, heq, hleft, hright⟩ := ih hmem
      exact ⟨earlier, later, heq, hleft, .rearrange place order hright⟩

end Course

/-! ## What stands in the log of a dealing -/

end Network

/-- Whether a dealing asks a pool for a connection. -/
def Dealing.asks (place : PoolKey) : Dealing → Bool
  | .send pool _ => pool == place
  | .acquire pool => pool == place
  | _ => false

/-- Whether answers of loopback sessions arrive in a dealing. -/
def Dealing.isDelivery : Dealing → Bool
  | .advance _ | .deliver .. => true
  | _ => false

/-- Whether an act dispatches an exchange on a connection of a pool. -/
def Act.dispatches {α : Type} (place : PoolKey) (act : Act α) : Bool :=
  match act.operation with
  | .send key target =>
    act.network.holds target && (act.network.send quiet key target).2.isOk &&
      (act.network.connection? key).any fun connection =>
        decide (connection.destination = .pool place)
  | _ => false

namespace Network

variable {α : Type} {network first second third : Network α} {answer : Answering α}
  {key : ConnectionKey} {place : PoolKey} {pool : Pool} {target : ExchangeId} {id : ChannelId}
  {channel : Channel} {acts : List (Act α)}

/-- A pool may hand out a connection: it lists it, and the connection is open and has
capacity or is unused. -/
structure Offers (network : Network α) (place : PoolKey) (key : ConnectionKey)
    (connection : Connection) (pool : Pool) : Prop where
  connection? : network.connection? key = some connection
  destination : connection.destination = .pool place
  opened : connection.isClosed = false
  capacity : connection.live.length < connection.limit ∨ connection.live = []
  pool? : network.pool? place = some pool
  lists : pool.lists key = true

/-- What may be done to a network in a dealing. -/
inductive Does (network : Network α) : Dealing → Operation → Prop
  | takes {dealing : Dealing} {place : PoolKey} (key : ConnectionKey) :
      dealing.asks place = true → Does network dealing (.retainConnection key)
  | opens {dealing : Dealing} {place : PoolKey} {pool : Pool} :
      dealing.asks place = true → network.pool? place = some pool → pool.isClosed = false →
      pool.size < pool.maxConnections → Does network dealing (.openConnection place)
  | tunes {place : PoolKey} {target : ExchangeId} {key : SessionKey} {name : String}
      {before : RecordingSession Listener} {attached : Option ConnectionKey}
      (recording : RecordingSession Listener) :
      network.session? key = some ⟨name, .recording before, attached⟩ →
      Does network (.send place target) (.moveSession key (.recording recording))
  | sends {place : PoolKey} {target : ExchangeId} {key : ConnectionKey} {connection : Connection}
      {pool : Pool} :
      network.Offers place key connection pool →
      Does network (.send place target) (.send key target)
  | letsGo (place : PoolKey) (target : ExchangeId) (key : ConnectionKey) :
      Does network (.send place target) (.letGoConnection key)
  | shuts (place : PoolKey) : Does network (.close place) (.shutPool place)
  | closes (place : PoolKey) (key : ConnectionKey) :
      Does network (.close place) (.close key .requested)
  | passes (milliseconds : Nat) : Does network (.advance milliseconds) (.elapse milliseconds)
  | moves {dealing : Dealing} (key : SessionKey) (transport : Transport) :
      dealing.isDelivery = true → Does network dealing (.moveSession key transport)
  | hears {dealing : Dealing} (listener : Listener) (event : StreamEvent) :
      dealing.isDelivery = true → Does network dealing (.hears listener event)
  | acts (operation : Operation) (hoperation : operation.isInternal = false) :
      Does network (.outside operation hoperation) operation

/-- The course of a dealing, or of a part of one: everything in the log may be done in the
dealing, and on each pool so many exchanges are dispatched. -/
structure Logs (first : Network α) (dealing : Dealing) (acts : List (Act α)) (second : Network α)
    (dispatched : PoolKey → Nat) : Prop where
  course : Course first acts second
  fits : ∀ act ∈ acts, act.network.Does dealing act.operation
  dispatches : ∀ place, acts.countP (Act.dispatches place) = dispatched place

namespace Logs

variable {dealing : Dealing} {dispatched : PoolKey → Nat}

theorem start (network : Network α) (dealing : Dealing) :
    Logs network dealing [] network fun _ => 0 :=
  ⟨.start network, by simp, fun _ => rfl⟩

theorem idle (network : Network α) {operation : Operation}
    (hdoes : network.Does dealing operation)
    (hidle : ∀ place, Act.dispatches place ⟨network, operation⟩ = false) :
    Logs network dealing [⟨network, operation⟩] (network.undergo operation) fun _ => 0 where
  course := .single network operation
  fits := by simpa using hdoes
  dispatches place := by simp [hidle place]

theorem remember (hlogs : Logs first dealing acts second dispatched) (surroundings : α) :
    Logs first dealing acts { second with surroundings } dispatched :=
  ⟨.remember surroundings hlogs.course, hlogs.fits, hlogs.dispatches⟩

theorem trans {earlier later : List (Act α)} (hleft : Logs first dealing earlier second fun _ => 0)
    (hright : Logs second dealing later third dispatched) :
    Logs first dealing (earlier ++ later) third dispatched where
  course := hleft.course.trans hright.course
  fits act hmem := by
    rcases List.mem_append.mp hmem with hmem | hmem
    · exact hleft.fits act hmem
    · exact hright.fits act hmem
  dispatches place := by
    rw [List.countP_append, hleft.dispatches, hright.dispatches, Nat.zero_add]

end Logs

/-! ## Providing a connection -/

theorem Opens.offers {transport : Transport} (hopens : Opens first second place pool transport) :
    second.Offers place first.nextConnection (pool.nextConnection place first.nextSession)
      (pool.tried.list ⟨pool.opened + 1⟩ first.nextConnection) where
  connection? := by rw [hopens.connection?, if_pos rfl]
  destination := rfl
  opened := rfl
  capacity := .inr rfl
  pool? := by rw [hopens.pool?, if_pos rfl]
  lists := by simp [Pool.lists, Pool.list]

/-- A listed connection with capacity is offered. -/
theorem offers_of_available (hsound : Sound network) (hpool : network.pool? place = some pool)
    (havailable : network.available? pool = some key) :
    ∃ connection, network.Offers place key connection pool := by
  have hcapacity : (network.connection? key).any Connection.hasCapacity = true :=
    List.find?_some (p := fun key => (network.connection? key).any Connection.hasCapacity)
      havailable
  have hmem : key ∈ pool.listed.map Prod.snd := List.mem_of_find?_eq_some havailable
  obtain ⟨connection, hconnection, hfree⟩ := (Option.any_eq_true ..).mp hcapacity
  obtain ⟨⟨number, same⟩, hlisted, rfl⟩ := List.mem_map.mp hmem
  obtain ⟨found, hfound, -, hdestination⟩ := hsound.housed.listed hpool hlisted
  obtain rfl := Option.some.inj (hconnection.symm.trans hfound)
  simp only [Connection.hasCapacity, Connection.channelCount, Bool.and_eq_true,
    Bool.not_eq_true'] at hfree
  exact ⟨connection, hconnection, hdestination, hfree.1, .inl (of_decide_eq_true hfree.2), hpool,
    List.any_eq_true.mpr ⟨_, hlisted, by simp⟩⟩

/-- A connection that is offered is alive, so a handle of it can be taken. -/
theorem Offers.undergo_retain {connection : Connection}
    (hoffers : network.Offers place key connection pool) (hsound : Sound network) :
    network.undergo (.retainConnection key) = network.retainConnection key := by
  have halive := hsound.housed.alive hoffers.connection? hoffers.opened
  simp only [undergo, halive, if_true]

/-- To be asked for a connection, a pool fails at once, or takes a handle of a connection
that it lists, or opens one. -/
theorem acquire_cases (hsound : Sound network) (place : PoolKey) :
    (∃ error, network.acquire quiet place = (network, .error error)) ∨
      (∃ key connection pool, network.acquire quiet place =
          (network.undergo (.retainConnection key), .ok key) ∧
        network.Offers place key connection pool) ∨
      ∃ pool, network.pool? place = some pool ∧ pool.isClosed = false ∧
        pool.size < pool.maxConnections ∧
        network.acquire quiet place = network.openConnection quiet place pool := by
  unfold acquire
  cases hpool : network.pool? place with
  | none => exact .inl ⟨_, rfl⟩
  | some pool =>
      dsimp only
      cases havailable : network.available? pool with
      | some key =>
          obtain ⟨connection, hoffers⟩ := offers_of_available hsound hpool havailable
          exact .inr (.inl ⟨key, connection, pool, by rw [hoffers.undergo_retain hsound], hoffers⟩)
      | none =>
          dsimp only
          split
          next => exact .inl ⟨_, rfl⟩
          next hopen =>
            split
            next => exact .inl ⟨_, rfl⟩
            next hfull =>
              exact .inr (.inr ⟨pool, rfl, by simpa using hopen, Nat.lt_of_not_le hfull, rfl⟩)

/-- What is offered is still offered after a handle of it was taken. -/
theorem Offers.retain {connection : Connection}
    (hoffers : network.Offers place key connection pool) (hsound : Sound network) :
    (network.undergo (.retainConnection key)).Offers place key
      { connection with handles := connection.handles + 1 } pool := by
  rw [hoffers.undergo_retain hsound]
  refine ⟨?_, hoffers.destination, hoffers.opened, hoffers.capacity, hoffers.pool?, hoffers.lists⟩
  rw [retainConnection, connection?_modifyConnection, if_pos rfl, hoffers.connection?]
  rfl

/-- No session is asked for a stream when a pool provides a connection. -/
theorem acquire_answering (network : Network α) (answer : Answering α) (place : PoolKey) :
    network.acquire (answering answer) place = network.acquire quiet place :=
  rfl

/-- Providing a connection is one operation, or none. -/
theorem logs_acquire (hsound : Sound network) (dealing : Dealing)
    (hasks : dealing.asks place = true) :
    ∃ acts, Logs network dealing acts (network.acquire quiet place).1 (fun _ => 0) ∧
      (network.acquire quiet place).1.exchange? = network.exchange? ∧
      ∀ key, (network.acquire quiet place).2 = .ok key →
        ∃ connection pool, (network.acquire quiet place).1.Offers place key connection pool := by
  rcases acquire_cases hsound place with
    ⟨error, heq⟩ | ⟨key, connection, pool, heq, hoffers⟩ | ⟨pool, hpool, hopen, hsize, heq⟩
  · rw [heq]
    exact ⟨[], .start network dealing, rfl, fun key hok => by simp at hok⟩
  · rw [heq]
    have hexchange : (network.undergo (.retainConnection key)).exchange? = network.exchange? := by
      simp only [undergo]
      split <;> rfl
    refine ⟨_, .idle _ (.takes key hasks) fun _ => rfl, hexchange, fun same hok => ?_⟩
    obtain rfl := Except.ok.inj hok
    exact ⟨_, pool, hoffers.retain hsound⟩
  · have hundergo : network.undergo (.openConnection place) =
        (network.openConnection quiet place pool).1 := by
      simp only [undergo, hpool]
    have hlogs := Logs.idle network (Does.opens hasks hpool hopen hsize) fun _ => rfl
    rw [heq]
    rw [hundergo] at hlogs
    rcases openConnection_cases hpool with
      ⟨error, final, hopened, hmisses⟩ | ⟨transport, final, hopened, hopens⟩
    · rw [hopened] at hlogs ⊢
      exact ⟨_, hlogs, hmisses.exchange?, fun key hok => by simp at hok⟩
    · rw [hopened] at hlogs ⊢
      refine ⟨_, hlogs, hopens.exchange?, fun key hok => ?_⟩
      obtain rfl := Except.ok.inj hok
      exact ⟨_, _, hopens.offers⟩

/-! ## Sending -/

/-- On an offered connection a send is one operation, once the session has made up its
mind. -/
theorem logs_decide {connection : Connection}
    (hoffers : network.Offers place key connection pool) (answer : Answering α)
    (target : ExchangeId) :
    ∃ tuned acts, Logs network (.send place target) acts tuned (fun _ => 0) ∧
      tuned.exchange? = network.exchange? ∧ tuned.Offers place key connection pool ∧
      network.send (answering answer) key target = tuned.send quiet key target := by
  rcases send_answering network answer key target with hsame | ⟨found, hfound, htuned⟩
  · exact ⟨network, [], .start network _, rfl, hoffers, hsame⟩
  obtain rfl := Option.some.inj (hoffers.connection?.symm.trans hfound)
  rcases decided_cases network answer connection.session with
    hsame | ⟨name, before, attached, recording, surroundings, hsession, hdecided⟩
  · rw [hsame] at htuned
    exact ⟨network, [], .start network _, rfl, hoffers, htuned⟩
  · let tuned := network.undergo (.moveSession connection.session (.recording recording))
    obtain ⟨hexchange, hconnection, hpool, -⟩ :=
      network.moveSession_frame connection.session (.recording recording)
    refine ⟨_, _, (Logs.idle _ (.tunes recording hsession) fun _ => rfl).remember surroundings,
      hexchange, ?_, ?_⟩
    · refine ⟨?_, hoffers.destination, hoffers.opened, hoffers.capacity, ?_, hoffers.lists⟩
      · exact (congrFun hconnection key).trans hoffers.connection?
      · exact (congrFun hpool place).trans hoffers.pool?
    · rw [htuned, hdecided]

theorem course_decided (network : Network α) (answer : Answering α) (session : SessionKey) :
    ∃ acts, Course network acts (network.decided answer session) := by
  rcases decided_cases network answer session with
    hsame | ⟨name, before, attached, recording, surroundings, -, hdecided⟩
  · rw [hsame]
    exact ⟨[], .start network⟩
  · rw [hdecided]
    exact ⟨_, (Course.single network (.moveSession session (.recording recording))).remember
      surroundings⟩

/-- A decision leaves a network as sound as it was. -/
theorem Sound.decided (hsound : Sound network) (answer : Answering α) (session : SessionKey) :
    Sound (network.decided answer session) := by
  obtain ⟨acts, hcourse⟩ := course_decided network answer session
  exact hcourse.sound hsound

/-- A send comes to operations, whatever the session answers. -/
theorem course_send (hheld : network.holds target = true) (answer : Answering α)
    (key : ConnectionKey) :
    ∃ acts, Course network acts (network.send (answering answer) key target).1 := by
  have hplain : ∀ reached : Network α, reached.holds target = true →
      Course reached [⟨reached, .send key target⟩] (reached.send quiet key target).1 := by
    intro reached hthere
    have hcourse := Course.single reached (.send key target)
    rwa [show reached.undergo (.send key target) = _ from if_pos hthere] at hcourse
  rcases send_answering network answer key target with hsame | ⟨connection, -, htuned⟩
  · rw [hsame]
    exact ⟨_, hplain network hheld⟩
  · have hthere : (network.decided answer connection.session).holds target = true := by
      rwa [holds, (decided_frame network answer connection.session).1]
    obtain ⟨acts, hcourse⟩ := course_decided network answer connection.session
    rw [htuned]
    exact ⟨_, hcourse.trans (hplain _ hthere)⟩

/-- A connection that its pool lists may be let go. -/
theorem undergo_letGoConnection {connection : Connection}
    (hconnection : network.connection? key = some connection)
    (hdestination : connection.destination = .pool place)
    (hpool : network.pool? place = some pool) (hlists : pool.lists key = true) :
    network.undergo (.letGoConnection key) = network.letGoConnection key := by
  have halive : (network.letGoConnection key).isConnectionAlive key = true := by
    refine isConnectionAlive_iff.mpr
      ⟨{ connection with handles := connection.handles - 1 }, ?_, .inr ⟨place, pool,
        hdestination, hpool, hlists⟩⟩
    rw [letGoConnection, connection?_modifyConnection, if_pos rfl, hconnection]
    rfl
  simp only [undergo, release, halive, Bool.not_true, Bool.and_false, Bool.false_eq_true, if_false]

/-- A send on an offered connection that fails leaves the connection where it can be let
go, and the exchange where it was held. -/
theorem logs_failed (hsound : Sound network) (hheld : network.holds target = true)
    {connection : Connection} (hoffers : network.Offers place key connection pool)
    {failed : Network α} {error : DispatchError}
    (hfailed : network.send quiet key target = (failed, .error error)) :
    ∃ acts, Logs network (.send place target) acts (failed.letGoConnection key) (fun _ => 0) ∧
      (failed.letGoConnection key).holds target = true := by
  have hundergo : network.undergo (.send key target) = failed := by
    simp only [undergo, hheld, if_true, hfailed]
  have hstep := brings_send hsound hheld key
  rw [hfailed] at hstep
  cases hstep with
  | dispatched hok => simp [hfailed] at hok
  | undispatched _ hundispatched =>
      obtain ⟨exchange, hexchange, hkept⟩ := holds_iff.mp hheld
      obtain ⟨request, binding, hafter, -⟩ := hundispatched.exchange_after hexchange
      have hconnection : failed.connection? key = some connection := by
        rw [hundispatched.connection?, hoffers.connection?]
      obtain ⟨after, hpool, -, hlisted⟩ :=
        (hundispatched.houses hsound.housed).pool_after hoffers.pool?
      have hlists : after.lists key = true := by
        rw [Pool.lists, hlisted]
        exact hoffers.lists
      have hdoes : network.Does (.send place target) (.send key target) := .sends hoffers
      have hsend := Logs.idle network hdoes fun other => by
        simp [Act.dispatches, hfailed, Except.isOk, Except.toBool]
      have hletGo := Logs.idle failed (Does.letsGo place target key) fun _ => rfl
      rw [hundergo] at hsend
      rw [undergo_letGoConnection hconnection hoffers.destination hpool hlists] at hletGo
      refine ⟨_, hsend.trans hletGo, holds_iff.mpr ⟨_, hafter, hkept⟩⟩

/-- So many exchanges each pool dispatches in a send to one of them. -/
def dispatchedIf (place : PoolKey) (accepted : Bool) (other : PoolKey) : Nat :=
  (accepted && place == other).toNat

private theorem logs_accepted (hheld : network.holds target = true) {connection : Connection}
    (hoffers : network.Offers place key connection pool) {sent : Network α}
    (hsent : network.send quiet key target = (sent, .ok ())) :
    Logs network (.send place target) [⟨network, .send key target⟩] sent
      (dispatchedIf place true) where
  course := by
    have hundergo : network.undergo (.send key target) = sent := by
      simp only [undergo, hheld, if_true, hsent]
    have hcourse := Course.single network (.send key target)
    rwa [hundergo] at hcourse
  fits := by simpa using Does.sends hoffers
  dispatches other := by
    by_cases heq : other = place
    · simp [Act.dispatches, dispatchedIf, hheld, hsent, Except.isOk, Except.toBool,
        hoffers.connection?, hoffers.destination, heq]
    · have hne : place ≠ other := fun hsame => heq hsame.symm
      simp [Act.dispatches, dispatchedIf, hoffers.connection?, hoffers.destination, hne,
        beq_eq_false_iff_ne.mpr hne]

/-- To try an exchange on connections of a pool is to provide connections and to send on
them, and the exchange is dispatched once if the pool accepts it. -/
private theorem logs_attempt (hsound : Sound network) (hheld : network.holds target = true)
    (answer : Answering α) (place : PoolKey) (attempts : Nat) (last : Option DispatchError) :
    ∃ acts, Logs network (.send place target) acts
      (network.attempt (answering answer) place target attempts last).1
      (dispatchedIf place
        (network.attempt (answering answer) place target attempts last).2.isOk) := by
  induction attempts generalizing network last with
  | zero =>
      unfold attempt
      split
      · exact ⟨[], .start network _⟩
      · exact ⟨[], .start network _⟩
      · exact ⟨[], .start network _⟩
  | succ attempts ih =>
      unfold attempt
      split
      next => exact ⟨[], .start network _⟩
      next hopen =>
        obtain ⟨provided, hacquire, hexchange, hoffered⟩ :=
          logs_acquire hsound (.send place target) (beq_self_eq_true place)
        rw [acquire_answering]
        cases hresult : network.acquire quiet place with
        | mk second result =>
        rw [hresult] at hacquire hexchange hoffered
        cases result with
        | error error => exact ⟨provided, hacquire⟩
        | ok key =>
            obtain ⟨connection, pool, hoffers⟩ := hoffered key rfl
            obtain ⟨tuned, decisions, hdecide, htuned, hkept, hsend⟩ :=
              logs_decide hoffers answer target
            have hthere : tuned.holds target = true := by
              rwa [holds, htuned, hexchange]
            have hready : Sound tuned := (hacquire.trans hdecide).course.sound hsound
            dsimp only
            -- The session has made up its mind, so what follows is a plain send.
            rw [hsend]
            cases hsent : tuned.send quiet key target with
            | mk sent verdict =>
            cases verdict with
            | ok accepted =>
                exact ⟨_, (hacquire.trans hdecide).trans (logs_accepted hthere hkept hsent)⟩
            | error error =>
                -- The connection is let go, and the exchange may be tried on another one.
                obtain ⟨failed, hfailed, hstill⟩ := logs_failed hready hthere hkept hsent
                have hbefore := (hacquire.trans hdecide).trans hfailed
                dsimp only
                split
                next =>
                  obtain ⟨rest, hrest⟩ := ih (hbefore.course.sound hsound) hstill (some error)
                  exact ⟨_, hbefore.trans hrest⟩
                next => exact ⟨_, hbefore⟩

theorem logs_send (hsound : Sound network) (answer : Answering α) (place : PoolKey)
    (target : ExchangeId) :
    ∃ acts, Logs network (.send place target) acts (network.deal answer (.send place target))
      fun other => (network.accepts answer other (.send place target)).toNat := by
  cases hheld : network.holds target with
  | false =>
      have hidle : network.deal answer (.send place target) = network := by simp [deal, hheld]
      have hrefused : ∀ other, network.accepts answer other (.send place target) = false :=
        fun other => by simp [accepts, hheld]
      simp only [hidle, hrefused]
      exact ⟨[], .start network _⟩
  | true =>
      have hdeal : network.deal answer (.send place target) =
          (network.sendPooled (answering answer) place target).1 := by simp [deal, hheld]
      simp only [hdeal, accepts, hheld, Bool.true_and]
      rcases sendPooled_cases (answering answer) network place target with
        ⟨hsame, hrefused⟩ | ⟨attempts, hsent⟩
      · simp only [hsame, hrefused, Bool.false_and]
        exact ⟨[], .start network _⟩
      · simp only [hsent, Option.any_some]
        exact logs_attempt hsound hheld answer place attempts none

/-! ## Closing -/

/-- The closes of several connections in the given order. -/
def closeActs (network : Network α) : List ConnectionKey → List (Act α)
  | [] => []
  | key :: rest =>
    ⟨network, .close key .requested⟩ ::
      (network.undergo (.close key .requested)).closeActs rest

theorem logs_closeInOrder (network : Network α) (place : PoolKey) (order : List ConnectionKey) :
    Logs network (.close place) (network.closeActs order) (network.closeInOrder quiet order)
      fun _ => 0 := by
  induction order generalizing network with
  | nil => exact .start network _
  | cons key rest ih =>
      have hfirst := Logs.idle network (Does.closes place key) fun _ => rfl
      exact hfirst.trans (ih (network.undergo (.close key .requested)))

/-- Closing a pool that is open shuts it and closes the connections that it lists. -/
theorem closePool_of_open (hpool : network.pool? place = some pool)
    (hopen : pool.isClosed = false) :
    network.closePool quiet place =
      (network.undergo (.shutPool place)).closeInOrder quiet (pool.listed.map Prod.snd) := by
  simp only [closePool, hpool, hopen]
  rfl

theorem logs_close (network : Network α) (place : PoolKey) :
    ∃ acts, Logs network (.close place) acts (network.closePool quiet place) fun _ => 0 := by
  cases hpool : network.pool? place with
  | none =>
      have hidle : network.closePool quiet place = network := by simp [closePool, hpool]
      rw [hidle]
      exact ⟨[], .start network _⟩
  | some pool =>
      cases hopen : pool.isClosed with
      | true =>
          have hidle : network.closePool quiet place = network := by
            simp [closePool, hpool, hopen]
          rw [hidle]
          exact ⟨[], .start network _⟩
      | false =>
          have hshut := Logs.idle network (Does.shuts place) fun _ => rfl
          rw [closePool_of_open hpool hopen]
          exact ⟨_, hshut.trans (logs_closeInOrder _ place _)⟩

/-! ## Answers that arrive -/

/-- A loopback session that stays as closed as it was may change between operations. -/
theorem undergo_moveSession {session : SessionKey} {name : String}
    {before after : LoopbackSession Listener} {attached : Option ConnectionKey}
    (hsession : network.session? session = some ⟨name, .loopback before, attached⟩)
    (hclosed : after.isClosed = before.isClosed) :
    network.undergo (.moveSession session (.loopback after)) =
      network.setTransport session (.loopback after) := by
  have hstays : (before.isClosed && !after.isClosed) = false := by
    rw [hclosed]
    cases before.isClosed <;> rfl
  simp [undergo, moveSession, hsession, Transport.isClosed, hstays]

/-- An answer whose stream is open takes the stream, and its listener hears head and body. -/
theorem deliver_cases (network : Network α) (session : SessionKey) (reply : Reply) :
    network.deliver quiet session reply = network ∨
      ∃ name loopback attached listener,
        network.session? session = some ⟨name, .loopback loopback, attached⟩ ∧
        loopback.listener? reply.stream = some listener ∧
        network.deliver quiet session reply =
          ((network.undergo
            (.moveSession session (.loopback (loopback.drop reply.stream)))).undergo
            (.hears listener (.response reply.response.head))).undergo
            (.hears listener (.data reply.response.body true)) := by
  cases hsession : network.session? session with
  | none => exact .inl (by simp [deliver, hsession])
  | some found =>
      obtain ⟨name, transport, attached⟩ := found
      cases transport with
      | recording recording => exact .inl (by simp [deliver, hsession])
      | loopback loopback =>
          cases hlistener : loopback.listener? reply.stream with
          | none => exact .inl (by simp [deliver, hsession, LoopbackSession.take, hlistener])
          | some listener =>
              refine .inr ⟨name, loopback, attached, listener, rfl, hlistener, ?_⟩
              have hmoved : network.undergo
                  (.moveSession session (.loopback (loopback.drop reply.stream))) =
                    network.setTransport session (.loopback (loopback.drop reply.stream)) :=
                undergo_moveSession hsession rfl
              rw [hmoved]
              simp [deliver, hsession, LoopbackSession.take, hlistener, undergo]

section Deliveries

variable (dealing : Dealing) (hdelivery : dealing.isDelivery = true)
include hdelivery

theorem logs_deliver (network : Network α) (session : SessionKey) (reply : Reply) :
    ∃ acts, Logs network dealing acts (network.deliver quiet session reply) fun _ => 0 := by
  rcases deliver_cases network session reply with
    hsame | ⟨name, loopback, attached, listener, -, -, hdelivered⟩
  · rw [hsame]
    exact ⟨[], .start network _⟩
  · rw [hdelivered]
    have hmove := Logs.idle network
      (Does.moves session (.loopback (loopback.drop reply.stream)) hdelivery) fun _ => rfl
    have hhears : ∀ (reached : Network α) (event : StreamEvent),
        Logs reached dealing [⟨reached, .hears listener event⟩]
          (reached.undergo (.hears listener event)) fun _ => 0 :=
      fun reached event => .idle _ (.hears listener event hdelivery) fun _ => rfl
    exact ⟨_, (hmove.trans (hhears _ _)).trans (hhears _ _)⟩

theorem logs_deliveries (network : Network α) (replies : List (SessionKey × Reply)) :
    ∃ acts, Logs network dealing acts
      (replies.foldl (fun network (key, reply) => network.deliver quiet key reply) network)
      fun _ => 0 := by
  induction replies generalizing network with
  | nil => exact ⟨[], .start network _⟩
  | cons entry rest ih =>
      obtain ⟨earlier, hearlier⟩ := logs_deliver dealing hdelivery network entry.1 entry.2
      obtain ⟨later, hlater⟩ := ih (network.deliver quiet entry.1 entry.2)
      exact ⟨_, hearlier.trans hlater⟩

end Deliveries

/-! ## The clock -/

theorem loopback?_eq_some {session : SessionKey} {loopback : LoopbackSession Listener} :
    network.loopback? session = some loopback ↔ ∃ name attached,
      network.session? session = some ⟨name, .loopback loopback, attached⟩ := by
  unfold loopback?
  split
  next name found attached hsession => simp [hsession]
  next hnot =>
    refine iff_of_false (by simp) ?_
    rintro ⟨name, attached, hsession⟩
    exact hnot name loopback attached hsession

theorem loopback?_setTransport {session : SessionKey} {before : LoopbackSession Listener}
    (hbefore : network.loopback? session = some before) (after : LoopbackSession Listener)
    (other : SessionKey) :
    (network.setTransport session (.loopback after)).loopback? other =
      if other = session then some after else network.loopback? other := by
  obtain ⟨name, attached, hsession⟩ := loopback?_eq_some.mp hbefore
  unfold loopback?
  rw [session?_setTransport]
  by_cases heq : other = session
  · rw [if_pos heq, if_pos heq, heq, hsession]
    rfl
  · rw [if_neg heq, if_neg heq]

/-- The sessions that answer by themselves are listed once each. -/
theorem mem_loopbacks {session : SessionKey} {loopback : LoopbackSession Listener}
    (hmem : (session, loopback) ∈ network.loopbacks) :
    network.loopback? session = some loopback := by
  obtain ⟨index, -, hfound⟩ := List.mem_filterMap.mp hmem
  dsimp only at hfound
  split at hfound
  next name found attached hsession =>
    obtain ⟨rfl, rfl⟩ := Prod.mk.inj (Option.some.inj hfound)
    exact loopback?_eq_some.mpr ⟨name, attached, hsession⟩
  next => simp at hfound

theorem nodup_loopbacks (network : Network α) : (network.loopbacks.map Prod.fst).Nodup := by
  refine List.pairwise_map.mpr ?_
  refine List.Pairwise.filterMap _ (fun first second hne earlier hearlier later hlater hsame => ?_)
    List.nodup_range
  dsimp only at hearlier hlater
  split at hearlier
  next =>
    split at hlater
    next =>
      obtain rfl := Option.some.inj hearlier
      obtain rfl := Option.some.inj hlater
      exact hne (Nat.succ.inj (congrArg SessionKey.number hsame))
    next => simp at hlater
  next => simp at hearlier

end Network

/-- An act that changes only which answers a loopback session has still to give. -/
def Act.Reschedules {α : Type} (act : Act α) : Prop :=
  ∃ session loopback replies, act.network.loopback? session = some loopback ∧
    act.operation = .moveSession session (.loopback { loopback with replies })

namespace Network

variable {α : Type} {network : Network α} {answer : Answering α}

section Clock

variable (dealing : Dealing) (hdelivery : dealing.isDelivery = true)
include hdelivery

/-- Changing which answers a session has still to give is one operation. -/
theorem logs_reschedule {session : SessionKey} {loopback : LoopbackSession Listener}
    (hloopback : network.loopback? session = some loopback) (replies : List Reply) :
    ∃ acts, Logs network dealing acts
      (network.setTransport session (.loopback { loopback with replies })) (fun _ => 0) ∧
      ∀ act ∈ acts, act.Reschedules := by
  obtain ⟨name, attached, hsession⟩ := loopback?_eq_some.mp hloopback
  have hmoved : network.undergo (.moveSession session (.loopback { loopback with replies })) =
      network.setTransport session (.loopback { loopback with replies }) :=
    undergo_moveSession hsession rfl
  have hlogs := Logs.idle network
    (Does.moves session (.loopback { loopback with replies }) hdelivery) fun _ => rfl
  rw [hmoved] at hlogs
  refine ⟨_, hlogs, fun act hmem => ?_⟩
  obtain rfl := List.mem_singleton.mp hmem
  exact ⟨session, loopback, replies, hloopback, rfl⟩

private theorem logs_settleAll (sessions : List (SessionKey × LoopbackSession Listener))
    (hnodup : (sessions.map Prod.fst).Nodup)
    (hthere : ∀ entry ∈ sessions, network.loopback? entry.1 = some entry.2) :
    ∃ acts, Logs network dealing acts
      (sessions.foldl (fun network (key, loopback) =>
        network.setTransport key (.loopback (loopback.settle network.clock))) network)
      (fun _ => 0) ∧
      ∀ act ∈ acts, act.Reschedules := by
  induction sessions generalizing network with
  | nil => exact ⟨[], .start network _, by simp⟩
  | cons entry rest ih =>
      obtain ⟨session, loopback⟩ := entry
      obtain ⟨hnew, hrest⟩ := List.nodup_cons.mp hnodup
      obtain ⟨hfirst, hothers⟩ := List.forall_mem_cons.mp hthere
      obtain ⟨earlier, hearlier, hmoves⟩ := logs_reschedule dealing hdelivery hfirst
        (loopback.replies.filter fun reply => network.clock < reply.due)
      -- Sessions are listed once each, so the others are as they were.
      obtain ⟨later, hlater, hmoves'⟩ := ih hrest fun other hmem => by
        have hne : other.1 ≠ session := fun heq => hnew (heq ▸ List.mem_map.mpr ⟨other, hmem, rfl⟩)
        rw [loopback?_setTransport hfirst, if_neg hne]
        exact hothers other hmem
      refine ⟨_, hearlier.trans hlater, fun act hmem => ?_⟩
      rcases List.mem_append.mp hmem with hmem | hmem
      · exact hmoves act hmem
      · exact hmoves' act hmem

/-- To forget the answers that are due is one operation for each loopback session. -/
theorem logs_settle (network : Network α) :
    ∃ acts, Logs network dealing acts network.settle (fun _ => 0) ∧
      ∀ act ∈ acts, act.Reschedules := by
  have hthere : ∀ entry ∈ network.loopbacks, network.loopback? entry.1 = some entry.2 :=
    fun entry hmem => mem_loopbacks hmem
  exact logs_settleAll dealing hdelivery network.loopbacks network.nodup_loopbacks hthere

end Clock

private theorem logs_advance (network : Network α) (milliseconds : Nat) :
    ∃ acts, Logs network (.advance milliseconds) acts
      ((network.elapse milliseconds).deliverDue quiet) fun _ => 0 := by
  have helapse := Logs.idle network (Does.passes milliseconds) fun _ => rfl
  obtain ⟨settling, hsettle, -⟩ :=
    logs_settle (.advance milliseconds) rfl (network.elapse milliseconds)
  obtain ⟨deliveries, hdeliver⟩ := logs_deliveries (.advance milliseconds) rfl
    (network.elapse milliseconds).settle (network.elapse milliseconds).dueReplies
  exact ⟨_, (helapse.trans hsettle).trans hdeliver⟩

private theorem logs_deliverOne (network : Network α) (session : SessionKey) (reply : Reply) :
    ∃ acts, Logs network (.deliver session reply) acts (network.deliverOne quiet session reply)
      fun _ => 0 := by
  unfold deliverOne
  split
  next => exact ⟨[], .start network _⟩
  next loopback hloopback =>
    split
    next =>
      obtain ⟨erasing, herase, -⟩ := logs_reschedule (.deliver session reply) rfl
        hloopback (loopback.replies.erase reply)
      obtain ⟨delivery, hdeliver⟩ := logs_deliver (.deliver session reply) rfl
        (network.setTransport session (.loopback
          { loopback with replies := loopback.replies.erase reply })) session reply
      exact ⟨_, herase.trans hdeliver⟩
    next => exact ⟨[], .start network _⟩

/-! ## Dealings -/

/-- Every dealing comes to operations.  If no exchange is dispatched past the pools, what a
pool dispatches is what it accepts. -/
theorem logs_deal (hsound : Sound network) (answer : Answering α) {dealing : Dealing}
    (hdealing : dealing.isDispatch = false) :
    ∃ acts, Logs network dealing acts (network.deal answer dealing)
      fun place => (network.accepts answer place dealing).toNat := by
  cases dealing with
  | send place target => exact logs_send hsound answer place target
  | acquire place =>
      obtain ⟨acts, hlogs, -⟩ :=
        logs_acquire hsound (.acquire place) (beq_self_eq_true place)
      exact ⟨acts, hlogs⟩
  | close place => exact logs_close network place
  | rearrange place order =>
      exact ⟨[], ⟨.rearrange place order (.start network), by simp, fun _ => rfl⟩⟩
  | advance milliseconds => exact logs_advance network milliseconds
  | deliver session reply => exact logs_deliverOne network session reply
  | outside operation hoperation =>
      refine ⟨_, .idle _ (.acts operation hoperation) fun place => ?_⟩
      cases operation with
      | send => exact Bool.noConfusion hdealing
      | _ => rfl

theorem course_deal (hsound : Sound network) (answer : Answering α) (dealing : Dealing) :
    ∃ acts, Course network acts (network.deal answer dealing) ∧
      ∀ act ∈ acts, act.network.Does dealing act.operation := by
  cases hdealing : dealing.isDispatch with
  | false =>
      obtain ⟨acts, hlogs⟩ := logs_deal hsound answer hdealing
      exact ⟨acts, hlogs.course, hlogs.fits⟩
  | true =>
      cases dealing with
      | outside operation hoperation =>
          exact ⟨_, .single network operation, by simpa using Does.acts operation hoperation⟩
      | _ => exact Bool.noConfusion hdealing

/-- Several dealings come to operations one after the other. -/
theorem course_deals (hsound : Sound network) (answer : Answering α) (dealings : List Dealing) :
    ∃ acts, Course network acts (network.deals answer dealings) ∧
      ∀ act ∈ acts, ∃ dealing ∈ dealings, act.network.Does dealing act.operation := by
  induction dealings generalizing network with
  | nil => exact ⟨[], .start network, fun act hmem => absurd hmem List.not_mem_nil⟩
  | cons dealing rest ih =>
      obtain ⟨earlier, hfirst, hfits⟩ := course_deal hsound answer dealing
      obtain ⟨later, hrest, hfits'⟩ := ih (hfirst.sound hsound)
      refine ⟨earlier ++ later, hfirst.trans hrest, fun act hmem => ?_⟩
      rcases List.mem_append.mp hmem with hmem | hmem
      · exact ⟨dealing, List.mem_cons_self, hfits act hmem⟩
      · obtain ⟨other, hother, hdoes⟩ := hfits' act hmem
        exact ⟨other, List.mem_cons_of_mem _ hother, hdoes⟩

theorem Sound.deal (hsound : Sound network) (answer : Answering α) (dealing : Dealing) :
    Sound (network.deal answer dealing) := by
  obtain ⟨acts, hcourse, -⟩ := course_deal hsound answer dealing
  exact hcourse.sound hsound

theorem Sound.deals (hsound : Sound network) (answer : Answering α) (dealings : List Dealing) :
    Sound (network.deals answer dealings) := by
  obtain ⟨acts, hcourse, -⟩ := course_deals hsound answer dealings
  exact hcourse.sound hsound

/-- Whatever is dealt with, nothing goes away and outcomes stay. -/
theorem later_deals (hsound : Sound network) (answer : Answering α) (dealings : List Dealing) :
    Later network (network.deals answer dealings) := by
  obtain ⟨acts, hcourse, -⟩ := course_deals hsound answer dealings
  exact hcourse.later hsound

/-- What is watched once is watched in all dealings afterwards. -/
theorem Watched.deals {key : ConnectionKey} {id : ChannelId} {target : ExchangeId}
    (hwatched : network.Watched key id target) (hsound : Sound network) (answer : Answering α)
    (dealings : List Dealing) : (network.deals answer dealings).Watched key id target := by
  obtain ⟨acts, hcourse, -⟩ := course_deals hsound answer dealings
  exact hcourse.watched hsound hwatched

end Network

end Multiplex
