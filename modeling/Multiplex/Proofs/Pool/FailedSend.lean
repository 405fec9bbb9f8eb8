import Multiplex.Proofs.Pool.Tries
import Multiplex.Proofs.Pool.Turns

/-!
# What a failed send through a pool leaves

A send through a pool that fails has provided a connection at most once, and has tried to send
on it at most once more than the pool may have connections.  All of this is undone, but for the
connection: where the pool had to open one, it stays on the list, open and empty.
`LeavesNothing` says so.

## Strategy

Each try is taken back (`TakenBack`), and afterwards the pool prefers the same connection, so
the next try meets what the one before has met.  `InVain` is what holds of any number of tries
from the moment at which the connection was provided; it is kept by one more try.  What comes
before that moment is an opening or nothing.

## Sessions and factories that call back

All this is about sessions that answer when they are asked for a stream, whatever they answer,
and about factories that open a session or fail, in whatever order.  Either may instead call
back into the network before it answers.  A session may report that its connection goes away.
Then the connection is closed in the middle of the send, and what is under way on it is aborted,
which includes the exchange that is being sent.  So the exchange has an outcome although the
send fails.  A factory may close a full connection of its pool and then fail.
-/

namespace Multiplex

/-- Whether a notice tells of the opening of a connection. -/
def Notice.isOpening : Notice → Bool
  | .opening .. | .attached _ => true
  | _ => false

namespace Network

variable {α : Type} {network reached first second third : Network α} {answer : Answering α}
  {key : ConnectionKey} {connection : Connection} {place : PoolKey} {pool : Pool}
  {target : ExchangeId} {exchange : Exchange} {attempts : Nat} {last : Option DispatchError}

/-! ## The number of tries -/

private theorem length_attemptNoting_le (react : Reaction α) (network : Network α) (place : PoolKey)
    (target : ExchangeId) (attempts : Nat) (last : Option DispatchError) :
    (network.attemptNoting react place target attempts last).2.length ≤ attempts := by
  induction attempts generalizing network last with
  | zero => exact Nat.le_refl 0
  | succ attempts ih =>
      unfold attemptNoting
      split
      next => exact Nat.zero_le _
      next =>
        split
        next => exact Nat.zero_le _
        next acquired key hacquire =>
          split
          next => exact Nat.succ_le_succ (Nat.zero_le _)
          next sent error hsent =>
            dsimp only
            split
            next => exact Nat.succ_le_succ (ih _ _)
            next => exact Nat.succ_le_succ (Nat.zero_le _)

/-- Whatever the surroundings do meanwhile, a pool tries once more than it may have connections
at most. -/
private theorem length_tries_le (hpool : network.pool? place = some pool) (react : Reaction α)
    (target : ExchangeId) :
    (network.tries react place target).length ≤ pool.maxConnections + 1 := by
  simp only [tries, sendNoting, hpool]
  split
  next => exact Nat.zero_le _
  next attempts hattempts =>
    obtain rfl := pool.eq_of_attempts? hattempts
    exact length_attemptNoting_le ..

/-! ## Exchanges that come back -/

/-- An exchange is not bound to a channel that is under way. -/
def isLoose (network : Network α) (exchange : Exchange) : Bool :=
  exchange.binding.all fun id => (network.channel? id).all Channel.released

/-- In the second network an exchange of the first was sent, and has come back.  It has the outcome
that it had, and the binding unless that led to a channel that is over.  All other exchanges,
all channels, and the streams of all sessions are as they were; the channels that were added
carry nothing. -/
structure ComesBack (first second : Network α) (target : ExchangeId) : Prop where
  exchange : ∀ {before}, first.exchange? target = some before → ∃ request binding,
    second.exchange? target = some { before with request, binding } ∧
      (binding = before.binding ∨ binding = none ∧ first.isLoose before = true)
  others : ∀ {other}, other ≠ target → second.exchange? other = first.exchange? other
  channel : ∀ {id before}, first.channel? id = some before → second.channel? id = some before
  spent : ∀ {id after}, first.channel? id = none → second.channel? id = some after →
    after.handles = 0 ∧ after.exchange = none ∧ after.stream = none
  streams : ∀ {session before}, first.session? session = some before →
    ∃ after, second.session? session = some after ∧
      after.transport.streams = before.transport.streams

namespace ComesBack

theorem of_frame (hexchange : second.exchange? = first.exchange?)
    (hchannel : second.channel? = first.channel?)
    (hsession : ∀ {session before}, first.session? session = some before →
      second.session? session = some before) : ComesBack first second target where
  exchange hbefore := ⟨_, _, by rw [hexchange, hbefore], .inl rfl⟩
  others _ := by rw [hexchange]
  channel hbefore := by rw [hchannel, hbefore]
  spent hbefore hafter := by simp [hchannel, hbefore] at hafter
  streams hbefore := ⟨_, hsession hbefore, rfl⟩

theorem refl (network : Network α) (target : ExchangeId) : ComesBack network network target :=
  .of_frame rfl rfl fun hbefore => hbefore

/-- What is loose afterwards was loose before, unless the binding has changed. -/
theorem isLoose (hback : ComesBack first second target)
    (hexists : ∀ {id}, exchange.binding = some id → (first.channel? id).isSome = true)
    (hloose : second.isLoose exchange = true) : first.isLoose exchange = true := by
  unfold Network.isLoose at hloose ⊢
  cases hbinding : exchange.binding with
  | none => rfl
  | some id =>
      obtain ⟨channel, hchannel⟩ := Option.isSome_iff_exists.mp (hexists hbinding)
      rwa [hbinding, Option.all_some, hback.channel hchannel, ← hchannel] at hloose

theorem trans (hback : ComesBack first second target) (hagain : ComesBack second third target)
    (hsound : Sound first) : ComesBack first third target where
  exchange := by
    intro before hbefore
    obtain ⟨request, binding, hthen, hbinding⟩ := hback.exchange hbefore
    obtain ⟨request', binding', hafter, hbinding'⟩ := hagain.exchange hthen
    refine ⟨request', binding', hafter, ?_⟩
    rcases hbinding with rfl | ⟨rfl, hloose⟩
    · rcases hbinding' with rfl | ⟨rfl, hloose⟩
      · exact .inl rfl
      · exact .inr ⟨rfl,
          hback.isLoose (fun hbound => hsound.isSome_of_binding hbefore hbound) hloose⟩
    · exact .inr ⟨by rcases hbinding' with rfl | ⟨rfl, -⟩ <;> rfl, hloose⟩
  others hne := (hagain.others hne).trans (hback.others hne)
  channel hbefore := hagain.channel (hback.channel hbefore)
  spent := by
    intro id after hbefore hafter
    cases hthen : second.channel? id with
    | none => exact hagain.spent hthen hafter
    | some found =>
        obtain rfl := Option.some.inj ((hagain.channel hthen).symm.trans hafter)
        exact hback.spent hbefore hthen
  streams hbefore := by
    obtain ⟨found, hthen, hsame⟩ := hback.streams hbefore
    obtain ⟨after, hafter, hsame'⟩ := hagain.streams hthen
    exact ⟨after, hafter, hsame'.trans hsame⟩

end ComesBack

private theorem TakenBack.comesBack (htaken : TakenBack first second target exchange)
    (hsound : Sound first) (hexchange : first.exchange? target = some exchange)
    (hheld : exchange.isHeld = true) (hunresolved : exchange.isResolved = false) :
    ComesBack first second target where
  exchange := by
    intro before hbefore
    obtain rfl := Option.some.inj (hexchange.symm.trans hbefore)
    obtain ⟨binding, hafter, hbinding⟩ := htaken.exchange
    refine ⟨_, binding, hafter, hbinding.imp_right fun ⟨hnone, hfree⟩ => ⟨hnone, ?_⟩⟩
    rw [hsound.isUnderWay_eq hexchange hheld hunresolved] at hfree
    unfold Network.isLoose
    cases hbound : exchange.binding with
    | none => rfl
    | some id =>
        rw [hbound, Option.any_some] at hfree
        cases hchannel : first.channel? id <;> simp_all
  others hne := htaken.others _ hne
  channel := by
    intro id before hbefore
    rw [htaken.channel? id, hbefore]
    rintro rfl
    simp at hbefore
  spent := by
    intro id after hbefore hafter
    by_cases heq : id = first.nextChannel
    · exact htaken.spent after (heq ▸ hafter)
    · simp [htaken.channel? id heq, hbefore] at hafter
  streams := by
    intro session before hbefore
    have hstreams := htaken.streams session
    rw [hbefore, Option.map_some, Option.map_eq_some_iff] at hstreams
    exact hstreams

/-- In the second network a connection of the first has been tried in vain, any number of times. -/
structure InVain (first second : Network α) (target : ExchangeId) : Prop
    extends ComesBack first second target where
  connection? : second.connection? = first.connection?
  pool? : second.pool? = first.pool?
  trace : second.trace = first.trace

theorem InVain.refl (network : Network α) (target : ExchangeId) : InVain network network target :=
  ⟨.refl network target, rfl, rfl, rfl⟩

theorem InVain.trans (hvain : InVain first second target) (hagain : InVain second third target)
    (hsound : Sound first) : InVain first third target where
  toComesBack := hvain.toComesBack.trans hagain.toComesBack hsound
  connection? := hagain.connection?.trans hvain.connection?
  pool? := hagain.pool?.trans hvain.pool?
  trace := hagain.trace.trans hvain.trace

theorem letGo_retainConnection (network : Network α) (key : ConnectionKey) :
    (network.retainConnection key).letGoConnection key = network := by
  have hsame : network.connections.modify key.number (fun found =>
      { found with handles := found.handles + 1 - 1 }) = network.connections :=
    Table.modify_eq_self fun _ _ => rfl
  simp only [letGoConnection, retainConnection, modifyConnection, Table.modify_modify, hsame]

/-! ## One try after the other -/

section Tries

variable (hprovided : Provided network reached place key connection)
  (hexchange : reached.exchange? target = some exchange) (hheld : exchange.isHeld = true)
include hprovided hexchange hheld

private theorem Provided.inVain_of_obstacle (hresolved : exchange.isResolved = false)
    {refusal : DispatchError}
    (hobstacle : reached.obstacle? answer connection exchange = some refusal) :
    Sound ((reached.send (answering answer) key target).1.letGoConnection key) ∧
      ((reached.send (answering answer) key target).1.letGoConnection key).Prefers place key ∧
      InVain (reached.letGoConnection key)
        ((reached.send (answering answer) key target).1.letGoConnection key) target := by
  obtain ⟨-, hundispatched, htaken⟩ := send_of_obstacle hprovided.sound hprovided.connection?
    hexchange hobstacle
  generalize (reached.send (answering answer) key target).1 = failed at hundispatched htaken
  have hprefers : failed.Prefers place key :=
    hprovided.prefers.congr (congrFun htaken.pool? place) fun other => by rw [htaken.connection?]
  have hback : ComesBack reached failed target :=
    htaken.comesBack hprovided.sound hexchange hheld hresolved
  have hconnection : (failed.letGoConnection key).connection? =
      (reached.letGoConnection key).connection? := by
    funext other
    simp only [letGoConnection, connection?_modifyConnection, htaken.connection?]
  exact ⟨hprefers.sound_letGo (hundispatched.sound hprovided.sound),
    hprefers.modifyConnection key fun _ => rfl,
    { hback with connection? := hconnection, pool? := htaken.pool?, trace := htaken.trace }⟩

/-- A try that fails is in vain.  Afterwards the pool prefers the same connection. -/
theorem Provided.inVain {failed : Network α} {error : DispatchError}
    (hfailed : reached.send (answering answer) key target = (failed, .error error)) :
    Sound (failed.letGoConnection key) ∧ (failed.letGoConnection key).Prefers place key ∧
      InVain (reached.letGoConnection key) (failed.letGoConnection key) target := by
  cases hresolved : exchange.isResolved with
  | true =>
      have hsame : reached.send (answering answer) key target =
          (reached, .error .alreadyResolved) := by
        simp [send, hprovided.connection?, hexchange, hresolved]
      obtain ⟨rfl, -⟩ := Prod.mk.inj (hfailed.symm.trans hsame)
      exact ⟨hprovided.prefers.sound_letGo hprovided.sound,
        hprovided.prefers.modifyConnection key fun _ => rfl, .refl _ target⟩
  | false =>
      cases hobstacle : reached.obstacle? answer connection exchange with
      | none =>
          obtain ⟨hsent, -⟩ := send_of_unobstructed hprovided.sound hprovided.connection? hexchange
            hobstacle
          simp [hfailed] at hsent
      | some refusal =>
          have hvain := hprovided.inVain_of_obstacle hexchange hheld hresolved hobstacle
          rwa [hfailed] at hvain

end Tries

/-- All tries on the connection that a pool has provided are in vain if the last one is. -/
theorem inVain_of_provided {network reached : Network α} {connection : Connection}
    {exchange : Exchange}
    (hprovided : Provided network reached place key connection)
    (hexchange : network.exchange? target = some exchange) (hheld : exchange.isHeld = true)
    (answer : Answering α) (attempts : Nat) (last : Option DispatchError) {error : PoolError}
    (hfailed : (network.attempt (answering answer) place target (attempts + 1) last).2 =
      .error error) :
    InVain (reached.letGoConnection key)
      (network.attempt (answering answer) place target (attempts + 1) last).1 target := by
  have hready : reached.exchange? target = some exchange := by rw [hprovided.exchange?, hexchange]
  rw [attempt, if_neg (Bool.eq_false_iff.mp hprovided.accepting), acquire_answering,
    hprovided.acquire] at hfailed ⊢
  cases hsent : reached.send (answering answer) key target with
  | mk failed verdict =>
  cases verdict with
  | ok accepted => simp [hsent] at hfailed
  | error refusal =>
      obtain ⟨hleft, hprefers, hvain⟩ := hprovided.inVain hready hheld hsent
      simp only [hsent] at hfailed ⊢
      split at hfailed
      next hretry =>
        rw [if_pos hretry]
        -- There are tries left, or this was the last.
        cases attempts with
        | zero => exact hvain
        | succ attempts =>
            obtain ⟨again, hagain⟩ := hprefers.provided hleft
            obtain ⟨request, binding, hafter, -⟩ := hvain.exchange hready
            have hrest := inVain_of_provided hagain hafter hheld answer attempts _ hfailed
            rw [letGo_retainConnection] at hrest
            exact hvain.trans hrest (hprovided.prefers.sound_letGo hprovided.sound)
      next hblamed =>
        rw [if_neg hblamed]
        exact hvain

/-! ## Before the first try -/

/-- What becomes of the connections, and of the pool that was asked to send. -/
inductive Restocks (first second : Network α) (place : PoolKey) : Prop
  /-- All is as it was, but that the pool may have asked its factory for a session. -/
  | asBefore : second.connection? = first.connection? →
      (∀ {before}, first.pool? place = some before → ∃ factory opened,
        second.pool? place = some { before with factory, opened }) → Restocks first second place
  /-- The pool lists one connection more, which is open and has no channel. -/
  | oneMore (number : ConnectionId) (connection : Connection) : connection.isClosed = false →
      connection.live = [] →
      (∀ key, second.connection? key =
        if key = first.nextConnection then some connection else first.connection? key) →
      (∀ {before}, first.pool? place = some before → ∃ factory opened,
        second.pool? place = some { before with
          factory, opened, listed := before.listed ++ [(number, first.nextConnection)] }) →
      Restocks first second place

/-- A send through a pool has left nothing behind: the exchange has come back, no channel has been
registered or taken back, the pool has counted nothing and lists what it listed, and perhaps one
connection more that is open and unused.  Nothing was noticed but the opening of that. -/
structure LeavesNothing (first second : Network α) (place : PoolKey) (target : ExchangeId) : Prop
    extends ComesBack first second target where
  restocks : Restocks first second place
  pools : ∀ {other}, other ≠ place → second.pool? other = first.pool? other
  trace : ∃ notices, second.trace.toList = first.trace.toList ++ notices ∧
    ∀ notice ∈ notices, notice.isOpening = true

namespace LeavesNothing

theorem refl (network : Network α) (place : PoolKey) (target : ExchangeId) :
    LeavesNothing network network place target where
  toComesBack := .refl network target
  restocks := .asBefore rfl fun hbefore => ⟨_, _, hbefore⟩
  pools _ := rfl
  trace := ⟨[], by simp, by simp⟩

theorem inVain (hleaves : LeavesNothing first second place target)
    (hvain : InVain second third target) (hsound : Sound first) :
    LeavesNothing first third place target where
  toComesBack := hleaves.toComesBack.trans hvain.toComesBack hsound
  restocks := by
    cases hleaves.restocks with
    | asBefore hconnection hpool =>
        refine .asBefore (hvain.connection?.trans hconnection) ?_
        rwa [hvain.pool?]
    | oneMore number connection hopen hlive hconnection hpool =>
        refine .oneMore number connection hopen hlive ?_ ?_
        · rwa [hvain.connection?]
        · rwa [hvain.pool?]
  pools hne := by rw [hvain.pool?, hleaves.pools hne]
  trace := by
    rw [hvain.trace]
    exact hleaves.trace

end LeavesNothing

theorem Misses.leavesNothing (hmisses : Misses first second place pool)
    (hpool : first.pool? place = some pool) : LeavesNothing first second place target where
  toComesBack := .of_frame hmisses.exchange? hmisses.channel? fun hbefore => by
    rw [hmisses.session?, hbefore]
  restocks := by
    refine .asBefore hmisses.connection? fun hbefore => ?_
    obtain rfl := Option.some.inj (hpool.symm.trans hbefore)
    exact ⟨_, _, (hmisses.pool? place).trans (if_pos rfl)⟩
  pools hne := by rw [hmisses.pool?, if_neg hne]
  trace := ⟨_, hmisses.trace, by simp [Notice.isOpening]⟩

/-- A connection that was opened, and let go by whoever asked for it, is kept by its pool. -/
theorem Opens.leavesNothing {transport : Transport}
    (hopens : Opens first second place pool transport) (hsound : Sound first)
    (hstocked : Stocked first) (hpool : first.pool? place = some pool) :
    LeavesNothing first (second.letGoConnection first.nextConnection) place target where
  toComesBack := .of_frame hopens.exchange? hopens.channel? fun {session before} hbefore => by
    have hne : session ≠ first.nextSession := by
      rintro rfl
      simp at hbefore
    exact (hopens.session? session).trans ((if_neg hne).trans hbefore)
  restocks := by
    refine .oneMore ⟨pool.opened + 1⟩ { pool.nextConnection place first.nextSession with
      handles := 0 } rfl rfl (fun key => ?_) fun hbefore => ?_
    · rw [letGoConnection, connection?_modifyConnection, hopens.connection?]
      split
      · rfl
      · rfl
    · obtain rfl := Option.some.inj (hpool.symm.trans hbefore)
      have hlisted := hstocked.listed_list hsound.housed hpool first.nextConnection
      refine ⟨pool.tried.factory, pool.tried.opened, ?_⟩
      rw [← hlisted]
      exact (hopens.pool? place).trans (if_pos rfl)
  pools {other} hne := (hopens.pool? other).trans (if_neg hne)
  trace := ⟨_, hopens.trace, by simp [Notice.isOpening]⟩

/-! ## A send that fails -/

section Sends

variable (hsound : Sound network) (hstocked : Stocked network)
  (hpool : network.pool? place = some pool)
include hsound hstocked hpool

private theorem leavesNothing_of_acquire {result : Except PoolError ConnectionKey}
    (hacquire : network.acquire quiet place = (reached, result)) (target : ExchangeId) :
    (∀ error, result = .error error → LeavesNothing network reached place target) ∧
      ∀ key, result = .ok key →
        LeavesNothing network (reached.letGoConnection key) place target := by
  rcases acquire_cases hsound place with
    ⟨error, heq⟩ | ⟨key, connection, found, heq, hoffers⟩ | ⟨found, hfound, -, -, heq⟩
  · obtain ⟨rfl, rfl⟩ := Prod.mk.inj (heq.symm.trans hacquire)
    exact ⟨fun _ _ => .refl network place target, fun _ hok => by simp at hok⟩
  · obtain ⟨rfl, rfl⟩ := Prod.mk.inj (heq.symm.trans hacquire)
    refine ⟨fun _ hfailed => by simp at hfailed, fun _ hok => ?_⟩
    obtain rfl := Except.ok.inj hok
    rw [hoffers.undergo_retain hsound, letGo_retainConnection]
    exact .refl network place target
  · obtain rfl := Option.some.inj (hpool.symm.trans hfound)
    rcases openConnection_cases hpool with
      ⟨error, final, hopened, hmisses⟩ | ⟨transport, final, hopened, hopens⟩
    · obtain ⟨rfl, rfl⟩ := Prod.mk.inj (hopened.symm.trans (heq.symm.trans hacquire))
      exact ⟨fun _ _ => hmisses.leavesNothing hpool, fun _ hok => by simp at hok⟩
    · obtain ⟨rfl, rfl⟩ := Prod.mk.inj (hopened.symm.trans (heq.symm.trans hacquire))
      refine ⟨fun _ hfailed => by simp at hfailed, fun _ hok => ?_⟩
      obtain rfl := Except.ok.inj hok
      exact hopens.leavesNothing hsound hstocked hpool

private theorem leavesNothing_of_attempt (hpositive : 1 ≤ pool.maxStreams)
    (hclosed : pool.isClosed = false) (hexchange : network.exchange? target = some exchange)
    (hheld : exchange.isHeld = true) (answer : Answering α) (attempts : Nat) {error : PoolError}
    (hfailed : (network.attempt (answering answer) place target (attempts + 1) none).2 =
      .error error) :
    LeavesNothing network (network.attempt (answering answer) place target (attempts + 1) none).1
      place target := by
  cases hacquire : network.acquire quiet place with
  | mk reached result =>
      have hleaves := leavesNothing_of_acquire hsound hstocked hpool hacquire target
      cases result with
      | error failure =>
          simp only [attempt, hpool, Option.all_some, hclosed, Bool.false_eq_true, if_false,
            acquire_answering, hacquire]
          exact hleaves.1 failure rfl
      | ok key =>
          obtain ⟨connection, hprovided⟩ :=
            provided_of_acquire hsound hpool hclosed hpositive hacquire
          have hvain := inVain_of_provided hprovided hexchange hheld answer attempts none hfailed
          exact (hleaves.2 key rfl).inVain hvain hsound

private theorem leavesNothing_of_error (hpositive : 1 ≤ pool.maxStreams)
    (hheld : network.holds target = true) {error : PoolError}
    (hfailed : (network.sendPooled (answering answer) place target).2 = some (.error error)) :
    LeavesNothing network (network.sendPooled (answering answer) place target).1 place target := by
  obtain ⟨exchange, hexchange, hheld⟩ := holds_iff.mp hheld
  cases hattempts : pool.attempts? with
  | none => simp [sendPooled, hpool, hattempts] at hfailed
  | some attempts =>
      obtain rfl := pool.eq_of_attempts? hattempts
      rw [sendPooled_eq hpool hattempts] at hfailed ⊢
      cases hclosed : pool.isClosed with
      | true =>
          simp only [attempt, hpool, Option.all_some, hclosed, if_true]
          exact .refl network place target
      | false =>
          exact leavesNothing_of_attempt hsound hstocked hpool hpositive hclosed hexchange hheld
            answer pool.maxConnections (Option.some.inj hfailed)

end Sends

/-- In every network that dealings lead to, a send through a pool that fails leaves nothing behind,
whatever the factory provides and whatever the sessions answer, as long as a connection of the
pool has room for a stream.  And whatever the surroundings do meanwhile, the exchange is tried
once more than the pool may have connections at most. -/
theorem failed_send_leaves_nothing (surroundings : α) (answer : Answering α)
    (dealings : List Dealing) (place : PoolKey) (target : ExchangeId) {pool : Pool} :
    let network := (blank surroundings).deals answer dealings
    let sent := network.sendPooled (answering answer) place target
    network.pool? place = some pool → 1 ≤ pool.maxStreams → network.holds target = true →
      (∀ error, sent.2 = some (.error error) → LeavesNothing network sent.1 place target) ∧
      ∀ react, (network.tries react place target).length ≤ pool.maxConnections + 1 := by
  intro network sent hpool hpositive hheld
  have hsound : Sound network := (sound_blank surroundings).deals answer dealings
  have hstocked : Stocked network :=
    (stocked_blank surroundings).deals (sound_blank surroundings) answer dealings
  exact ⟨fun error hfailed => leavesNothing_of_error hsound hstocked hpool hpositive hheld hfailed,
    fun react => length_tries_le hpool react target⟩

/-- A pool opens a connection whose session is full, and tries it three times. -/
theorem full_session_leaves_nothing :
    let full : Answering Unit := fun _ _ memory => (some (.tooManyStreams 0), memory)
    let network := (blank ()).deals full firstDealings
    let sent := network.sendPooled (answering full) ⟨1⟩ ⟨1⟩
    sent.2 = some (.error (.sendFailed (.session (.tooManyStreams 0)))) ∧
      LeavesNothing network sent.1 ⟨1⟩ ⟨1⟩ ∧
      (network.pool? ⟨1⟩).map Pool.listed = some [] ∧
      (sent.1.pool? ⟨1⟩).map Pool.listed = some [(⟨1⟩, ⟨1⟩)] ∧
      (network.tries (answering full) ⟨1⟩ ⟨1⟩).length = 3 := by
  intro full network sent
  have hfailed : sent.2 = some (.error (.sendFailed (.session (.tooManyStreams 0)))) := by
    decide +kernel
  let pool : Pool := ⟨"p", 2, 2, .recording [], 0, [], 0, false⟩
  have hpool : network.pool? ⟨1⟩ = some pool := rfl
  obtain ⟨hleaves, -⟩ := failed_send_leaves_nothing () full firstDealings ⟨1⟩ ⟨1⟩ hpool
    (by decide) (by decide +kernel)
  exact ⟨hfailed, hleaves _ hfailed, by decide +kernel, by decide +kernel, by decide +kernel⟩

/-! ## Collaborators that call back -/

/-- Surroundings in which a session goes away when it is asked for a stream. -/
def leaving : Reaction α
  | .openingStream key, network => network.goAway quiet key .noError ""
  | _, network => network

/-- Surroundings in which a factory closes a connection while it is at work. -/
def clearing (key : ConnectionKey) : Reaction α
  | .openingSession _, network => (network.close quiet key .requested).1
  | _, network => network

/-- What is left of a send that failed because a collaborator called back: an exchange that had
no outcome has got one, and the pool lists fewer connections. -/
structure LeavesTraces (first : Network α)
    (sent : Network α × Option (Except PoolError ConnectionKey)) (place : PoolKey)
    (touched : ExchangeId) : Prop where
  failed : ∃ error, sent.2 = some (.error error)
  waiting : (first.exchange? touched).isSome = true ∧ first.outcome? touched = none
  settled : ∃ reason, sent.1.outcome? touched = some (.error (.aborted reason))
  fewer : ((sent.1.pool? place).map Pool.size).getD 0 < ((first.pool? place).map Pool.size).getD 0

theorem LeavesTraces.not_leavesNothing {touched : ExchangeId}
    {sent : Network α × Option (Except PoolError ConnectionKey)}
    (htraces : LeavesTraces first sent place touched) (target : ExchangeId) :
    ¬ LeavesNothing first sent.1 place target := by
  intro hleaves
  obtain ⟨found, hfound⟩ := Option.isSome_iff_exists.mp htraces.waiting.1
  have hnone : found.outcome = none := by simpa [outcome?, hfound] using htraces.waiting.2
  obtain ⟨after, hafter, hstill⟩ :
      ∃ after, sent.1.exchange? touched = some after ∧ after.outcome = none := by
    by_cases htarget : touched = target
    · subst htarget
      obtain ⟨request, binding, hafter, -⟩ := hleaves.exchange hfound
      exact ⟨_, hafter, hnone⟩
    · exact ⟨found, (hleaves.others htarget).trans hfound, hnone⟩
  obtain ⟨reason, hsettled⟩ := htraces.settled
  rw [outcome?, hafter, Option.bind_some, hstill] at hsettled
  cases hsettled

/-- The connection of a pool is closed while an exchange is sent: by its own session, which goes
away when it is asked for a stream for the exchange, or by the factory, which is asked for
another session because the connection is full.  Both sends fail.  In the first the exchange
that is sent has its outcome all the same, in the second the one that was under way. -/
theorem collaborators_leave_traces :
    let before : List Dealing := firstDealings ++ [.acquire ⟨1⟩]
    let network := (blank ()).deals steadfast before
    let request : Http.Request := ⟨.connect, .authority ⟨"a"⟩, .http2, ⟨[]⟩, []⟩
    let filling : List Dealing :=
      [.outside (.makePool "p" 2 1 (.recording [.accept, .fail .closed])) rfl,
        .outside (.makeExchange request) rfl, .outside (.makeExchange request) rfl,
        .send ⟨1⟩ ⟨1⟩]
    let full := (blank ()).deals steadfast filling
    let limits := fun (pool : Pool) => (pool.maxConnections, pool.maxStreams)
    (network.pool? ⟨1⟩).map limits = some (2, 2) ∧ network.holds ⟨1⟩ = true ∧
      LeavesTraces network (network.sendPooled leaving ⟨1⟩ ⟨1⟩) ⟨1⟩ ⟨1⟩ ∧
      ¬ LeavesNothing network (network.sendPooled leaving ⟨1⟩ ⟨1⟩).1 ⟨1⟩ ⟨1⟩ ∧
      (full.pool? ⟨1⟩).map limits = some (2, 1) ∧ full.holds ⟨2⟩ = true ∧
      LeavesTraces full (full.sendPooled (clearing ⟨1⟩) ⟨1⟩ ⟨2⟩) ⟨1⟩ ⟨1⟩ ∧
      ¬ LeavesNothing full (full.sendPooled (clearing ⟨1⟩) ⟨1⟩ ⟨2⟩).1 ⟨1⟩ ⟨2⟩ := by
  intro before network request filling full limits
  have hleaving : LeavesTraces network (network.sendPooled leaving ⟨1⟩ ⟨1⟩) ⟨1⟩ ⟨1⟩ :=
    ⟨⟨.sendFailed (.session .closed), by decide +kernel⟩, ⟨by decide +kernel, by decide +kernel⟩,
      ⟨.byPeer .noError "", by decide +kernel⟩, by decide +kernel⟩
  have hclearing : LeavesTraces full (full.sendPooled (clearing ⟨1⟩) ⟨1⟩ ⟨2⟩) ⟨1⟩ ⟨1⟩ :=
    ⟨⟨.openFailed .closed, by decide +kernel⟩, ⟨by decide +kernel, by decide +kernel⟩,
      ⟨.requested, by decide +kernel⟩, by decide +kernel⟩
  exact ⟨by decide +kernel, by decide +kernel, hleaving, hleaving.not_leavesNothing ⟨1⟩,
    by decide +kernel, by decide +kernel, hclearing, hclearing.not_leavesNothing ⟨2⟩⟩

end Network

end Multiplex
