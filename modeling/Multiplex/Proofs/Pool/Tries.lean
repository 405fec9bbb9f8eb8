import Multiplex.Proofs.Connection.RetryAdvice
import Multiplex.Settings.Basic

/-!
# What a pool tries

A pool that is asked to send an exchange provides a connection and sends on it, and if the
advice is to try elsewhere it provides a connection again.  `attemptNoting` does what
`attempt` does and notes each try.

## One connection

A send that fails is taken back, so the connection has the capacity that it had.  The pool
takes the first listed connection with capacity, and this is the same one again: it was the
first before, or it has just been opened because no other had capacity.  So all tries are made
on one connection, and what the sessions of the others would say is of no account.
`Persists` lists how the tries can go.

## The number of tries

The pool makes at most one try more than it may have connections.  The number is a word: it
is as it should be for every limit but the largest, and for that one it is zero, so nothing is
tried at all.
-/

namespace Multiplex

/-- A try to send an exchange on a connection, and what came of it. -/
structure Try where
  connection : ConnectionKey
  verdict : Except DispatchError Unit
  deriving DecidableEq

namespace Network

variable {α : Type} {network reached first second : Network α} {answer : Answering α}
  {key other : ConnectionKey} {connection : Connection} {place : PoolKey} {pool : Pool}
  {target : ExchangeId} {exchange : Exchange}

/-! ## Noting the tries -/

/-- Tries an exchange as `attempt` does, and notes the tries. -/
def attemptNoting (react : Reaction α) (network : Network α) (place : PoolKey)
    (target : ExchangeId) :
    Nat → Option DispatchError → (Network α × Except PoolError ConnectionKey) × List Try
  | 0, last => (network.attempt react place target 0 last, [])
  | attempts + 1, _ =>
    if (network.pool? place).all Pool.isClosed then ((network, .error .closed), [])
    else
      match network.acquire react place with
      | (network, .error error) => ((network, .error error), [])
      | (network, .ok key) =>
        match network.send react key target with
        | (network, .ok ()) => ((network, .ok key), [⟨key, .ok ()⟩])
        | (network, .error error) =>
          let network := network.letGoConnection key
          if error.isRetryable && !network.isResolved target then
            let (result, later) := network.attemptNoting react place target attempts (some error)
            (result, ⟨key, .error error⟩ :: later)
          else ((network, .error (.sendFailed error)), [⟨key, .error error⟩])

private theorem attemptNoting_fst (react : Reaction α) (network : Network α) (place : PoolKey)
    (target : ExchangeId) (attempts : Nat) (last : Option DispatchError) :
    (network.attemptNoting react place target attempts last).1 =
      network.attempt react place target attempts last := by
  induction attempts generalizing network last with
  | zero => rfl
  | succ attempts ih =>
      unfold attemptNoting attempt
      cases (network.pool? place).all Pool.isClosed with
      | true => rfl
      | false =>
      cases network.acquire react place with
      | mk acquired provided =>
      cases provided with
      | error failure => rfl
      | ok key =>
      simp only [Bool.false_eq_true, if_false]
      cases acquired.send react key target with
      | mk sent verdict =>
      cases verdict with
      | ok accepted => rfl
      | error error =>
          dsimp only
          split
          next => exact ih _ _
          next => rfl

/-- Sends an exchange through a pool, and notes the tries. -/
def sendNoting (react : Reaction α) (network : Network α) (place : PoolKey)
    (target : ExchangeId) : (Network α × Option (Except PoolError ConnectionKey)) × List Try :=
  match network.pool? place with
  | none => ((network, some (.error .closed)), [])
  | some pool =>
    match pool.attempts? with
    | none => ((network, none), [])
    | some attempts =>
      let ((network, result), tries) := network.attemptNoting react place target attempts none
      ((network, some result), tries)

theorem sendNoting_fst (react : Reaction α) (network : Network α) (place : PoolKey)
    (target : ExchangeId) :
    (network.sendNoting react place target).1 = network.sendPooled react place target := by
  unfold sendNoting sendPooled
  cases network.pool? place with
  | none => rfl
  | some pool =>
      cases hattempts : pool.attempts? with
      | none => simp only [hattempts]
      | some attempts => simp only [hattempts, attemptNoting_fst]

/-- The tries of a send through a pool. -/
def tries (react : Reaction α) (network : Network α) (place : PoolKey) (target : ExchangeId) :
    List Try :=
  (network.sendNoting react place target).2

/-! ## The connection that a pool prefers -/

/-- The connection that an open pool hands out, because it lists it and it has capacity. -/
def Prefers (network : Network α) (place : PoolKey) (key : ConnectionKey) : Prop :=
  ∃ pool, network.pool? place = some pool ∧ pool.isClosed = false ∧
    network.available? pool = some key

namespace Prefers

/-- What a pool prefers depends on what it lists, and on what has capacity. -/
theorem congr (hprefers : first.Prefers place key) (hpool : second.pool? place = first.pool? place)
    (hcapacity : ∀ other, (second.connection? other).any Connection.hasCapacity =
      (first.connection? other).any Connection.hasCapacity) : second.Prefers place key := by
  obtain ⟨pool, hfound, hopen, havailable⟩ := hprefers
  refine ⟨pool, hpool.trans hfound, hopen, ?_⟩
  rw [← havailable, available?, available?, funext hcapacity]

theorem modifyConnection (hprefers : network.Prefers place key) (other : ConnectionKey)
    {change : Connection → Connection}
    (hsame : ∀ found, (change found).hasCapacity = found.hasCapacity) :
    (network.modifyConnection other change).Prefers place key := by
  refine hprefers.congr rfl fun listed => ?_
  rw [connection?_modifyConnection]
  split
  · rw [Option.any_map]
    exact congrArg (Option.any · _) (funext hsame)
  · rfl

theorem offers (hprefers : network.Prefers place key) (hsound : Sound network) :
    ∃ connection pool, network.Offers place key connection pool := by
  obtain ⟨pool, hpool, -, havailable⟩ := hprefers
  obtain ⟨connection, hoffers⟩ := offers_of_available hsound hpool havailable
  exact ⟨connection, pool, hoffers⟩

theorem sound_letGo (hprefers : network.Prefers place key) (hsound : Sound network) :
    Sound (network.letGoConnection key) := by
  obtain ⟨connection, pool, hoffers⟩ := hprefers.offers hsound
  have hundergo := undergo_letGoConnection hoffers.connection? hoffers.destination hoffers.pool?
    hoffers.lists
  rw [← hundergo]
  exact hsound.undergo _

end Prefers

/-- A pool has provided a connection, and prefers it now. -/
structure Provided (first second : Network α) (place : PoolKey) (key : ConnectionKey)
    (connection : Connection) : Prop where
  accepting : (first.pool? place).all Pool.isClosed = false
  acquire : first.acquire quiet place = (second, .ok key)
  sound : Sound second
  exchange? : second.exchange? = first.exchange?
  channel? : second.channel? = first.channel?
  connection? : second.connection? key = some connection
  opened : connection.isClosed = false
  prefers : second.Prefers place key

/-- A pool provides the connection that it prefers. -/
theorem Prefers.provided (hprefers : network.Prefers place key) (hsound : Sound network) :
    ∃ connection, Provided network (network.retainConnection key) place key connection := by
  obtain ⟨connection, pool, hoffers⟩ := hprefers.offers hsound
  have hretained := hoffers.retain hsound
  have hafterwards := hsound.undergo (.retainConnection key)
  rw [hoffers.undergo_retain hsound] at hretained hafterwards
  obtain ⟨same, hpool, hopen, havailable⟩ := id hprefers
  refine ⟨_, by simp [hpool, hopen], ?_, hafterwards, rfl, rfl, hretained.connection?,
    hretained.opened, hprefers.modifyConnection key fun _ => rfl⟩
  simp only [acquire, hpool, havailable]

/-- A connection that was opened because no other had capacity is the one that the pool
prefers. -/
theorem Opens.prefers {transport : Transport} (hopens : Opens first second place pool transport)
    (hopen : pool.isClosed = false) (hpositive : 1 ≤ pool.maxStreams)
    (hnone : first.available? pool = none) : second.Prefers place first.nextConnection := by
  let listed := pool.tried.list ⟨pool.opened + 1⟩ first.nextConnection
  refine ⟨listed, by rw [hopens.pool?, if_pos rfl], hopen, ?_⟩
  have hcapacity : ∀ other ∈ listed.listed.map Prod.snd,
      (second.connection? other).any Connection.hasCapacity = true →
        other = first.nextConnection := by
    intro other hmem hfree
    by_contra hne
    rw [hopens.connection?, if_neg hne] at hfree
    have hlisted : other ∈ pool.listed.map Prod.snd := by
      obtain ⟨entry, hentry, rfl⟩ := List.mem_map.mp hmem
      rcases List.mem_append.mp hentry with hkept | hnew
      · exact List.mem_map.mpr ⟨entry, List.mem_of_mem_filter hkept, rfl⟩
      · exact absurd (congrArg Prod.snd (List.mem_singleton.mp hnew)) hne
    exact absurd hfree (List.find?_eq_none.mp hnone other hlisted)
  obtain ⟨preferred, hfound⟩ : ∃ preferred, second.available? listed = some preferred := by
    have hlast : first.nextConnection ∈ listed.listed.map Prod.snd := by
      exact List.mem_map.mpr ⟨_, List.mem_append_right _ (List.mem_singleton_self _), rfl⟩
    have hroom : (second.connection? first.nextConnection).any Connection.hasCapacity = true := by
      rw [hopens.connection?, if_pos rfl, Option.any_some]
      exact decide_eq_true hpositive
    exact Option.isSome_iff_exists.mp (List.find?_isSome.mpr ⟨_, hlast, hroom⟩)
  rw [hfound, hcapacity preferred (List.mem_of_find?_eq_some hfound)
    (List.find?_some (p := fun key => (second.connection? key).any Connection.hasCapacity) hfound)]

/-- What a pool provides, it prefers from then on. -/
theorem provided_of_acquire (hsound : Sound network) (hpool : network.pool? place = some pool)
    (hopen : pool.isClosed = false) (hpositive : 1 ≤ pool.maxStreams)
    (hacquire : network.acquire quiet place = (reached, .ok key)) :
    ∃ connection, Provided network reached place key connection := by
  cases havailable : network.available? pool with
  | some preferred =>
      have hprefers : network.Prefers place preferred := ⟨pool, hpool, hopen, havailable⟩
      obtain ⟨connection, hprovided⟩ := hprefers.provided hsound
      obtain ⟨rfl, hkey⟩ := Prod.mk.inj (hprovided.acquire.symm.trans hacquire)
      obtain rfl := Except.ok.inj hkey
      exact ⟨connection, hprovided⟩
  | none =>
      have hasked := id hacquire
      simp only [acquire, hpool, havailable, hopen, Bool.false_eq_true, if_false] at hasked
      split at hasked
      next => simp at hasked
      next hroom =>
        have hundergo : network.undergo (.openConnection place) =
            (network.openConnection quiet place pool).1 := by
          simp only [undergo, hpool]
        rcases openConnection_cases hpool with
          ⟨error, final, hopened, -⟩ | ⟨transport, final, hopened, hopens⟩
        · simp [hopened] at hasked
        · obtain ⟨rfl, hkey⟩ := Prod.mk.inj (hopened.symm.trans hasked)
          obtain rfl := Except.ok.inj hkey
          have hafterwards := hsound.undergo (.openConnection place)
          rw [hundergo, hopened] at hafterwards
          refine ⟨pool.nextConnection place network.nextSession, by simp [hpool, hopen], hacquire,
            hafterwards, hopens.exchange?, hopens.channel?, ?_, rfl,
            hopens.prefers hopen hpositive havailable⟩
          rw [hopens.connection?, if_pos rfl]

/-! ## One try -/

section OneTry

variable (hprovided : Provided network reached place key connection) (hsound : Sound network)
  (hfit : network.Fit target exchange)
include hprovided hsound hfit

/-- What can be sent can be sent on the connection that the pool has provided. -/
theorem Provided.fit : reached.Fit target exchange :=
  hfit.congr hsound hprovided.sound hprovided.exchange? hprovided.channel?

theorem attemptNoting_of_clear (haccepts : reached.refusal? answer connection.session = none)
    (attempts : Nat) (last : Option DispatchError) :
    network.attemptNoting (answering answer) place target (attempts + 1) last =
      (((reached.send (answering answer) key target).1, .ok key), [⟨key, .ok ()⟩]) := by
  obtain ⟨hsent, -⟩ := (hprovided.fit hsound hfit).undertakes hprovided.sound
    hprovided.connection? hprovided.opened haccepts
  rw [attemptNoting, if_neg (Bool.eq_false_iff.mp hprovided.accepting), acquire_answering,
    hprovided.acquire]
  cases hresult : reached.send (answering answer) key target with
  | mk sent verdict =>
  rw [hresult] at hsent
  obtain rfl : verdict = .ok () := hsent
  simp only [hresult]

/-- A try fails if the session refuses.  Afterwards the pool prefers the same connection, and
what could be sent can still be sent. -/
private theorem attemptNoting_of_refusal {refusal : SessionError}
    (hrefused : reached.refusal? answer connection.session = some refusal) (attempts : Nat)
    (last : Option DispatchError) :
    ∃ left after, Sound left ∧ left.Prefers place key ∧ left.Fit target after ∧
      network.attemptNoting (answering answer) place target (attempts + 1) last =
        if (DispatchError.session refusal).isRetryable then
          let later := left.attemptNoting (answering answer) place target attempts
            (some (.session refusal))
          (later.1, ⟨key, .error (.session refusal)⟩ :: later.2)
        else ((left, .error (.sendFailed (.session refusal))),
          [⟨key, .error (.session refusal)⟩]) := by
  have hready := hprovided.fit hsound hfit
  have hobstacle : reached.obstacle? answer connection exchange = some (.session refusal) := by
    rw [hready.obstacle?_eq hprovided.opened, hrefused, Option.map_some]
  obtain ⟨hfailed, hundispatched, htaken⟩ :=
    send_of_obstacle hprovided.sound hprovided.connection? hready.exchange? hobstacle
  cases hresult : reached.send (answering answer) key target with
  | mk failed verdict =>
  rw [hresult] at hfailed hundispatched htaken
  obtain rfl : verdict = .error (.session refusal) := hfailed
  have hafterwards : Sound failed := hundispatched.sound hprovided.sound
  have hprefers : failed.Prefers place key :=
    hprovided.prefers.congr (congrFun htaken.pool? place) fun other => by rw [htaken.connection?]
  have hleft : Sound (failed.letGoConnection key) := hprefers.sound_letGo hafterwards
  obtain ⟨after, hstill, -⟩ := hready.takenBack hprovided.sound hafterwards htaken
  have hfree : (failed.letGoConnection key).Fit target after :=
    hstill.congr hafterwards hleft rfl rfl
  refine ⟨failed.letGoConnection key, after, hleft, hprefers.modifyConnection key fun _ => rfl,
    hfree, ?_⟩
  have hunresolved : (failed.letGoConnection key).isResolved target = false := by
    rw [isResolved, hfree.exchange?, Option.any_some, hfree.unresolved]
  rw [attemptNoting, if_neg (Bool.eq_false_iff.mp hprovided.accepting), acquire_answering,
    hprovided.acquire]
  simp only [hresult, hunresolved, Bool.not_false, Bool.and_true]

end OneTry

/-! ## All tries -/

/-- How the tries on one connection can go: the session opens a stream, or it refuses for good,
or it refuses until there are no tries left. -/
inductive Persists (key : ConnectionKey) :
    Nat → List Try → Except PoolError ConnectionKey → Prop
  | taken (attempts : Nat) : Persists key (attempts + 1) [⟨key, .ok ()⟩] (.ok key)
  | blamed {refusal : SessionError} (attempts : Nat) :
      (DispatchError.session refusal).isRetryable = false →
      Persists key (attempts + 1) [⟨key, .error (.session refusal)⟩]
        (.error (.sendFailed (.session refusal)))
  | exhausted {refusal : SessionError} : (DispatchError.session refusal).isRetryable = true →
      Persists key 1 [⟨key, .error (.session refusal)⟩]
        (.error (.sendFailed (.session refusal)))
  | again {refusal : SessionError} {attempts : Nat} {later : List Try}
      {result : Except PoolError ConnectionKey} :
      (DispatchError.session refusal).isRetryable = true → Persists key attempts later result →
      Persists key (attempts + 1) (⟨key, .error (.session refusal)⟩ :: later) result

/-- There is no other connection among the tries. -/
theorem Persists.connections {attempts : Nat} {tries : List Try}
    {result : Except PoolError ConnectionKey} (hpersists : Persists key attempts tries result) :
    tries.map Try.connection = List.replicate tries.length key := by
  induction hpersists with
  | taken | blamed | exhausted => rfl
  | again _ _ ih => rw [List.map_cons, ih, List.length_cons, List.replicate_succ]

theorem persists_of_provided {network reached : Network α} {connection : Connection}
    {exchange : Exchange} (hprovided : Provided network reached place key connection)
    (hsound : Sound network) (hfit : network.Fit target exchange) (answer : Answering α)
    (attempts : Nat) (last : Option DispatchError) :
    Persists key (attempts + 1)
      (network.attemptNoting (answering answer) place target (attempts + 1) last).2
      (network.attemptNoting (answering answer) place target (attempts + 1) last).1.2 := by
  cases hrefusal : reached.refusal? answer connection.session with
  | none =>
      rw [attemptNoting_of_clear hprovided hsound hfit hrefusal]
      exact .taken attempts
  | some refusal =>
      obtain ⟨left, after, hleft, hprefers, hstill, heq⟩ :=
        attemptNoting_of_refusal hprovided hsound hfit hrefusal attempts last
      rw [heq]
      split
      next hretry =>
        -- There are tries left, or this was the last.
        cases attempts with
        | zero => exact .exhausted hretry
        | succ attempts =>
            obtain ⟨again, hagain⟩ := hprefers.provided hleft
            exact .again hretry (persists_of_provided hagain hleft hstill answer attempts _)
      next hblamed => exact .blamed attempts (Bool.eq_false_iff.mpr hblamed)

/-! ## Sends through a pool -/

section Pools

variable (hpool : network.pool? place = some pool)
  (hbound : pool.maxConnections + 1 < Word.bound64)
include hpool hbound

private theorem sendNoting_eq (react : Reaction α) (target : ExchangeId) :
    let noting := network.attemptNoting react place target (pool.maxConnections + 1) none
    network.sendNoting react place target = ((noting.1.1, some noting.1.2), noting.2) := by
  simp only [sendNoting, hpool, Pool.attempts?_eq_some hbound]

/-- Below the largest word, a pool tries once more than it may have connections. -/
theorem tries_eq (react : Reaction α) (target : ExchangeId) :
    network.tries react place target =
      (network.attemptNoting react place target (pool.maxConnections + 1) none).2 :=
  congrArg Prod.snd (sendNoting_eq hpool hbound react target)

theorem sendPooled_eq_noting (react : Reaction α) (target : ExchangeId) :
    let noting := network.attemptNoting react place target (pool.maxConnections + 1) none
    network.sendPooled react place target = (noting.1.1, some noting.1.2) := by
  rw [← sendNoting_fst, sendNoting_eq hpool hbound]

theorem tries_of_error {error : PoolError}
    (hfailed : pool.isClosed = true ∧ error = .closed ∨
      pool.isClosed = false ∧ (network.acquire quiet place).2 = .error error)
    (answer : Answering α) (target : ExchangeId) :
    network.tries (answering answer) place target = [] ∧
      (network.sendPooled (answering answer) place target).2 = some (.error error) := by
  rw [tries_eq hpool hbound, sendPooled_eq_noting hpool hbound, attemptNoting, hpool,
    Option.all_some]
  rcases hfailed with ⟨hclosed, rfl⟩ | ⟨hopen, hfailed⟩
  · rw [if_pos hclosed]
    exact ⟨rfl, rfl⟩
  · rw [if_neg (Bool.eq_false_iff.mp hopen), acquire_answering]
    cases hresult : network.acquire quiet place with
    | mk reached result =>
    rw [hresult] at hfailed
    obtain rfl : result = .error error := hfailed
    exact ⟨rfl, rfl⟩

end Pools

/-- In every network that dealings lead to, a pool whose limit is not the largest word makes all
tries of a send on the one connection that it would have handed out: it tries again while the
session refuses with the advice to try elsewhere, and once more than it may have connections at
most.  Only if it is closed or has no connection to hand out, nothing is tried. -/
theorem tries_are_on_one_connection (surroundings : α) (answer : Answering α)
    (dealings : List Dealing) (place : PoolKey) (target : ExchangeId) {pool : Pool}
    {exchange : Exchange} :
    let network := (blank surroundings).deals answer dealings
    let tries := network.tries (answering answer) place target
    let result := (network.sendPooled (answering answer) place target).2
    network.pool? place = some pool → pool.maxConnections + 1 < Word.bound64 →
      1 ≤ pool.maxStreams → network.Fit target exchange →
      (pool.isClosed = true → tries = [] ∧ result = some (.error .closed)) ∧
      (pool.isClosed = false →
        (∀ error, (network.acquire quiet place).2 = .error error →
          tries = [] ∧ result = some (.error error)) ∧
        ∀ key, (network.acquire quiet place).2 = .ok key →
          ∃ outcome, result = some outcome ∧
            Persists key (pool.maxConnections + 1) tries outcome ∧
            tries.map Try.connection = List.replicate tries.length key) := by
  intro network tries result hpool hbound hpositive hfit
  have hsound : Sound network := (sound_blank surroundings).deals answer dealings
  refine ⟨fun hclosed => ?_, fun hopen => ⟨fun error hfailed => ?_, fun key hacquire => ?_⟩⟩
  · exact tries_of_error hpool hbound (.inl ⟨hclosed, rfl⟩) answer target
  · exact tries_of_error hpool hbound (.inr ⟨hopen, hfailed⟩) answer target
  · obtain ⟨connection, hprovided⟩ :=
      provided_of_acquire hsound hpool hopen hpositive (Prod.ext rfl hacquire)
    have hpersists := persists_of_provided hprovided hsound hfit answer pool.maxConnections none
    rw [← tries_eq hpool hbound] at hpersists
    have hresult := congrArg Prod.snd (sendPooled_eq_noting hpool hbound (answering answer) target)
    exact ⟨_, hresult, hpersists, hpersists.connections⟩

/-- A session that refuses once is asked again, and then it opens a stream. -/
theorem taken_at_the_second_try :
    let busyOnce : Answering Nat := fun _ _ asked =>
      (if asked = 0 then some (.tooManyStreams 0) else none, asked + 1)
    let network := (blank 0).deals busyOnce firstDealings
    let tries := network.tries (answering busyOnce) ⟨1⟩ ⟨1⟩
    let result := (network.sendPooled (answering busyOnce) ⟨1⟩ ⟨1⟩).2
    tries = [⟨⟨1⟩, .error (.session (.tooManyStreams 0))⟩, ⟨⟨1⟩, .ok ()⟩] ∧
      result = some (.ok ⟨1⟩) ∧ Persists ⟨1⟩ 3 tries (.ok ⟨1⟩) := by
  intro busyOnce network tries result
  let pool : Pool := ⟨"p", 2, 2, .recording [], 0, [], 0, false⟩
  let exchange : Exchange :=
    { request := ⟨.connect, .absolute .https ⟨"a"⟩ .slash, .http2, ⟨[]⟩, []⟩ }
  have hpool : network.pool? ⟨1⟩ = some pool := rfl
  have hfit : network.Fit ⟨1⟩ exchange := ⟨rfl, rfl, rfl, by decide +kernel, rfl⟩
  obtain ⟨-, hopen⟩ := tries_are_on_one_connection 0 busyOnce firstDealings ⟨1⟩ ⟨1⟩ hpool
    (by decide) (by decide) hfit
  obtain ⟨-, hprovided⟩ := hopen rfl
  obtain ⟨outcome, houtcome, hpersists, -⟩ := hprovided ⟨1⟩ rfl
  have hresult : result = some (.ok ⟨1⟩) := by decide +kernel
  obtain rfl := Option.some.inj (houtcome.symm.trans hresult)
  exact ⟨by decide +kernel, hresult, hpersists⟩

/-- A pool tries a full session until it gives up, although it may have another connection and
its factory would open a session that refuses nothing. -/
theorem full_session_is_tried_again :
    let exchange : Exchange :=
      { request := ⟨.connect, .absolute .https ⟨"a"⟩ .slash, .http2, ⟨[]⟩, []⟩ }
    let before : List Dealing :=
      [.outside (.makePool "p" 2 2 (.recording [.refuse (.tooManyStreams 1)])) rfl,
        .outside (.makeExchange exchange.request) rfl, .acquire ⟨1⟩]
    let network := (blank ()).deals steadfast before
    let refused : Try := ⟨⟨1⟩, .error (.session (.tooManyStreams 1))⟩
    network.Fit ⟨1⟩ exchange ∧
      (∃ pool, network.pool? ⟨1⟩ = some pool ∧ pool.isClosed = false ∧
        pool.size < pool.maxConnections ∧ pool.factory = .recording []) ∧
      network.tries (answering steadfast) ⟨1⟩ ⟨1⟩ = [refused, refused, refused] ∧
      (network.sendPooled (answering steadfast) ⟨1⟩ ⟨1⟩).2 =
        some (.error (.sendFailed (.session (.tooManyStreams 1)))) := by
  intro exchange before network refused
  have hfit : network.Fit ⟨1⟩ exchange := ⟨rfl, rfl, rfl, by decide +kernel, rfl⟩
  exact ⟨hfit, ⟨_, rfl, rfl, by decide, rfl⟩, by decide +kernel, by decide +kernel⟩

/-! ## The first try -/

/-- Whatever connection a pool hands out, its session opens a stream. -/
def Welcomes (network : Network α) (answer : Answering α) (place : PoolKey) : Prop :=
  ∀ {reached key connection}, network.acquire quiet place = (reached, .ok key) →
    reached.connection? key = some connection →
    reached.refusal? answer connection.session = none

/-- An open pool hands out a connection if one that it lists has capacity, or if it may have
another and its factory opens a session. -/
theorem acquire_of_room (hpool : network.pool? place = some pool) (hopen : pool.isClosed = false)
    (hroom : (network.available? pool).isSome = true ∨ pool.size < pool.maxConnections ∧
      (pool.factory.openSession ⟨pool.opened + 1⟩).2.isOk = true) :
    ∃ reached key, network.acquire quiet place = (reached, .ok key) := by
  cases havailable : network.available? pool with
  | some key =>
      refine ⟨network.retainConnection key, key, ?_⟩
      simp only [acquire, hpool, havailable]
  | none =>
      rw [havailable] at hroom
      obtain hsome | ⟨hsize, hopens⟩ := hroom
      · exact absurd hsome Bool.false_ne_true
      have hacquire : network.acquire quiet place = network.openConnection quiet place pool := by
        simp only [acquire, hpool, havailable, hopen, Bool.false_eq_true, if_false,
          Nat.not_le.mpr hsize]
      rw [hacquire]
      unfold openConnection
      dsimp only
      split
      next error hfailed =>
        rw [hfailed] at hopens
        exact absurd hopens Bool.false_ne_true
      next => exact ⟨_, _, rfl⟩

/-- In every network that dealings lead to, an open pool with settings that make sense sends an
exchange at the first try, unless its limit is the largest word, if it has a connection to hand
out and the session of that connection opens a stream.  The number of tries that it may make
is a word. -/
theorem sent_at_the_first_try (surroundings : α) (answer : Answering α) (dealings : List Dealing)
    (place : PoolKey) (target : ExchangeId) {settings : Settings} {pool : Pool}
    {exchange : Exchange} :
    let network := (blank surroundings).deals answer dealings
    let sent := network.sendPooled (answering answer) place target
    settings.validate = .ok () → settings.pool.maxConnections + 1 < Word.bound64 →
      pool.maxConnections = settings.pool.maxConnections →
      pool.maxStreams = settings.pool.maxStreams → network.pool? place = some pool →
      pool.isClosed = false →
      ((network.available? pool).isSome = true ∨ pool.size < pool.maxConnections ∧
        (pool.factory.openSession ⟨pool.opened + 1⟩).2.isOk = true) →
      network.Welcomes answer place → network.Fit target exchange →
      pool.attempts? = some (pool.maxConnections + 1) ∧
        ∃ reached key connection, network.acquire quiet place = (reached, .ok key) ∧
          reached.connection? key = some connection ∧
          network.tries (answering answer) place target = [⟨key, .ok ()⟩] ∧
          sent.2 = some (.ok key) ∧
          Undertakes reached sent.1 key connection target exchange.request.normalize.1 := by
  intro network sent hvalid hbound hconnections hstreams hpool hopen hroom hwelcomes hfit
  have hsound : Sound network := (sound_blank surroundings).deals answer dealings
  obtain ⟨-, hpositive⟩ := settings.validate_eq_ok_iff.mp hvalid
  rw [← hconnections] at hbound
  rw [← hstreams] at hpositive
  obtain ⟨reached, key, hacquire⟩ := acquire_of_room hpool hopen hroom
  obtain ⟨connection, hprovided⟩ := provided_of_acquire hsound hpool hopen hpositive hacquire
  have haccepts := hwelcomes hacquire hprovided.connection?
  obtain ⟨-, hundertakes⟩ := (hprovided.fit hsound hfit).undertakes hprovided.sound
    hprovided.connection? hprovided.opened haccepts
  have hnoting := attemptNoting_of_clear hprovided hsound hfit haccepts pool.maxConnections none
  have hsent : sent = ((reached.send (answering answer) key target).1, some (.ok key)) :=
    (sendPooled_eq_noting hpool hbound (answering answer) target).trans (by rw [hnoting])
  refine ⟨Pool.attempts?_eq_some hbound, reached, key, connection, hacquire,
    hprovided.connection?, ?_, ?_, ?_⟩
  · rw [tries_eq hpool hbound, hnoting]
  · rw [hsent]
  · rw [hsent]
    exact hundertakes

/-- A pool that may have two connections opens one for the first exchange. -/
theorem first_exchange_opens_a_connection :
    let settings : Settings := { pool := { maxConnections := 2, maxStreams := 2 } }
    let network := (blank ()).deals steadfast firstDealings
    settings.validate = .ok () ∧
      (network.sendPooled (answering steadfast) ⟨1⟩ ⟨1⟩).2 = some (.ok ⟨1⟩) ∧
      ∃ key, network.tries (answering steadfast) ⟨1⟩ ⟨1⟩ = [⟨key, .ok ()⟩] := by
  intro settings network
  let pool : Pool := ⟨"p", 2, 2, .recording [], 0, [], 0, false⟩
  let exchange : Exchange :=
    { request := ⟨.connect, .absolute .https ⟨"a"⟩ .slash, .http2, ⟨[]⟩, []⟩ }
  let opened : Connection := ⟨⟨1⟩, .pool ⟨1⟩, ⟨1⟩, 2, [], false, 1⟩
  have hpool : network.pool? ⟨1⟩ = some pool := rfl
  have hfit : network.Fit ⟨1⟩ exchange := ⟨rfl, rfl, rfl, by decide +kernel, rfl⟩
  have hacquire : (network.acquire quiet ⟨1⟩).2 = .ok ⟨1⟩ := rfl
  have hopened : (network.acquire quiet ⟨1⟩).1.connection? ⟨1⟩ = some opened := rfl
  have hwelcomes : network.Welcomes steadfast ⟨1⟩ := by
    intro reached key connection hprovided hconnection
    obtain rfl : (network.acquire quiet ⟨1⟩).1 = reached := congrArg Prod.fst hprovided
    obtain rfl : ⟨1⟩ = key := Except.ok.inj (hacquire.symm.trans (congrArg Prod.snd hprovided))
    obtain rfl := Option.some.inj (hopened.symm.trans hconnection)
    rfl
  have hvalid : settings.validate = .ok () := rfl
  obtain ⟨-, reached, key, connection, -, -, htries, -⟩ :=
    sent_at_the_first_try () steadfast firstDealings ⟨1⟩ ⟨1⟩ hvalid (by decide) rfl rfl hpool rfl
      (.inr ⟨by decide, rfl⟩) hwelcomes hfit
  exact ⟨hvalid, by decide +kernel, key, htries⟩

/-- Whoever sends through a pool whose limit is the largest word stops, whatever the pool could
provide. -/
private theorem sendNoting_of_largest (hpool : network.pool? place = some pool)
    (hlargest : pool.maxConnections + 1 = Word.bound64) (react : Reaction α)
    (target : ExchangeId) :
    network.sendNoting react place target = ((network, none), []) := by
  have hword : pool.maxConnections < Word.bound64 := by omega
  simp only [sendNoting, hpool, (Pool.attempts?_eq_none_iff hword).mpr hlargest]

/-- Whoever sends through a pool with the largest limit, with settings that make sense and with
all that the send needs, stops without a try and without a result. -/
theorem largest_limit_stops_the_sender :
    let settings : Settings := { pool := { maxConnections := Word.bound64 - 1, maxStreams := 1 } }
    let exchange : Exchange :=
      { request := ⟨.connect, .absolute .https ⟨"a"⟩ .slash, .http2, ⟨[]⟩, []⟩ }
    let before : List Dealing :=
      [.outside (.makePool "p" settings.pool.maxConnections settings.pool.maxStreams
          (.recording [])) rfl,
        .outside (.makeExchange exchange.request) rfl]
    let network := (blank ()).deals steadfast before
    settings.validate = .ok () ∧ network.Fit ⟨1⟩ exchange ∧
      ∃ pool, network.pool? ⟨1⟩ = some pool ∧ pool.isClosed = false ∧
        pool.size < pool.maxConnections ∧ pool.factory = .recording [] ∧
        network.tries (answering steadfast) ⟨1⟩ ⟨1⟩ = [] ∧
        network.sendPooled (answering steadfast) ⟨1⟩ ⟨1⟩ = (network, none) := by
  intro settings exchange before network
  let pool : Pool := ⟨"p", Word.bound64 - 1, 1, .recording [], 0, [], 0, false⟩
  have hfit : network.Fit ⟨1⟩ exchange := ⟨rfl, rfl, rfl, by decide +kernel, rfl⟩
  have hpool : network.pool? ⟨1⟩ = some pool := rfl
  have hnoting := sendNoting_of_largest hpool rfl (answering steadfast) ⟨1⟩
  refine ⟨rfl, hfit, pool, hpool, rfl, by decide, rfl, ?_, ?_⟩
  · rw [tries, hnoting]
  · rw [← sendNoting_fst, hnoting]

end Network

end Multiplex
