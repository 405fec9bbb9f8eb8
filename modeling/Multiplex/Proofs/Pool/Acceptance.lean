import Multiplex.Proofs.Http.NormalForm
import Multiplex.Proofs.Loopback.Arrival

/-!
# How a pool accepts an exchange

A pool that accepts an exchange may have tried it before, on connections that were closed or
full.  What matters is the last attempt: `Accepts` describes the network in which a connection
of the pool took the exchange.  No time has passed since the pool was asked, and the request
that goes out is the one that the exchange was made with, normalized, although it was
normalized before each attempt.
-/

namespace Multiplex.Network

variable {α : Type} {network first second : Network α} {key : ConnectionKey}
  {connection : Connection} {target other : ExchangeId} {exchange : Exchange} {id : ChannelId}
  {place : PoolKey} {operation : Operation} {answer : Answering α} {acts : List (Act α)}

/-! ## Time -/

private theorem clock_openStream (network : Network α) (session : SessionKey)
    (request : Http.Request) (listener : Listener) :
    (network.openStream quiet session request listener).1.clock = network.clock := by
  unfold openStream
  split
  next => rfl
  next found _ =>
    split
    next loopback _ =>
      dsimp only
      split <;> rfl
    next =>
      dsimp only [quiet]
      split
      next =>
        split
        next => rfl
        next => rfl
      next => rfl

private theorem clock_giveStream (network : Network α) (id : ChannelId) (stream : StreamId) :
    (network.giveStream quiet id stream).clock = network.clock := by
  unfold giveStream
  dsimp only
  split
  next => rfl
  next channel _ =>
    split
    next =>
      unfold resetStream
      split
      next => rfl
      next => split <;> rfl
    next => rfl

private theorem clock_sendOnChannel (network : Network α) (id : ChannelId) (target : ExchangeId) :
    (network.sendOnChannel quiet id target).1.clock = network.clock := by
  unfold sendOnChannel
  split
  next channel exchange _ _ =>
    have hopened := clock_openStream (network.bind id target) channel.session exchange.request
      (.channel id)
    split
    next => rfl
    split
    next => rfl
    dsimp only
    split
    next => rfl
    split
    next opened stream heq =>
      rw [heq] at hopened
      exact (clock_giveStream opened id stream).trans hopened
    next opened error heq =>
      rw [heq] at hopened
      exact hopened
  next => rfl

private theorem clock_sendRegistered (network : Network α) (key : ConnectionKey) (id : ChannelId)
    (target : ExchangeId) :
    (network.sendRegistered quiet key id target).1.clock = network.clock := by
  have hsent := clock_sendOnChannel network id target
  unfold sendRegistered
  split
  next sent stream heq =>
    rw [heq] at hsent
    exact hsent
  next sent error heq =>
    rw [heq] at hsent
    exact hsent

theorem clock_send (network : Network α) (key : ConnectionKey) (target : ExchangeId) :
    (network.send quiet key target).1.clock = network.clock := by
  unfold send
  split
  next =>
    split
    next => rfl
    dsimp only
    split
    next => rfl
    split
    next => rfl
    exact clock_sendRegistered ..
  next => rfl

theorem clock_acquire (network : Network α) (place : PoolKey) :
    (network.acquire quiet place).1.clock = network.clock := by
  unfold acquire
  split
  next => rfl
  next pool _ =>
    split
    next => rfl
    split
    next => rfl
    split
    next => rfl
    unfold openConnection
    dsimp only
    split
    next => rfl
    next =>
      unfold connect attach
      dsimp only
      split
      next => rfl
      next => split <;> rfl

/-! ## The last attempt -/

/-- After some attempts in vain, a connection of a pool is about to take an exchange with a
normalized request. -/
structure Takes (first ready : Network α) (acts : List (Act α)) (place : PoolKey)
    (key : ConnectionKey) (target : ExchangeId) (request : Http.Request) : Prop where
  course : Course first acts ready
  fits : ∀ act ∈ acts, act.network.Does (.send place target) act.operation
  offers : ∃ connection pool, ready.Offers place key connection pool
  held : ready.holds target = true
  exchange : ∃ exchange, ready.exchange? target = some exchange ∧
    exchange.request.normalize.1 = request

theorem Takes.after {request : Http.Request} {earlier later : List (Act α)} {ready : Network α}
    (htakes : Takes second ready later place key target request)
    (hcourse : Course first earlier second)
    (hfits : ∀ act ∈ earlier, act.network.Does (.send place target) act.operation) :
    Takes first ready (earlier ++ later) place key target request where
  course := hcourse.trans htakes.course
  fits act hmem := (List.mem_append.mp hmem).elim (hfits act) (htakes.fits act)
  offers := htakes.offers
  held := htakes.held
  exchange := htakes.exchange

private theorem takes_of_attempt (hsound : Sound network) (hheld : network.holds target = true)
    (hexchange : network.exchange? target = some exchange) {attempts : Nat}
    {last : Option DispatchError}
    (haccepted : (network.attempt (answering answer) place target attempts last).2 = .ok key) :
    ∃ ready acts, Takes network ready acts place key target exchange.request.normalize.1 ∧
      ready.send quiet key target =
        ((network.attempt (answering answer) place target attempts last).1, .ok ()) := by
  induction attempts generalizing network exchange last with
  | zero =>
      unfold attempt at haccepted
      split at haccepted <;> simp at haccepted
  | succ attempts ih =>
      unfold attempt at haccepted ⊢
      split at haccepted
      next => simp at haccepted
      next hopen =>
      rw [if_neg hopen]
      obtain ⟨provided, hacquire, hsame, hoffered⟩ :=
        logs_acquire hsound (.send place target) (beq_self_eq_true place)
      rw [acquire_answering] at haccepted ⊢
      cases hresult : network.acquire quiet place with
      | mk second result =>
      rw [hresult] at hacquire hsame hoffered haccepted
      cases result with
      | error error => simp at haccepted
      | ok found =>
          obtain ⟨connection, pool, hoffers⟩ := hoffered found rfl
          obtain ⟨tuned, decisions, hdecide, htuned, hkept, hsend⟩ :=
            logs_decide hoffers answer target
          have hbefore := hacquire.trans hdecide
          have hready : Sound tuned := hbefore.course.sound hsound
          have hthere : tuned.exchange? target = some exchange := by
            rw [htuned, hsame, hexchange]
          have hstill : tuned.holds target = true := by rwa [holds, htuned, hsame]
          dsimp only at haccepted ⊢
          rw [hsend] at haccepted ⊢
          cases hsent : tuned.send quiet found target with
          | mk sent verdict =>
          rw [hsent] at haccepted
          cases verdict with
          | ok accepted =>
              obtain rfl := Except.ok.inj haccepted
              exact ⟨tuned, _, ⟨hbefore.course, hbefore.fits, ⟨connection, pool, hkept⟩, hstill,
                exchange, hthere, rfl⟩, hsent⟩
          | error error =>
              obtain ⟨failed, hfailed, hagain⟩ := logs_failed hready hstill hkept hsent
              dsimp only at haccepted ⊢
              split at haccepted
              next hretry =>
                rw [if_pos hretry]
                obtain ⟨hretry, -⟩ := Bool.and_eq_true_iff.mp hretry
                -- The request was normalized for this attempt, so the next makes nothing of it.
                have hnormalized := request?_of_retryable hkept.connection? hthere
                  (congrArg Prod.snd hsent) hretry
                rw [hsent] at hnormalized
                obtain ⟨hverdict, hrequest⟩ := hnormalized
                obtain ⟨after, hafter, hsame⟩ := Option.map_eq_some_iff.mp hrequest
                obtain ⟨ready, acts, htakes, hlast⟩ :=
                  ih ((hbefore.trans hfailed).course.sound hsound) hagain hafter haccepted
                have hidle := (Http.Request.isNormalized_normalize hverdict).normalize_eq
                rw [hsame, hidle] at htakes
                have hall := hbefore.trans hfailed
                exact ⟨ready, _, htakes.after hall.course hall.fits, hlast⟩
              next => simp at haccepted

/-! ## What an accepted exchange waits for -/

section Accepted

variable {pool : Pool} {limit delay : Nat} {responder : Responder}

/-- A connection of a pool over loopback sessions that takes an exchange has its session queue
the answer to the normalized request, for a stream of its own. -/
theorem Offers.expects (hoffers : network.Offers place key connection pool)
    (hfactory : pool.factory = .loopback limit delay responder)
    (hexchange : network.exchange? target = some exchange) (hheld : network.holds target = true)
    (hsent : (network.send quiet key target).2 = .ok ())
    (hinStep : InStep network connection.session)
    (hfurnished : Furnished network connection.session)
    (hfew : (network.send quiet key target).1.streamsOpened connection.session < 2 ^ 31) :
    ∃ channel stream ticket, (network.send quiet key target).1.Expects
      ⟨key, channel, target, connection.session,
        ⟨stream, responder exchange.request.normalize.1, network.clock + delay, ticket⟩⟩ [] := by
  have hsound := hinStep.sound
  have hundergo : network.undergo (.send key target) = (network.send quiet key target).1 :=
    if_pos hheld
  obtain ⟨loopback, hloopback, hresponder, hdelay, hahead⟩ := hfurnished.session
    hoffers.connection? rfl hoffers.destination hoffers.pool? hfactory
  obtain ⟨stream, hopened, hafter, hstream⟩ :=
    send_of_ok hoffers.connection? hexchange hloopback hsent
  obtain ⟨rfl, hreplies⟩ := LoopbackSession.replies_of_openStream hopened
  have hqueued := (repliesOf_of_some hafter).trans hreplies
  obtain ⟨listing, waiting, given, hlisting, hwaiting, -, hdispatched⟩ :=
    dispatched_of_accepted hsound hheld hsent
  obtain rfl := Option.some.inj (hoffers.connection?.symm.trans hlisting)
  rw [hundergo] at hdispatched
  have hopenedBefore := streamsOpened_le_undergo hsound (.send key target) connection.session
  rw [hundergo] at hopenedBefore
  have hlast := hahead (Nat.lt_of_le_of_lt hopenedBefore hfew)
  refine ⟨network.nextChannel, loopback.nextStream, network.tickets, ?_⟩
  have hanswer : loopback.answerTo network.clock network.tickets exchange.request.normalize.1 =
      ⟨loopback.nextStream, responder exchange.request.normalize.1, network.clock + delay,
        network.tickets⟩ := by
    rw [LoopbackSession.answerTo, hresponder, hdelay]
  rw [hanswer] at hqueued
  refine
    { awaits := hdispatched.awaits
      carrier := ⟨_, (hdispatched.connection? key).trans (if_pos rfl), rfl⟩
      stream := hstream
      session := ⟨_, hafter⟩
      owed := .inl (by rw [hqueued]; simp)
      only := fun other howed hsame => ?_ }
  rcases howed with hmem | hmem
  · rw [hqueued, List.mem_append, List.mem_singleton] at hmem
    rcases hmem with hold | rfl
    · have hbefore := hlast other hold
      rw [show other.stream = loopback.nextStream from hsame] at hbefore
      exact absurd hbefore (Nat.lt_irrefl _)
    · rfl
  · exact absurd hmem List.not_mem_nil

/-- An exchange that such a pool accepts waits for the answer to its normalized request. -/
theorem expects_of_accepted (hpool : network.pool? place = some pool)
    (hfactory : pool.factory = .loopback limit delay responder)
    (hexchange : network.exchange? target = some exchange) (hheld : network.holds target = true)
    (haccepted : (network.sendPooled (answering answer) place target).2 = some (.ok key))
    (hconnection : (network.deal answer (.send place target)).connection? key = some connection)
    (hinStep : InStep network connection.session)
    (hfurnished : Furnished network connection.session)
    (hfew : (network.deal answer (.send place target)).streamsOpened connection.session < 2 ^ 31) :
    let sent := network.deal answer (.send place target)
    ∃ channel stream ticket, sent.Expects
      ⟨key, channel, target, connection.session,
        ⟨stream, responder exchange.request.normalize.1, sent.clock + delay, ticket⟩⟩ [] := by
  intro sent
  obtain ⟨attempts, hattempts⟩ : ∃ attempts, pool.attempts? = some attempts :=
    Option.ne_none_iff_exists'.mp fun hnone => by simp [sendPooled, hpool, hnone] at haccepted
  have hdeal : sent = (network.attempt (answering answer) place target attempts none).1 := by
    simp only [sent, deal, hheld, if_true, sendPooled_eq hpool hattempts]
  rw [sendPooled_eq hpool hattempts] at haccepted
  obtain ⟨ready, acts, htakes, hlast⟩ :=
    takes_of_attempt hinStep.sound hheld hexchange (Option.some.inj haccepted)
  obtain ⟨found, offering, hoffers⟩ := htakes.offers
  obtain ⟨waiting, hwaiting, hrequest⟩ := htakes.exchange
  have hsent : sent = (ready.send quiet key target).1 := by rw [hdeal, hlast]
  have hok : (ready.send quiet key target).2 = .ok () := by rw [hlast]
  have hsound : Sound ready := htakes.course.sound hinStep.sound
  -- The session is the same before and after the connection takes the exchange.
  have hsession : found.session = connection.session := by
    have hlater : Later ready sent := by
      rw [hsent, ← show ready.undergo (.send key target) = _ from if_pos htakes.held]
      exact later_undergo hsound _
    obtain ⟨after, hafter, hsame⟩ := hlater.over_after hoffers.connection?
    obtain rfl := Option.some.inj (hconnection.symm.trans hafter)
    exact hsame.symm
  have hmade : offering.factory = .loopback limit delay responder := by
    obtain ⟨after, hafter, hages⟩ :=
      htakes.course.pool_ages hinStep.sound hinStep.stocked hpool
    obtain rfl := Option.some.inj (hoffers.pool?.symm.trans hafter)
    exact (hages.loopback limit delay responder).mpr hfactory
  have hrespects : ∀ act ∈ acts, act.network.Respects connection.session act.operation :=
    fun act hmem => (htakes.fits act hmem).respects rfl (by simp)
  have hkeeps : ∀ act ∈ acts, act.network.Keeps connection.session act.operation :=
    fun act hmem => (htakes.fits act hmem).keeps rfl (by simp)
  have hready := hinStep.course htakes.course fun act hmem _ => hrespects act hmem
  have hfurnishes := hfurnished.course hinStep htakes.course hrespects hkeeps
  rw [← hsession] at hready hfurnishes ⊢
  have hclock : sent.clock = ready.clock := by rw [hsent, clock_send]
  rw [hclock, hsent, ← hrequest]
  refine hoffers.expects hmade hwaiting htakes.held hok hready hfurnishes ?_
  rw [hsession, ← hsent]
  exact hfew

end Accepted

end Multiplex.Network
