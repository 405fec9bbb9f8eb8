import Multiplex.Proofs.Connection.Farewell
import Multiplex.Proofs.Pool.Limits

/-!
# Nothing is left hanging

Whatever a pool accepted has its outcome once the pool is closed.

An exchange that a pool accepted and that still waits is listed on a connection of the pool.
That connection is open, so the pool lists it, and the close of the pool closes it.  Until its
turn has come, the exchange may already have been aborted in the close of another connection;
the reason is the same.
-/

namespace Multiplex.Network

variable {α : Type} {network first second : Network α} {key : ConnectionKey} {place : PoolKey}
  {id : ChannelId} {target : ExchangeId} {answer : Answering α} {dealings : List Dealing}

/-- Some dealing made a pool accept an exchange. -/
def AcceptedBy (network : Network α) (answer : Answering α) (dealings : List Dealing)
    (place : PoolKey) (target : ExchangeId) : Prop :=
  ∃ before after, dealings = before ++ .send place target :: after ∧
    (network.deals answer before).accepts answer place (.send place target) = true

/-- A connection was opened by a pool. -/
def Belongs (network : Network α) (key : ConnectionKey) (place : PoolKey) : Prop :=
  ∃ connection, network.connection? key = some connection ∧ connection.destination = .pool place

/-! ## Where accepted exchanges are -/

theorem Belongs.turns {operation : Operation} (hbelongs : Belongs first key place)
    (hturns : Turns first operation second) : Belongs second key place := by
  obtain ⟨before, hbefore, hdestination⟩ := hbelongs
  cases hturns with
  | rests _ hrests =>
      obtain ⟨after, hafter, hstays⟩ := (hrests.connection key).exists_after hbefore
      exact ⟨after, hafter, (hstays.destination place).mpr hdestination⟩
  | shuts => exact ⟨before, hbefore, hdestination⟩
  | opens _ hopens =>
      have hne : key ≠ first.nextConnection := by
        rintro rfl
        simp at hbefore
      exact ⟨before, by rw [hopens.connection?, if_neg hne, hbefore], hdestination⟩
  | misses _ hmisses => exact ⟨before, by rw [hmisses.connection?, hbefore], hdestination⟩
  | @ends _ id _ _ hconnection =>
      exact ⟨before.drop id, by rw [hconnection, hbefore, Option.map_some], hdestination⟩
  | @closes _ other _ connection _ _ _ hconnection _ hothers =>
      by_cases heq : key = other
      · subst heq
        obtain rfl := Option.some.inj (hconnection.symm.trans hbefore)
        exact ⟨{ connection with isClosed := true, live := [] }, by rw [hothers, if_pos rfl],
          hdestination⟩
      · exact ⟨before, by rw [hothers, if_neg heq, hbefore], hdestination⟩
  | @dispatches other connection _ _ _ _ hconnection _ hothers =>
      by_cases heq : key = other
      · subst heq
        obtain rfl := Option.some.inj (hconnection.symm.trans hbefore)
        exact ⟨connection.register first.nextChannel, by rw [hothers, if_pos rfl], hdestination⟩
      · exact ⟨before, by rw [hothers, if_neg heq, hbefore], hdestination⟩

/-- What a pool accepts is watched on one of its connections. -/
theorem watched_of_accepts (hsound : Sound network) (hstocked : Stocked network)
    (haccepts : network.accepts answer place (.send place target) = true) :
    ∃ key id, (network.deal answer (.send place target)).Watched key id target ∧
      (network.deal answer (.send place target)).Belongs key place := by
  obtain ⟨acts, hlogs⟩ := logs_send hsound answer place target
  have hone : acts.countP (Act.dispatches place) = 1 := by
    rw [hlogs.dispatches, haccepts]
    rfl
  -- The one act that dispatches is a send on a connection that the pool offered.
  obtain ⟨act, hmem, hdispatches⟩ := List.countP_pos_iff.mp (hone ▸ Nat.one_pos)
  obtain ⟨earlier, later, rfl, hbefore, hafter⟩ := hlogs.course.split hmem
  have hready : Sound act.network := hbefore.sound hsound
  have hthen : Stocked act.network := hbefore.stocked hsound hstocked
  obtain ⟨reached, operation⟩ := act
  have hdoes := hlogs.fits _ hmem
  cases operation with
  | send key other =>
      cases hdoes with
      | sends hoffers =>
          simp only [Act.dispatches, Bool.and_eq_true] at hdispatches
          obtain ⟨⟨hheld, hsent⟩, -⟩ := hdispatches
          have haccepted : (reached.send quiet key target).2 = .ok () := by
            cases hresult : (reached.send quiet key target).2 with
            | error error => simp [hresult, Except.isOk, Except.toBool] at hsent
            | ok => rfl
          obtain ⟨connection, exchange, stream, -, -, -, hdispatched⟩ :=
            dispatched_of_accepted hready hheld haccepted
          have hnow := hready.undergo (.send key target)
          have hbelongs : reached.Belongs key place :=
            ⟨_, hoffers.connection?, hoffers.destination⟩
          refine ⟨key, reached.nextChannel, hafter.watched hnow hdispatched.watched, ?_⟩
          refine hafter.induction (motive := fun network => network.Belongs key place) hnow
            (hthen.undergo hready _) (fun _ _ hkept => hkept) (fun _ _ _ hkept => hkept)
            (hbelongs.turns (turns_undergo hready hthen _)) ?_
          exact fun reached operation hsound hstocked _ hkept =>
            hkept.turns (turns_undergo hsound hstocked operation)
  | _ => exact Bool.noConfusion hdispatches

theorem Belongs.deals (hbelongs : network.Belongs key place) (hsound : Sound network)
    (hstocked : Stocked network) (answer : Answering α) (dealings : List Dealing) :
    (network.deals answer dealings).Belongs key place :=
  deals_induction (motive := fun reached => reached.Belongs key place) hsound hstocked
    (fun _ _ hkept => hkept) (fun _ _ _ hkept => hkept) answer dealings hbelongs
    fun _ _ _ operation hsound hstocked _ hkept =>
      hkept.turns (turns_undergo hsound hstocked operation)

/-- What a pool accepted once is watched on one of its connections ever after. -/
theorem AcceptedBy.watched (haccepted : network.AcceptedBy answer dealings place target)
    (hsound : Sound network) (hstocked : Stocked network) :
    ∃ key id, (network.deals answer dealings).Watched key id target ∧
      (network.deals answer dealings).Belongs key place := by
  obtain ⟨before, after, rfl, haccepts⟩ := haccepted
  have hready : Sound (network.deals answer before) := hsound.deals answer before
  have hthen : Stocked (network.deals answer before) := hstocked.deals hsound answer before
  obtain ⟨key, id, hwatched, hbelongs⟩ := watched_of_accepts hready hthen haccepts
  have hnow := hready.deal answer (.send place target)
  have hstock := hthen.deals hready answer [.send place target]
  rw [deals_append, deals_cons]
  exact ⟨key, id, hwatched.deals hnow answer after, hbelongs.deals hnow hstock answer after⟩

/-! ## What a close makes of them -/

theorem Watched.isSome (hwatched : network.Watched key id target) :
    (network.exchange? target).isSome = true := by
  obtain ⟨exchange, hexchange, -⟩ := hwatched
  rw [hexchange, Option.isSome_some]

theorem exists_outcome_of_isResolved (hresolved : network.isResolved target = true) :
    ∃ outcome, network.outcome? target = some outcome := by
  obtain ⟨exchange, hexchange, hdecided⟩ := (Option.any_eq_true ..).mp hresolved
  obtain ⟨outcome, houtcome⟩ := Option.isSome_iff_exists.mp hdecided
  exact ⟨outcome, by rw [outcome?, hexchange, Option.bind_some, houtcome]⟩

/-- When a connection is closed on request, an exchange that waits is aborted, or it still
waits, but not on this connection. -/
private theorem outcome_of_close (hsound : Sound network) {other : ConnectionKey}
    (hwatched : network.Watched key id target) (hunresolved : network.isResolved target = false)
    (hheld : network.holds target = true) :
    (network.undergo (.close other .requested)).outcome? target =
        some (.error (.aborted .requested)) ∨
      (network.undergo (.close other .requested)).isResolved target = false ∧ key ≠ other := by
  show (network.close quiet other .requested).1.outcome? target = _ ∨
    (network.close quiet other .requested).1.isResolved target = false ∧ key ≠ other
  obtain ⟨exchange, hexchange, hwatch⟩ := hwatched
  have hkept : exchange.isHeld = true := by simpa [holds, hexchange] using hheld
  have hwaits : exchange.isResolved = false := by simpa [isResolved, hexchange] using hunresolved
  have hnone : exchange.outcome = none := by simpa [Exchange.isResolved] using hwaits
  obtain ⟨hregistered, channel, hchannel, hslot⟩ := hwatch hkept hwaits
  obtain ⟨-, connection, hconnection, hlive, hopen⟩ := hsound.housed.of_registered hregistered
  cases hother : network.isOpen other with
  | false =>
      rw [close_of_not_open hother]
      refine .inr ⟨hunresolved, ?_⟩
      rintro rfl
      simp [isOpen, hconnection, hopen] at hother
  | true =>
      obtain ⟨closing, hclosing, hstill⟩ := isOpen_iff.mp hother
      obtain ⟨second, heq, hcloses⟩ :=
        closes_of_open hsound.coherent hsound.housed hclosing hstill .requested
      rw [heq]
      by_cases hmem : target ∈ network.liveExchanges closing
      · exact .inl (hcloses.outcome_after hexchange hnone hmem)
      · refine .inr ⟨?_, ?_⟩
        · rw [isResolved, hcloses.exchange?, if_neg hmem, hexchange, Option.any_some, hwaits]
        · -- On this connection the exchange would have been under way.
          rintro rfl
          obtain rfl := Option.some.inj (hconnection.symm.trans hclosing)
          obtain ⟨found, _, hfound, -, hreleased, -⟩ := hsound.of_registered hregistered
          obtain rfl := Option.some.inj (hchannel.symm.trans hfound)
          have hcarried : network.carried? id = some target :=
            carried?_eq_some.mpr ⟨channel, hchannel, hreleased, hslot, hheld⟩
          exact hmem (List.mem_filterMap.mpr ⟨id, hlive, hcarried⟩)

/-- An exchange that waits on one of the connections that are closed one after the other is
aborted. -/
private theorem outcome_of_closeInOrder (hsound : Sound network) {order : List ConnectionKey}
    (hwatched : network.Watched key id target) (hmem : key ∈ order)
    (hunresolved : network.isResolved target = false)
    (hheld : (network.closeInOrder quiet order).holds target = true) :
    (network.closeInOrder quiet order).outcome? target =
      some (.error (.aborted .requested)) := by
  induction order generalizing network with
  | nil => simp at hmem
  | cons other rest ih =>
      let closed := network.undergo (.close other .requested)
      have hthen : Sound closed := hsound.undergo _
      have hrest : Later closed (closed.closeInOrder quiet rest) :=
        (logs_closeInOrder closed ⟨0⟩ rest).course.later hthen
      have hlater : Later network (closed.closeInOrder quiet rest) :=
        (later_undergo hsound _).trans hrest
      have hbefore : network.holds target = true :=
        hlater.holds_before hwatched.isSome hheld
      rcases outcome_of_close hsound hwatched hunresolved hbefore with
        houtcome | ⟨hwaits, hne⟩
      · exact hrest.outcome_after houtcome
      · have hlast : key ∈ rest := (List.mem_cons.mp hmem).resolve_left hne
        have hstill : closed.Watched key id target := hwatched.undergo hsound _
        exact ih hthen hstill hlast hwaits hheld

/-- What a pool accepted and somebody still holds is settled by the close of the pool: what
waited is aborted, and the rest keeps its outcome. -/
theorem settled_of_closePool (hsound : Sound network) (hstocked : Stocked network)
    (hcleared : Cleared network place) (hwatched : network.Watched key id target)
    (hbelongs : network.Belongs key place)
    (hheld : (network.closePool quiet place).holds target = true) :
    (network.isResolved target = false →
      (network.closePool quiet place).outcome? target = some (.error (.aborted .requested))) ∧
    (network.isResolved target = true →
      (network.closePool quiet place).outcome? target = network.outcome? target) := by
  obtain ⟨acts, hlogs⟩ := logs_close network place
  have hlater : Later network (network.closePool quiet place) := hlogs.course.later hsound
  refine ⟨fun hunresolved => ?_, fun hresolved => ?_⟩
  · have hbefore : network.holds target = true := hlater.holds_before hwatched.isSome hheld
    obtain ⟨⟨hregistered, -⟩, -⟩ := hsound.tracks hwatched hbefore hunresolved
    obtain ⟨-, connection, hconnection, hlive, hopen⟩ := hsound.housed.of_registered hregistered
    obtain ⟨same, hsame, hdestination⟩ := hbelongs
    obtain rfl := Option.some.inj (hconnection.symm.trans hsame)
    -- The connection is open, so the pool lists it, and the pool is open too.
    obtain ⟨pool, hpool, -⟩ := hsound.housed.numbered hconnection hdestination
    have hlisted : (connection.id, key) ∈ pool.listed :=
      (hstocked.listed hpool).mpr ⟨connection, hconnection, rfl, hdestination, hopen⟩
    have hstill : pool.isClosed = false := by
      cases hclosed : pool.isClosed with
      | false => rfl
      | true => simp [hcleared pool hpool hclosed] at hlisted
    rw [closePool_of_open hpool hstill] at hheld ⊢
    exact outcome_of_closeInOrder (hsound.undergo _) (hwatched.undergo hsound _)
      (List.mem_map.mpr ⟨_, hlisted, rfl⟩) hunresolved hheld
  · obtain ⟨outcome, houtcome⟩ := exists_outcome_of_isResolved hresolved
    rw [houtcome]
    exact hlater.outcome_after houtcome

/-- When a pool has been closed, every exchange that it ever accepted and that somebody still
holds has an outcome: what waited before the close is aborted with its reason, and the rest
keeps the outcome that it had.  Every connection that the pool ever opened is closed and carries
nothing. -/
theorem closePool_leaves_nothing (surroundings : α) (answer : Answering α)
    (dealings : List Dealing) (place : PoolKey) :
    let network := (blank surroundings).deals answer dealings
    let final := network.deal answer (.close place)
    (∀ target, (blank surroundings).AcceptedBy answer dealings place target →
      final.holds target = true → final.isResolved target = true ∧
        (network.isResolved target = false →
          final.outcome? target = some (.error (.aborted .requested))) ∧
        (network.isResolved target = true → final.outcome? target = network.outcome? target)) ∧
    ∀ key connection, final.connection? key = some connection →
      connection.destination = .pool place →
        connection.status = .closed ∧ connection.channelCount = 0 := by
  intro network final
  have hsound : Sound network := (sound_blank surroundings).deals answer dealings
  have hstocked : Stocked network :=
    (stocked_blank surroundings).deals (sound_blank surroundings) answer dealings
  have hcleared : Cleared network place := by
    refine Cleared.deals ?_ (sound_blank surroundings) (stocked_blank surroundings) answer dealings
    intro pool hpool
    simp at hpool
  have hfinal : Sound final := hsound.deal answer (.close place)
  refine ⟨fun target haccepted hheld => ?_, fun key connection hconnection hdestination => ?_⟩
  · obtain ⟨key, id, hwatched, hbelongs⟩ :=
      haccepted.watched (sound_blank surroundings) (stocked_blank surroundings)
    obtain ⟨haborted, hkept⟩ :=
      settled_of_closePool hsound hstocked hcleared hwatched hbelongs hheld
    refine ⟨?_, haborted, hkept⟩
    cases hresolved : network.isResolved target with
    | false => exact isResolved_of_outcome (haborted hresolved)
    | true =>
        obtain ⟨outcome, houtcome⟩ := exists_outcome_of_isResolved hresolved
        exact isResolved_of_outcome ((hkept hresolved).trans houtcome)
  · obtain ⟨pool, hpool, -⟩ := hfinal.housed.numbered hconnection hdestination
    have hthere : (network.pool? place).isSome = true := by
      cases hnone : network.pool? place with
      | some => rfl
      | none =>
          have hsame : final = network := by simp [final, deal, closePool, hnone]
          simp [hsame, hnone] at hpool
    obtain ⟨same, hsame, -, hempty⟩ := emptied_of_close hsound hstocked hcleared hthere
    obtain rfl := Option.some.inj (hpool.symm.trans hsame)
    have hclosed : connection.isClosed = true := by
      cases hopen : connection.isClosed with
      | true => rfl
      | false =>
          have hlisted : (connection.id, key) ∈ pool.listed :=
            ((hstocked.deals hsound answer [.close place]).listed hpool).mpr
              ⟨connection, hconnection, rfl, hdestination, hopen⟩
          simp [hempty] at hlisted
    simp [Connection.status, Connection.channelCount, hclosed,
      hfinal.housed.closed hconnection hclosed]

/-- An exchange that waits when its pool is closed is aborted. -/
theorem closePool_leaves_nothing_waiting :
    let dealings := firstDealings ++ [.send ⟨1⟩ ⟨1⟩]
    let network := (blank ()).deals steadfast dealings
    let final := network.deal steadfast (.close ⟨1⟩)
    (blank ()).AcceptedBy steadfast dealings ⟨1⟩ ⟨1⟩ ∧ final.holds ⟨1⟩ = true ∧
      network.isResolved ⟨1⟩ = false ∧
      final.outcome? ⟨1⟩ = some (.error (.aborted .requested)) := by
  intro dealings network final
  have haccepts : ((blank ()).deals steadfast firstDealings).accepts steadfast ⟨1⟩
      (.send ⟨1⟩ ⟨1⟩) = true := by decide +kernel
  have hheld : final.holds ⟨1⟩ = true := by decide +kernel
  have hwaits : network.isResolved ⟨1⟩ = false := by decide +kernel
  have haccepted : (blank ()).AcceptedBy steadfast dealings ⟨1⟩ ⟨1⟩ :=
    ⟨firstDealings, [], rfl, haccepts⟩
  have hleft := closePool_leaves_nothing () steadfast dealings ⟨1⟩
  exact ⟨haccepted, hheld, hwaits, (hleft.1 ⟨1⟩ haccepted hheld).2.1 hwaits⟩

end Multiplex.Network
