import Multiplex.Proofs.Connection.Farewell
import Multiplex.Proofs.Exchange.Outcome
import Multiplex.Proofs.Loopback.Queue

/-!
# Exchanges that await an answer

An exchange that was dispatched on a loopback session waits for one answer.  An `Errand` says
which: the exchange travels over a channel of a connection, the channel has a stream of the
session, and the answer is the one that was queued for this stream.

While the exchange waits (`Expects`), the answer is still to come, and no other answer that is
still to come is for the same stream.  So the first answer that reaches the channel is the
right one, and the exchange gets it unless nobody holds it any more (`Met`).  Otherwise the
errand fails (`Done`): the exchange was aborted, by itself or with its connection.

What is still to come is kept by the session, or it is on its way already: a delivery of
several answers takes them all from their sessions first.
-/

namespace Multiplex

/-! ## Errands -/

/-- An exchange under way: the connection and the channel that it travels over, the session
with the stream, and the answer that is queued for it. -/
structure Errand where
  key : ConnectionKey
  channel : ChannelId
  target : ExchangeId
  session : SessionKey
  reply : Reply

/-- Whether somebody outside aborts an exchange in a dealing. -/
def Dealing.aborts (target : ExchangeId) : Dealing → Bool
  | .outside (.abort other _) _ => other == target
  | _ => false

namespace Network

variable {α : Type} {network first second : Network α} {errand : Errand} {id : ChannelId}
  {key : ConnectionKey} {connection : Connection} {target : ExchangeId} {past : List StreamEvent}
  {loopback before after : LoopbackSession Listener} {session place : SessionKey}
  {operation : Operation} {pending passing : List (SessionKey × Reply)} {spared : Prop}
  {answer : Answering α} {dealing : Dealing} {stream : StreamId} {acts : List (Act α)}

/-- The answers that a session has still to give. -/
def repliesOf (network : Network α) (place : SessionKey) : List Reply :=
  ((network.loopback? place).map LoopbackSession.replies).getD []

theorem repliesOf_of_some (hloopback : network.loopback? place = some loopback) :
    network.repliesOf place = loopback.replies := by
  simp [repliesOf, hloopback]

/-- An answer is still to come: the session has still to give it, or it is on its way. -/
def Owes (network : Network α) (place : SessionKey) (pending : List (SessionKey × Reply))
    (reply : Reply) : Prop :=
  reply ∈ network.repliesOf place ∨ (place, reply) ∈ pending

/-- An exchange waits for its answer, which is still to come, and which is the only one for its
stream. -/
structure Expects (network : Network α) (errand : Errand) (pending : List (SessionKey × Reply)) :
    Prop where
  awaits : network.Awaits errand.key errand.channel errand.target []
  carrier : ∃ connection, network.connection? errand.key = some connection ∧
    connection.session = errand.session
  stream : network.stream? errand.channel = some errand.reply.stream
  session : ∃ loopback, network.loopback? errand.session = some loopback
  owed : network.Owes errand.session pending errand.reply
  only : ∀ other, network.Owes errand.session pending other →
    other.stream = errand.reply.stream → other = errand.reply

/-- The answer was given: the exchange has it, or it was dropped meanwhile. -/
inductive Met (network : Network α) (errand : Errand) : Prop
  | answered : network.outcome? errand.target = some (.ok errand.reply.response) →
      Met network errand
  | dropped : (network.exchange? errand.target).isSome = true →
      network.holds errand.target = false → Met network errand

/-- Nobody waits any more: the answer was given, or the exchange failed.  For an exchange that
nobody aborts by itself, the latter takes the close of its connection. -/
inductive Done (network : Network α) (errand : Errand) (spared : Prop) : Prop
  | met : network.Met errand → Done network errand spared
  | failed (error : ExchangeError) : network.outcome? errand.target = some (.error error) →
      (spared → network.IsClosed errand.key) → Done network errand spared

/-- What has become of an errand. -/
def Fate (network : Network α) (errand : Errand) (spared : Prop)
    (pending : List (SessionKey × Reply)) : Prop :=
  network.Expects errand pending ∨ network.Done errand spared

theorem Later.isSome (hlater : Later first second)
    (hthere : (first.exchange? target).isSome = true) :
    (second.exchange? target).isSome = true := by
  obtain ⟨exchange, hexchange⟩ := Option.isSome_iff_exists.mp hthere
  obtain ⟨after, hafter, -⟩ := hlater.exchange hexchange
  rw [hafter, Option.isSome_some]

/-- An answer that was given was given for good. -/
theorem Met.later (hmet : first.Met errand) (hlater : Later first second) :
    second.Met errand := by
  cases hmet with
  | answered houtcome => exact .answered (hlater.outcome_after houtcome)
  | dropped hthere hleft =>
      refine .dropped (hlater.isSome hthere) ?_
      cases hheld : second.holds errand.target with
      | false => rfl
      | true =>
          rw [hlater.holds_before hthere hheld] at hleft
          exact Bool.noConfusion hleft

theorem Done.later (hdone : first.Done errand spared) (hlater : Later first second) :
    second.Done errand spared := by
  cases hdone with
  | met hmet => exact .met (hmet.later hlater)
  | failed error houtcome hclosed =>
      exact .failed error (hlater.outcome_after houtcome) fun hspared =>
        (hclosed hspared).later hlater

namespace Expects

/-- A wait is carried on where the channel is still listed and nothing else comes up for its
stream. -/
theorem carry (hexpects : first.Expects errand pending) (hsound : Sound first)
    (hlater : Later first second)
    (hawaits : second.Awaits errand.key errand.channel errand.target [])
    (hsession : ∃ loopback, second.loopback? errand.session = some loopback)
    (howed : second.Owes errand.session passing errand.reply)
    (honly : ∀ other, second.Owes errand.session passing other →
      other.stream = errand.reply.stream → first.Owes errand.session pending other) :
    second.Expects errand passing where
  awaits := hawaits
  carrier := by
    obtain ⟨connection, hconnection, hover⟩ := hexpects.carrier
    obtain ⟨after, hafter, hsame⟩ := hlater.over_after hconnection
    exact ⟨after, hafter, hsame.trans hover⟩
  stream := by
    obtain ⟨connection, hconnection, hlive⟩ := hexpects.awaits.registered
    rw [hlater.stream?_eq hsound.coherent hconnection hlive]
    exact hexpects.stream
  session := hsession
  owed := howed
  only other howes hstream := hexpects.only other (honly other howes hstream) hstream

variable (hexpects : network.Expects errand pending)
include hexpects

/-- Other surroundings and other orders make no difference. -/
theorem remember (surroundings : α) : Expects { network with surroundings } errand pending :=
  ⟨⟨hexpects.awaits.registered, hexpects.awaits.channel⟩, hexpects.carrier, hexpects.stream,
    hexpects.session, hexpects.owed, hexpects.only⟩

theorem rearrange (owner : PoolKey) (order : List (ConnectionId × ConnectionKey)) :
    (network.rearrange owner order).Expects errand pending :=
  ⟨⟨hexpects.awaits.registered, hexpects.awaits.channel⟩, hexpects.carrier, hexpects.stream,
    hexpects.session, hexpects.owed, hexpects.only⟩

/-- Where answers pass from their sessions to those on their way, and no other way, the wait
goes on. -/
theorem reschedule (hsame : ∃ sessions, second = { network with sessions })
    (hsession : ∃ loopback, second.loopback? errand.session = some loopback)
    (howes : ∀ other, second.Owes errand.session passing other ↔
      network.Owes errand.session pending other) : second.Expects errand passing := by
  obtain ⟨sessions, rfl⟩ := hsame
  exact ⟨⟨hexpects.awaits.registered, hexpects.awaits.channel⟩, hexpects.carrier, hexpects.stream,
    hsession, (howes _).mpr hexpects.owed, fun other hother =>
      hexpects.only other ((howes other).mp hother)⟩

theorem channel_over (hsound : Sound network) : ∃ channel,
    network.channel? errand.channel = some channel ∧ channel.session = errand.session := by
  obtain ⟨connection, hconnection, hover⟩ := hexpects.carrier
  obtain ⟨channel, hchannel, -⟩ := hexpects.awaits.channel
  obtain ⟨listing, hlisting, hlive⟩ := hexpects.awaits.registered
  obtain rfl := Option.some.inj (hlisting.symm.trans hconnection)
  exact ⟨channel, hchannel, (hsound.session_of_live hconnection hlive hchannel).trans hover⟩

/-- As long as no number has come twice, the channel listens to the stream of the answer, and
to no other. -/
theorem listens (hinStep : InStep network errand.session)
    (hfew : network.streamsOpened errand.session < 2 ^ 31)
    (hloopback : network.loopback? errand.session = some loopback) :
    (errand.reply.stream, .channel errand.channel) ∈ loopback.streams ∧
      (loopback.streams.map Prod.fst).Nodup ∧
      ∀ stream, (stream, .channel errand.channel) ∈ loopback.streams →
        stream = errand.reply.stream := by
  obtain ⟨connection, hconnection, hover⟩ := hexpects.carrier
  obtain ⟨listing, hlisting, hlive⟩ := hexpects.awaits.registered
  obtain rfl := Option.some.inj (hlisting.symm.trans hconnection)
  have hcorresponds := hinStep.corresponds hloopback hconnection hover hfew
  refine ⟨(hcorresponds.streams _ _).mpr ⟨_, hlive, hexpects.stream, rfl⟩, hcorresponds.once,
    fun stream hmem => ?_⟩
  obtain ⟨id, -, hstream, hlistener⟩ := (hcorresponds.streams _ _).mp hmem
  obtain rfl := Listener.channel.inj hlistener
  exact Option.some.inj (hstream.symm.trans hexpects.stream)

/-- Where the session answers as before, the answer is still to come, and no other answer comes
up for its stream. -/
private theorem owes_of_queues {before after : LoopbackSession Listener}
    (hinStep : InStep network errand.session)
    (hfew : network.streamsOpened errand.session < 2 ^ 31)
    (hbefore : network.loopback? errand.session = some before)
    (hafter : second.loopback? errand.session = some after) (hqueues : before.Queues after) :
    second.Owes errand.session pending errand.reply ∧
      ∀ other, second.Owes errand.session pending other →
        other.stream = errand.reply.stream → network.Owes errand.session pending other := by
  simp only [Owes, repliesOf_of_some hafter, repliesOf_of_some hbefore]
  have howed := hexpects.owed
  rw [Owes, repliesOf_of_some hbefore] at howed
  refine ⟨howed.imp_left fun hmem => hqueues.subset hmem, fun other howes hstream => ?_⟩
  refine howes.imp_left fun hmem => (hqueues.mem_or_next hmem).resolve_right fun hnumber => ?_
  -- The new answer is for a new stream, and the one of the channel is open.
  obtain ⟨hlistens, -⟩ := hexpects.listens hinStep hfew hbefore
  have hbelow := (hinStep.mirrored.ordered hbefore).below hfew _ hlistens
  rw [← hstream, hnumber] at hbelow
  exact Nat.lt_irrefl _ hbelow

end Expects

namespace Fate

variable (hfate : network.Fate errand spared pending)
include hfate

theorem remember (surroundings : α) :
    Fate { network with surroundings } errand spared pending := by
  have hlater : Later network { network with surroundings } := by
    obtain ⟨hexchange, hchannel, hconnection, hsession⟩ := Later.refl network
    exact ⟨hexchange, hchannel, hconnection, hsession⟩
  exact hfate.imp (fun hexpects => hexpects.remember surroundings) fun hdone => hdone.later hlater

theorem rearrange (owner : PoolKey) (order : List (ConnectionId × ConnectionKey)) :
    (network.rearrange owner order).Fate errand spared pending := by
  have hlater : Later network (network.rearrange owner order) := by
    obtain ⟨hexchange, hchannel, hconnection, hsession⟩ := Later.refl network
    exact ⟨hexchange, hchannel, hconnection, hsession⟩
  exact hfate.imp (fun hexpects => hexpects.rearrange owner order) fun hdone => hdone.later hlater

end Fate

/-! ## Operations -/

private theorem heard?_of_respects (hrespects : network.Respects place operation)
    {channel : Channel}
    (hchannel : network.channel? id = some channel) (hover : channel.session = place) :
    (network.happening operation).heard? id = none := by
  by_cases hnothing : network.happening operation = .nothing
  · rw [hnothing]
    rfl
  have hoccurs := occurs_happening hnothing
  generalize network.happening operation = happening at hoccurs ⊢
  cases hoccurs with
  | event other event =>
      refine if_neg ?_
      rintro rfl
      exact hrespects channel hchannel hover
  | sent | sentOn | aborted | closed => rfl

private theorem done_of_decision (hsound : Sound network) {outcome : Outcome}
    (hspares : spared → ∀ error, operation ≠ .abort errand.target error)
    (hunheard : (network.happening operation).heard? errand.channel = none)
    (hdecision : (network.happening operation).decision? errand.key errand.channel errand.target
      past = some outcome)
    (houtcome : (network.undergo operation).outcome? errand.target = some outcome) :
    (network.undergo operation).Done errand spared := by
  cases hhappening : network.happening operation with
  | nothing | sent | sentOn => simp [hhappening, Happening.decision?] at hdecision
  | event other event =>
      simp only [hhappening, Happening.decision?, Happening.heard?] at hdecision hunheard
      split at hdecision
      next heq => simp [heq] at hunheard
      next => simp at hdecision
  | aborted other error =>
      simp only [hhappening, Happening.decision?] at hdecision
      split at hdecision
      next heq =>
        obtain rfl := Option.some.inj hdecision
        refine .failed error houtcome fun hspared => absurd ?_ (hspares hspared error)
        have hsomething : network.happening operation ≠ .nothing := by simp [hhappening]
        have hoccurs := occurs_happening hsomething
        rw [hhappening, heq] at hoccurs
        cases hoccurs
        rfl
      next => simp at hdecision
  | closed other reason =>
      simp only [hhappening, Happening.decision?] at hdecision
      split at hdecision
      next heq =>
        obtain rfl := Option.some.inj hdecision
        obtain ⟨connection, -, -, hcloses⟩ := closes_of_happening hsound hhappening
        exact .failed (.aborted reason) houtcome fun _ => heq ▸ hcloses.isClosed
      next => simp at hdecision

/-- Whatever is done to a network that respects the session, the wait goes on, or the errand
is done. -/
theorem Expects.undergo (hexpects : network.Expects errand pending)
    (hinStep : InStep network errand.session)
    (hrespects : network.Respects errand.session operation)
    (hkeeps : network.Keeps errand.session operation)
    (hspares : spared → ∀ error, operation ≠ .abort errand.target error)
    (hfew : (network.undergo operation).streamsOpened errand.session < 2 ^ 31) :
    (network.undergo operation).Fate errand spared pending := by
  have hsound := hinStep.sound
  have hlater := later_undergo hsound operation
  have hthere := hexpects.awaits.isSome hsound
  cases hheld : (network.undergo operation).holds errand.target with
  | false => exact .inr (.met (.dropped (hlater.isSome hthere) hheld))
  | true =>
  have hproceeds := proceeds_undergo hsound hexpects.awaits (hlater.holds_before hthere hheld)
    operation
  obtain ⟨channel, hchannel, hover⟩ := hexpects.channel_over hsound
  have hunheard := heard?_of_respects hrespects hchannel hover
  cases hdecision : (network.happening operation).decision? errand.key errand.channel
    errand.target [] with
  | some outcome =>
      exact .inr (done_of_decision hsound hspares hunheard hdecision
        (hproceeds.decided hdecision))
  | none =>
      have hawaits := hproceeds.undecided hdecision
      rw [hunheard] at hawaits
      obtain ⟨before, hbefore⟩ := hexpects.session
      obtain ⟨after, hafter, hqueues⟩ :=
        queues_undergo hsound hinStep.mirrored hrespects hkeeps hbefore
      have hopened := streamsOpened_le_undergo hsound operation errand.session
      obtain ⟨howed, honly⟩ := hexpects.owes_of_queues hinStep (Nat.lt_of_le_of_lt hopened hfew)
        hbefore hafter hqueues
      exact .inl (hexpects.carry hsound hlater hawaits ⟨after, hafter⟩ howed honly)

/-! ## Answers that arrive -/

section Answered

variable (hsound : Sound network) (hawaits : network.Awaits key id target past)
include hsound hawaits

/-- An operation that is no event of the channel and decides nothing lets the wait go on. -/
theorem Awaits.undergo (hheld : (network.undergo operation).holds target = true)
    (hdecision : (network.happening operation).decision? key id target past = none)
    (hunheard : (network.happening operation).heard? id = none) :
    (network.undergo operation).Awaits key id target past := by
  have hthen := (later_undergo hsound operation).holds_before (hawaits.isSome hsound) hheld
  have hundecided := (proceeds_undergo hsound hawaits hthen operation).undecided hdecision
  rwa [hunheard, Option.toList_none, List.append_nil] at hundecided

omit hawaits in
theorem holds_of_answered {loopback : LoopbackSession Listener} {reply : Reply}
    {listener : Listener} (hthere : (network.exchange? target).isSome = true)
    (hheld : (network.answered session loopback reply listener).holds target = true) :
    ((network.undergo (.moveSession session (.loopback (loopback.drop reply.stream)))).undergo
        (.hears listener (.response reply.response.head))).holds target = true ∧
      (network.undergo (.moveSession session (.loopback (loopback.drop reply.stream)))).holds
        target = true := by
  have hmoved := hsound.undergo (.moveSession session (.loopback (loopback.drop reply.stream)))
  have hfirst := later_undergo hsound
    (.moveSession session (.loopback (loopback.drop reply.stream)))
  have hsecond := later_undergo hmoved (.hears listener (.response reply.response.head))
  have hbegun := (later_undergo (hmoved.undergo _) _).holds_before
    (hsecond.isSome (hfirst.isSome hthere)) hheld
  exact ⟨hbegun, hsecond.holds_before (hfirst.isSome hthere) hbegun⟩

private theorem awaits_answered {listener : Listener} (hne : listener ≠ .channel id)
    (session : SessionKey) (loopback : LoopbackSession Listener) (reply : Reply)
    (hheld : (network.answered session loopback reply listener).holds target = true) :
    (network.answered session loopback reply listener).Awaits key id target past := by
  have hother : ∀ (reached : Network α) (event : StreamEvent),
      (reached.happening (.hears listener event)).decision? key id target past = none ∧
        (reached.happening (.hears listener event)).heard? id = none := by
    intro reached event
    cases listener with
    | observer name => exact ⟨rfl, rfl⟩
    | channel other =>
        have hapart : other ≠ id := fun heq => hne (congrArg Listener.channel heq)
        exact ⟨if_neg hapart, if_neg hapart⟩
  obtain ⟨hbegun, hmoved⟩ := holds_of_answered hsound (hawaits.isSome hsound) hheld
  have hfirst := hawaits.undergo hsound hmoved rfl rfl
  have hsecond := hfirst.undergo (hsound.undergo _) hbegun (hother _ _).1 (hother _ _).2
  exact hsecond.undergo ((hsound.undergo _).undergo _) hheld (hother _ _).1 (hother _ _).2

omit hawaits in
private theorem outcome_answered {loopback : LoopbackSession Listener}
    (hawaits : network.Awaits key id target []) (session : SessionKey)
    (reply : Reply)
    (hheld : (network.answered session loopback reply (.channel id)).holds target = true) :
    (network.answered session loopback reply (.channel id)).outcome? target =
      some (.ok reply.response) := by
  obtain ⟨hbegun, hmoved⟩ := holds_of_answered hsound (hawaits.isSome hsound) hheld
  have hfirst := hawaits.undergo hsound hmoved rfl rfl
  have hsecond := (proceeds_undergo (hsound.undergo _) hfirst hmoved
    (.hears (.channel id) (.response reply.response.head))).undecided (if_pos rfl)
  refine (proceeds_undergo ((hsound.undergo _).undergo _) hsecond hbegun
    (.hears (.channel id) (.data reply.response.body true))).decided ?_
  simp [happening, Happening.decision?, Happening.heard?, StreamEvent.verdict?, lastHead?,
    wholeBody, StreamEvent.head?, StreamEvent.piece]

end Answered

/-! ## Deliveries -/

private theorem repliesOf_answered (hloopback : network.loopback? session = some loopback)
    (reply : Reply) (listener : Listener) (place : SessionKey) :
    (network.answered session loopback reply listener).repliesOf place =
      network.repliesOf place := by
  unfold repliesOf
  rw [loopback?_answered hloopback]
  split
  next heq =>
    subst heq
    rw [hloopback]
    rfl
  next => rfl

theorem course_deliveries (network : Network α) (replies : List (SessionKey × Reply)) :
    ∃ acts, Course network acts
      (replies.foldl (fun network (key, reply) => network.deliver quiet key reply) network) := by
  obtain ⟨acts, hlogs⟩ := logs_deliveries (.advance 0) rfl network replies
  exact ⟨acts, hlogs.course⟩

theorem later_deliver (hsound : Sound network) (session : SessionKey) (reply : Reply) :
    Later network (network.deliver quiet session reply) := by
  obtain ⟨acts, hcourse⟩ := course_deliveries network [(session, reply)]
  exact hcourse.later hsound

namespace Expects

private theorem skip {entry : SessionKey × Reply}
    (hexpects : network.Expects errand (entry :: pending))
    (hne : entry ≠ (errand.session, errand.reply)) : network.Expects errand pending where
  awaits := hexpects.awaits
  carrier := hexpects.carrier
  stream := hexpects.stream
  session := hexpects.session
  owed := by
    refine hexpects.owed.imp_right fun hmem => ?_
    rcases List.mem_cons.mp hmem with heq | hmem
    · exact absurd heq.symm hne
    · exact hmem
  only other howes hstream :=
    hexpects.only other (howes.imp_right (List.mem_cons_of_mem _)) hstream

section Delivery

variable {entry : SessionKey × Reply} (hexpects : network.Expects errand (entry :: pending))
  (hinStep : InStep network errand.session)
  (hfew : network.streamsOpened errand.session < 2 ^ 31)
include hexpects hinStep hfew

theorem arrives (hown : entry = (errand.session, errand.reply)) :
    (network.deliver quiet entry.1 entry.2).Met errand := by
  obtain rfl := hown
  have hsound := hinStep.sound
  obtain ⟨loopback, hloopback⟩ := hexpects.session
  obtain ⟨hmem, honce, -⟩ := hexpects.listens hinStep hfew hloopback
  have hthere := (later_deliver hsound errand.session errand.reply).isSome
    (hexpects.awaits.isSome hsound)
  dsimp only at hthere ⊢
  rw [deliver_eq hloopback, LoopbackSession.listener?_of_mem hmem honce] at hthere ⊢
  dsimp only at hthere ⊢
  cases hheld : (network.answered errand.session loopback errand.reply
      (.channel errand.channel)).holds errand.target with
  | false => exact .dropped hthere hheld
  | true => exact .answered (outcome_answered hsound hexpects.awaits errand.session errand.reply
      hheld)

/-- Any other answer reaches another listener, or none. -/
theorem passes (hother : entry ≠ (errand.session, errand.reply)) :
    (network.deliver quiet entry.1 entry.2).Expects errand pending ∨
      (network.deliver quiet entry.1 entry.2).Met errand := by
  obtain ⟨session, reply⟩ := entry
  have hsound := hinStep.sound
  have hlater := later_deliver hsound session reply
  have hthere := hlater.isSome (hexpects.awaits.isSome hsound)
  have hskipped := hexpects.skip hother
  dsimp only at hlater hthere ⊢
  cases hloopback : network.loopback? session with
  | none => exact .inl (by rwa [deliver_of_none hloopback])
  | some loopback =>
  rw [deliver_eq hloopback] at hlater hthere ⊢
  cases hlistener : loopback.listener? reply.stream with
  | none => exact .inl hskipped
  | some listener =>
  rw [hlistener] at hlater hthere
  dsimp only at hlater hthere ⊢
  cases hheld : (network.answered session loopback reply listener).holds errand.target with
  | false => exact .inr (.dropped hthere hheld)
  | true =>
  have hne : listener ≠ .channel errand.channel := by
    rintro rfl
    -- The channel listens to its own session, there to one stream, for which only one answer
    -- is still to come.
    have hmem := LoopbackSession.mem_of_listener? hlistener
    obtain ⟨channel, hchannel, hgoes⟩ := hinStep.hosting session loopback hloopback _ _ hmem
    obtain ⟨same, hsame, hover⟩ := hexpects.channel_over hsound
    obtain rfl := Option.some.inj (hchannel.symm.trans hsame)
    obtain rfl := hgoes.symm.trans hover
    obtain ⟨-, -, honly⟩ := hexpects.listens hinStep hfew hloopback
    have heq := hexpects.only reply (.inr List.mem_cons_self) (honly _ hmem)
    exact hother (by rw [heq])
  have hawaits := awaits_answered hsound hexpects.awaits hne session loopback reply hheld
  have hreplies := repliesOf_answered hloopback reply listener errand.session
  refine .inl (hskipped.carry hsound hlater hawaits ?_ ?_ fun other howes _ => ?_)
  · obtain ⟨found, hfound⟩ := hexpects.session
    rw [loopback?_answered hloopback]
    split
    next => exact ⟨_, rfl⟩
    next => exact ⟨found, hfound⟩
  · rw [Owes, hreplies]
    exact hskipped.owed
  · rwa [Owes, hreplies] at howes

/-- The errand is met by its own answer, and waits on if another is delivered. -/
theorem deliver :
    ((network.deliver quiet entry.1 entry.2).Expects errand pending ∨
        (network.deliver quiet entry.1 entry.2).Met errand) ∧
      (entry = (errand.session, errand.reply) →
        (network.deliver quiet entry.1 entry.2).Met errand) := by
  by_cases hown : entry = (errand.session, errand.reply)
  · have hmet := hexpects.arrives hinStep hfew hown
    exact ⟨.inr hmet, fun _ => hmet⟩
  · exact ⟨hexpects.passes hinStep hfew hown, fun heq => absurd heq hown⟩

end Delivery

/-- When the answers arrive that are on their way, the errand is met if its own is among
them. -/
theorem deliveries (hexpects : network.Expects errand pending)
    (hinStep : InStep network errand.session)
    (hfew : (pending.foldl (fun network (key, reply) => network.deliver quiet key reply)
      network).streamsOpened errand.session < 2 ^ 31) :
    let final := pending.foldl (fun network (key, reply) => network.deliver quiet key reply) network
    (final.Expects errand [] ∨ final.Met errand) ∧
      ((errand.session, errand.reply) ∈ pending → final.Met errand) := by
  induction pending generalizing network with
  | nil => exact ⟨.inl hexpects, fun hmem => absurd hmem List.not_mem_nil⟩
  | cons entry rest ih =>
      have hnext := hinStep.deliver entry.1 entry.2
      obtain ⟨_, hrest⟩ := course_deliveries (network.deliver quiet entry.1 entry.2) rest
      obtain ⟨_, hthis⟩ := course_deliveries network [entry]
      have hearly : (network.deliver quiet entry.1 entry.2).streamsOpened errand.session < 2 ^ 31 :=
        Nat.lt_of_le_of_lt (hrest.streamsOpened_le hnext.sound errand.session) hfew
      have hfirst := Nat.lt_of_le_of_lt (hthis.streamsOpened_le hinStep.sound errand.session) hearly
      have hlater := hrest.later hnext.sound
      obtain ⟨hpasses, hown⟩ := hexpects.deliver hinStep hfirst
      rcases hpasses with hwaits | hmet
      · obtain ⟨hthen, hlast⟩ := ih hwaits hnext hfew
        refine ⟨hthen, fun hmem => ?_⟩
        rcases List.mem_cons.mp hmem with heq | hmem
        · exact (hown heq.symm).later hlater
        · exact hlast hmem
      · exact ⟨.inr (hmet.later hlater), fun _ => hmet.later hlater⟩

end Expects

end Network

end Multiplex
