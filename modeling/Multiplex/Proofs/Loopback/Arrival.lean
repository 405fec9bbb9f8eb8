import Multiplex.Proofs.Loopback.Errand

/-!
# Answers that arrive in time

Dealings follow one another, and an errand waits until its answer is delivered.  The answers
of a loopback session are delivered when the clock advances, all that are due, or one by one.
Until then other exchanges may be dispatched, aborted and answered in any order: as long as
nobody aborts the exchange or closes its connection, the answer arrives.
-/

namespace Multiplex.Network

variable {α : Type} {network first second : Network α} {errand : Errand}
  {loopback : LoopbackSession Listener} {place session : SessionKey} {operation : Operation}
  {spared : Prop} {answer : Answering α} {dealing : Dealing} {acts : List (Act α)} {reply : Reply}

/-- Whether an answer of a session is delivered in a dealing: its time has come, and it is its
turn. -/
def Delivers (network : Network α) (place : SessionKey) (reply : Reply) : Dealing → Prop
  | .advance milliseconds => reply.due ≤ network.clock + milliseconds
  | .deliver session found => session = place ∧ found = reply ∧ reply.due ≤ network.clock
  | _ => False

/-! ## Deliveries -/

namespace Expects

variable (hexpects : network.Expects errand [])
include hexpects

theorem elapse (milliseconds : Nat) : (network.elapse milliseconds).Expects errand [] :=
  ⟨⟨hexpects.awaits.registered, hexpects.awaits.channel⟩, hexpects.carrier, hexpects.stream,
    hexpects.session, hexpects.owed, hexpects.only⟩

/-- The answers whose time has come are on their way. -/
theorem settle : network.settle.Expects errand network.dueReplies := by
  have hloopback := network.loopback?_settle errand.session
  obtain ⟨loopback, hfound⟩ := hexpects.session
  rw [hfound, Option.map_some] at hloopback
  refine hexpects.reschedule network.settle_eq ⟨_, hloopback⟩ fun other => ?_
  rw [Owes, Owes, repliesOf_of_some hloopback, repliesOf_of_some hfound, mem_dueReplies]
  simp only [LoopbackSession.settle, List.mem_filter, decide_eq_true_eq, List.not_mem_nil,
    or_false]
  constructor
  · rintro (⟨hmem, -⟩ | ⟨same, hsame, hmem, -⟩)
    · exact hmem
    · obtain rfl := Option.some.inj (hfound.symm.trans hsame)
      exact hmem
  · intro hmem
    rcases Nat.lt_or_ge network.clock other.due with hlater | hdue
    · exact .inl ⟨hmem, hlater⟩
    · exact .inr ⟨loopback, hfound, hmem, hdue⟩

theorem erase (hloopback : network.loopback? session = some loopback)
    (hmem : reply ∈ loopback.replies) :
    (network.setTransport session (.loopback
      { loopback with replies := loopback.replies.erase reply })).Expects errand
        [(session, reply)] := by
  have hset := loopback?_setTransport hloopback
    { loopback with replies := loopback.replies.erase reply } errand.session
  obtain ⟨found, hfound⟩ := hexpects.session
  split at hset
  next heq =>
    subst heq
    obtain rfl := Option.some.inj (hloopback.symm.trans hfound)
    refine hexpects.reschedule ⟨_, rfl⟩ ⟨_, hset⟩ fun other => ?_
    rw [Owes, Owes, repliesOf_of_some hset, repliesOf_of_some hfound]
    simp only [List.mem_singleton, Prod.mk.injEq, true_and, List.not_mem_nil, or_false]
    constructor
    · rintro (hthere | rfl)
      · exact List.mem_of_mem_erase hthere
      · exact hmem
    · intro hthere
      by_cases hsame : other = reply
      · exact .inr hsame
      · exact .inl ((List.mem_erase_of_ne hsame).mpr hthere)
  next hne =>
    have hthere := hset.trans hfound
    refine hexpects.reschedule ⟨_, rfl⟩ ⟨found, hthere⟩ fun other => ?_
    rw [Owes, Owes, repliesOf_of_some hthere, repliesOf_of_some hfound]
    simp [hne]

variable (hinStep : InStep network errand.session)
include hinStep

/-- All answers that are due arrive when the clock advances. -/
theorem advance (milliseconds : Nat)
    (hfew : (network.deal answer (.advance milliseconds)).streamsOpened errand.session < 2 ^ 31) :
    let final := network.deal answer (.advance milliseconds)
    (final.Expects errand [] ∨ final.Met errand) ∧
      (errand.reply.due ≤ network.clock + milliseconds → final.Met errand) := by
  have hpasses : network.Respects errand.session (.elapse milliseconds) := trivial
  obtain ⟨loopback, hloopback⟩ := hexpects.session
  have hmem : errand.reply ∈ loopback.replies := by
    rcases hexpects.owed with hmem | hmem
    · rwa [repliesOf_of_some hloopback] at hmem
    · exact absurd hmem List.not_mem_nil
  obtain ⟨hwaits, harrives⟩ := (hexpects.elapse milliseconds).settle.deliveries
    (hinStep.undergo hpasses).settle hfew
  exact ⟨hwaits, fun hdue => harrives (mem_dueReplies.mpr ⟨loopback, hloopback, hmem, hdue⟩)⟩

theorem deliverOne (session : SessionKey) (reply : Reply)
    (hfew : (network.deliverOne quiet session reply).streamsOpened errand.session < 2 ^ 31) :
    let final := network.deliverOne quiet session reply
    (final.Expects errand [] ∨ final.Met errand) ∧
      (session = errand.session → reply = errand.reply → reply.due ≤ network.clock →
        final.Met errand) := by
  have hdue : ∀ loopback, network.loopback? errand.session = some loopback →
      errand.reply.due ≤ network.clock → errand.reply ∈ loopback.due network.clock := by
    intro loopback hloopback htime
    refine List.mem_filter.mpr ⟨?_, decide_eq_true htime⟩
    rcases hexpects.owed with hmem | hmem
    · rwa [repliesOf_of_some hloopback] at hmem
    · exact absurd hmem List.not_mem_nil
  unfold Network.deliverOne at hfew ⊢
  split
  next hnone =>
    refine ⟨.inl hexpects, ?_⟩
    rintro rfl
    obtain ⟨loopback, hloopback⟩ := hexpects.session
    simp [hloopback] at hnone
  next loopback hloopback =>
    rw [hloopback] at hfew
    dsimp only at hfew
    split
    next hthere =>
      rw [if_pos hthere] at hfew
      have hthen := hexpects.erase hloopback (List.mem_filter.mp hthere).1
      obtain ⟨hwaits, harrives⟩ := hthen.deliveries
        (hinStep.reschedule hloopback (loopback.replies.erase reply)) hfew
      exact ⟨hwaits, fun hsession hreply _ => harrives (by rw [hsession, hreply]; simp)⟩
    next hnot =>
      refine ⟨.inl hexpects, ?_⟩
      rintro rfl rfl htime
      exact absurd (hdue loopback hloopback htime) hnot

end Expects

/-! ## Dealings -/

/-- What pools do aborts no exchange by itself. -/
theorem Does.spares {target : ExchangeId} (hdoes : network.Does dealing operation)
    (haborts : dealing.aborts target = false) (error : ExchangeError) :
    operation ≠ .abort target error := by
  rintro rfl
  cases hdoes with
  | acts => simp [Dealing.aborts] at haborts

namespace Fate

/-- What operations do that respect the session. -/
theorem course (hfate : network.Fate errand spared []) (hinStep : InStep network errand.session)
    (hcourse : Course network acts second)
    (hrespects : ∀ act ∈ acts, act.network.Respects errand.session act.operation)
    (hkeeps : ∀ act ∈ acts, act.network.Keeps errand.session act.operation)
    (hspares : spared → ∀ act ∈ acts, ∀ error, act.operation ≠ .abort errand.target error)
    (hfew : second.streamsOpened errand.session < 2 ^ 31) : second.Fate errand spared [] := by
  refine hinStep.induction
    (motive := fun reached => reached.streamsOpened errand.session < 2 ^ 31 →
      reached.Fate errand spared []) (fun reached surroundings hreached hless => ?_)
    (fun reached owner order hreached hless => ?_) hcourse hrespects (fun _ => hfate)
    (fun reached operation hreached hmem hmotive hless => ?_) hfew
  · exact (hreached hless).remember surroundings
  · exact (hreached hless).rearrange owner order
  · have hopened := streamsOpened_le_undergo hreached.sound operation errand.session
    rcases hmotive (Nat.lt_of_le_of_lt hopened hless) with hexpects | hdone
    · exact hexpects.undergo hreached (hrespects _ hmem) (hkeeps _ hmem)
        (fun hspared => hspares hspared _ hmem) hless
    · exact .inr (hdone.later (later_undergo hreached.sound operation))

/-- What a dealing makes of an errand that respects its session and does not make it over. -/
theorem deal (hfate : network.Fate errand spared []) (hinStep : InStep network errand.session)
    (answer : Answering α) (dealing : Dealing) (hmoves : dealing.moves errand.session = false)
    (hrespects : ∀ operation hoperation, dealing = .outside operation hoperation →
      network.Respects errand.session operation)
    (hspares : spared → dealing.aborts errand.target = false)
    (hfew : (network.deal answer dealing).streamsOpened errand.session < 2 ^ 31) :
    (network.deal answer dealing).Fate errand spared [] := by
  obtain ⟨acts, hcourse, hfits⟩ := course_deal hinStep.sound answer dealing
  have hpools : dealing.isDelivery = false →
      (∀ operation hoperation, dealing ≠ .outside operation hoperation) →
      (network.deal answer dealing).Fate errand spared [] := fun hdelivery hinside =>
    hfate.course hinStep hcourse (fun act hmem => (hfits act hmem).respects hdelivery hinside)
      (fun act hmem => (hfits act hmem).keeps hdelivery hinside)
      (fun hspared act hmem => (hfits act hmem).spares (hspares hspared)) hfew
  rcases hfate with hexpects | hdone
  · cases dealing with
    | advance milliseconds =>
        exact (hexpects.advance hinStep milliseconds hfew).1.imp_right .met
    | deliver session reply =>
        exact (hexpects.deliverOne hinStep session reply hfew).1.imp_right .met
    | outside operation hoperation =>
        exact hexpects.undergo hinStep (hrespects operation hoperation rfl) (keeps_of_moves hmoves)
          (fun hspared =>
            have hdoes : network.Does (.outside operation hoperation) operation := .acts ..
            hdoes.spares (hspares hspared)) hfew
    | send | acquire | close | rearrange => exact hpools rfl (by simp)
  · exact .inr (hdone.later (hcourse.later hinStep.sound))

/-- What becomes of an errand in dealings that respect its session and do not make it over. -/
theorem deals {dealings : List Dealing} (hfate : network.Fate errand spared [])
    (hinStep : InStep network errand.session)
    (hrespected : Respected answer errand.session network dealings)
    (hmoves : ∀ dealing ∈ dealings, dealing.moves errand.session = false)
    (hspares : spared → ∀ dealing ∈ dealings, dealing.aborts errand.target = false)
    (hfew : (network.deals answer dealings).streamsOpened errand.session < 2 ^ 31) :
    (network.deals answer dealings).Fate errand spared [] := by
  induction dealings generalizing network with
  | nil => exact hfate
  | cons dealing rest ih =>
      obtain ⟨hfirst, hrest⟩ := hrespected
      obtain ⟨hmove, hmoves⟩ := List.forall_mem_cons.mp hmoves
      have hrespects : ∀ operation hoperation, dealing = .outside operation hoperation →
          network.Respects errand.session operation := by
        rintro operation hoperation rfl
        exact hfirst
      have hnext := hinStep.deal answer dealing hrespects
      have hopened := streamsOpened_le_deals hnext.sound answer rest errand.session
      have hthen := hfate.deal hinStep answer dealing hmove hrespects
        (fun hspared => hspares hspared dealing List.mem_cons_self)
        (Nat.lt_of_le_of_lt hopened hfew)
      exact ih hthen hnext hrest hmoves
        (fun hspared other hmem => hspares hspared other (List.mem_cons_of_mem _ hmem)) hfew

end Fate

/-- An errand that waits for its answer is met when the answer is delivered. -/
theorem Expects.met (hexpects : network.Expects errand []) (hinStep : InStep network errand.session)
    (hdelivers : network.Delivers errand.session errand.reply dealing)
    (hfew : (network.deal answer dealing).streamsOpened errand.session < 2 ^ 31) :
    (network.deal answer dealing).Met errand := by
  cases dealing with
  | advance milliseconds => exact (hexpects.advance hinStep milliseconds hfew).2 hdelivers
  | deliver session reply =>
      obtain ⟨hsession, hreply, hdue⟩ := hdelivers
      exact (hexpects.deliverOne hinStep session reply hfew).2 hsession hreply (hreply ▸ hdue)
  | _ => exact hdelivers.elim

end Multiplex.Network
