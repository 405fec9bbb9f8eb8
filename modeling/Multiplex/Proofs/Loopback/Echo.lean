import Multiplex.Proofs.Pool.Acceptance

/-!
# Every exchange gets its own answer

The answer to an exchange travels from the request to a stream, from the stream to an answer
that the session has still to give, from there to the listener of the stream, and through a
channel back to the exchange.  All this is shared by many exchanges, and still nothing is mixed
up: an exchange that a pool accepted gets the answer to its own request, or no answer at all.

It gets the answer when this is delivered, unless the exchange was aborted before or its
connection closed.  What is done with other exchanges and other connections meanwhile does not
matter.  All of this is as long as the session does not run out of numbers for its streams.
-/

namespace Multiplex

open Http

/-! ## Echoes -/

/-- A response that echoes a request: its body, and the path that the target has once it is
normalized, where that can stand in a field. -/
structure Echoes (response : Response) (request : Request) : Prop where
  status : response.head.status = 200
  body : response.body = request.body
  path : response.head.fields.values .echoPath =
    (request.normalize.1.uri.pathAndQuery?.bind fun target =>
      FieldValue.ofOctets? (Octets.ofText target.text)).toList

private theorem echoes_echo (request : Request) : Echoes (echo request.normalize.1) request where
  status := rfl
  body := request.body_normalize
  path := by
    unfold echo
    cases request.normalize.1.uri.pathAndQuery? with
    | none => rfl
    | some target =>
        rw [Option.bind_some]
        dsimp only
        cases FieldValue.ofOctets? (Octets.ofText target.text) with
        | none => rfl
        | some value => exact Fields.values_append_self Fields.empty .echoPath value

namespace Network

variable {α : Type} {network : Network α} {answer : Answering α} {place : SessionKey}
  {errand : Errand} {before after waiting rest : List Dealing} {dealing : Dealing}

/-! ## The end of an errand -/

/-- Dealings that respect a session are so from both sides of any moment between them. -/
theorem Respected.append (hrespected : Respected answer place network (before ++ after)) :
    Respected answer place network before ∧
      Respected answer place (network.deals answer before) after := by
  induction before generalizing network with
  | nil => exact ⟨trivial, hrespected⟩
  | cons dealing rest ih =>
      obtain ⟨hfirst, hrest⟩ := hrespected
      obtain ⟨hearly, hlate⟩ := ih hrest
      exact ⟨⟨hfirst, hearly⟩, hlate⟩

section Errands

variable (hexpects : network.Expects errand []) (hinStep : InStep network errand.session)
  (hrespected : Respected answer errand.session network after)
  (hmoves : ∀ dealing ∈ after, dealing.moves errand.session = false)
  (hfew : (network.deals answer after).streamsOpened errand.session < 2 ^ 31)
  (hheld : (network.deals answer after).holds errand.target = true)
include hexpects hinStep hrespected hmoves hfew hheld

private theorem Expects.only_answer {response : Response}
    (houtcome : (network.deals answer after).outcome? errand.target = some (.ok response)) :
    response = errand.reply.response := by
  have hfinal : Sound (network.deals answer after) := hinStep.sound.deals answer after
  have hfate : (network.deals answer after).Fate errand False [] :=
    Fate.deals (.inl hexpects) hinStep hrespected hmoves (fun hspared => hspared.elim) hfew
  rcases hfate with hwaits | hmet | ⟨error, hfailed, -⟩
  · obtain ⟨exchange, hexchange, -, hnone, -⟩ := hwaits.awaits.waits hfinal hheld
    simp [outcome?, hexchange, hnone] at houtcome
  · cases hmet with
    | answered hown =>
        have hsame := Option.some.inj (houtcome.symm.trans hown)
        exact Except.ok.inj hsame
    | dropped _ hleft => exact absurd hheld (by simp [hleft])
  · exact absurd (houtcome.symm.trans hfailed) (by simp)

/-- The exchange gets the answer when it is delivered, unless somebody aborts the exchange or
closes the connection before. -/
theorem Expects.answered (hafter : after = waiting ++ dealing :: rest)
    (hspared : ∀ other ∈ waiting, other.aborts errand.target = false)
    (hopen : (network.deals answer waiting).isOpen errand.key = true)
    (hdelivers : (network.deals answer waiting).Delivers errand.session errand.reply dealing) :
    ((network.deals answer waiting).deal answer dealing).outcome? errand.target =
      some (.ok errand.reply.response) := by
  subst hafter
  obtain ⟨hearly, hlate⟩ := hrespected.append
  have hreached : InStep (network.deals answer waiting) errand.session := hinStep.deals hearly
  have hthen : InStep ((network.deals answer waiting).deal answer dealing) errand.session :=
    hreached.deal answer dealing fun operation hoperation heq => by
      subst heq
      exact hlate.1
  have hall : network.deals answer (waiting ++ dealing :: rest) =
      ((network.deals answer waiting).deal answer dealing).deals answer rest := by
    rw [deals_append, deals_cons]
  rw [hall] at hfew hheld
  have hsoon := Nat.lt_of_le_of_lt
    (streamsOpened_le_deals hthen.sound answer rest errand.session) hfew
  have hearlier : (network.deals answer waiting).streamsOpened errand.session < 2 ^ 31 :=
    Nat.lt_of_le_of_lt
      (streamsOpened_le_deals hreached.sound answer [dealing] errand.session) hsoon
  have hfate : (network.deals answer waiting).Fate errand True [] :=
    Fate.deals (.inl hexpects) hinStep hearly
      (fun other hmem => hmoves other (List.mem_append_left _ hmem)) (fun _ => hspared) hearlier
  have hmet : ((network.deals answer waiting).deal answer dealing).Met errand := by
    rcases hfate with hwaits | hmet | ⟨error, -, hclosed⟩
    · exact hwaits.met hreached hdelivers hsoon
    · exact hmet.later (later_deals hreached.sound answer [dealing])
    · exact absurd hopen (by simp [(hclosed trivial).not_open])
  cases hmet with
  | answered houtcome => exact houtcome
  | dropped hthere hleft =>
      have hlater := later_deals hthen.sound answer rest
      exact absurd (hlater.holds_before hthere hheld) (by simp [hleft])

end Errands

/-! ## What callers can rely on -/

/-- A pool over loopback sessions accepts an exchange that is held to the end.  The session of
the connection that takes it is used by nobody else, and opens fewer than `2 ^ 31` streams. -/
structure Entrusted (answer : Answering α) (surroundings : α) (before : List Dealing)
    (place : PoolKey) (target : ExchangeId) (after : List Dealing) (delay : Nat)
    (responder : Responder) (request : Request) (key : ConnectionKey) (session : SessionKey) :
    Prop where
  pool : ∃ pool limit, ((blank surroundings).deals answer before).pool? place = some pool ∧
    pool.factory = .loopback limit delay responder
  exchange : ∃ exchange, ((blank surroundings).deals answer before).exchange? target =
    some exchange ∧ exchange.request = request
  accepted : (((blank surroundings).deals answer before).sendPooled (answering answer) place
    target).2 = some (.ok key)
  connection : ∃ connection, ((blank surroundings).deals answer
    (before ++ [.send place target])).connection? key = some connection ∧
      connection.session = session
  respected : Respected answer session (blank surroundings)
    (before ++ .send place target :: after)
  unmoved : ∀ dealing ∈ before ++ after, dealing.moves session = false
  few : ((blank surroundings).deals answer
    (before ++ .send place target :: after)).streamsOpened session < 2 ^ 31
  held : ((blank surroundings).deals answer
    (before ++ .send place target :: after)).holds target = true

/-- An exchange that is entrusted to a pool waits for the answer to its request, normalized,
which is due when the delay of the session has passed.  It gets this answer or none.  Unless
somebody aborts the exchange or closes its connection before the answer is delivered, it gets
the answer then.  Echoed, the answer tells the body of the request and its path. -/
theorem own_answer_of_accepted {answer : Answering α} {surroundings : α}
    {before after : List Dealing} {place : PoolKey} {target : ExchangeId} {delay : Nat}
    {responder : Responder} {request : Request} {key : ConnectionKey} {session : SessionKey}
    (hentrusted : Entrusted answer surroundings before place target after delay responder request
      key session) :
    let sent := (blank surroundings).deals answer (before ++ [.send place target])
    let final := sent.deals answer after
    ∃ reply ∈ sent.repliesOf session, reply.response = responder request.normalize.1 ∧
      reply.due = sent.clock + delay ∧
      (∀ response, final.outcome? target = some (.ok response) → response = reply.response) ∧
      (∀ waiting dealing rest, after = waiting ++ dealing :: rest →
        (∀ other ∈ waiting, other.aborts target = false) →
        (sent.deals answer waiting).isOpen key = true →
        (sent.deals answer waiting).Delivers session reply dealing →
        (sent.deals answer (waiting ++ [dealing])).outcome? target = some (.ok reply.response) ∧
          final.outcome? target = some (.ok reply.response)) ∧
      (responder = echo → Echoes reply.response request) := by
  intro sent final
  obtain ⟨pool, limit, hpool, hfactory⟩ := hentrusted.pool
  obtain ⟨exchange, hexchange, rfl⟩ := hentrusted.exchange
  obtain ⟨connection, hconnection, rfl⟩ := hentrusted.connection
  obtain ⟨hearly, -, hlate⟩ := hentrusted.respected.append
  have hmoves := List.forall_mem_append.mp hentrusted.unmoved
  have hsent : sent = ((blank surroundings).deals answer before).deal answer
      (.send place target) := deals_append ..
  have hfinal : (blank surroundings).deals answer (before ++ .send place target :: after) =
      final := by
    rw [deals_append, deals_cons, ← hsent]
  have hfew := hentrusted.few
  have hheld := hentrusted.held
  rw [hfinal] at hfew hheld
  rw [← hsent] at hlate
  -- Up to the send nothing went wrong with the session.
  have hblank := inStep_blank surroundings connection.session
  have hinStep := hblank.deals hearly
  have hfurnished : Furnished ((blank surroundings).deals answer before) connection.session :=
    (furnished_blank surroundings connection.session).deals hblank hearly hmoves.1
  have hready : InStep sent connection.session := by
    rw [hsent]
    exact hinStep.deal answer (.send place target) (by simp)
  have hthere : (((blank surroundings).deals answer before).exchange? target).isSome = true := by
    rw [hexchange, Option.isSome_some]
  have hlater : Later ((blank surroundings).deals answer before) final := by
    rw [← hfinal, deals_append]
    exact later_deals hinStep.sound answer _
  have hbefore := Nat.lt_of_le_of_lt
    (streamsOpened_le_deals hready.sound answer after connection.session) hfew
  obtain ⟨channel, stream, ticket, hexpects⟩ := expects_of_accepted hpool hfactory hexchange
    (hlater.holds_before hthere hheld) hentrusted.accepted (hsent ▸ hconnection) hinStep hfurnished
    (hsent ▸ hbefore)
  rw [← hsent] at hexpects
  refine ⟨_, hexpects.owed.resolve_right List.not_mem_nil, rfl, rfl, ?_, ?_, ?_⟩
  · exact fun response houtcome => hexpects.only_answer hready hlate hmoves.2 hfew hheld houtcome
  · intro waiting dealing rest hafter hspared hopen hdelivers
    have hanswered := hexpects.answered hready hlate hmoves.2 hfew hheld hafter hspared hopen
      hdelivers
    have hreached : sent.deals answer (waiting ++ [dealing]) =
        (sent.deals answer waiting).deal answer dealing := deals_append ..
    rw [hreached]
    have hrest : final = ((sent.deals answer waiting).deal answer dealing).deals answer rest := by
      rw [← deals_cons, ← deals_append, ← hafter]
    have hsound : Sound ((sent.deals answer waiting).deal answer dealing) :=
      (hready.sound.deals answer waiting).deal answer dealing
    rw [hrest]
    exact ⟨hanswered, (later_deals hsound answer rest).outcome_after hanswered⟩
  · rintro rfl
    exact echoes_echo exchange.request

/-- A request with a body to be echoed. -/
def bodied (body : Octets) : Request :=
  ⟨.connect, .absolute .https ⟨"c"⟩ .slash, .http2, ⟨[]⟩, body⟩

/-- Dealings after which an exchange is under way, and another is about to be sent. -/
def rivalDealings : List Dealing :=
  [.outside (.makePool "rivals" 1 2 (.loopback 2 5 echo)) rfl,
    .outside (.makeExchange (bodied [1])) rfl, .send ⟨1⟩ ⟨1⟩,
    .outside (.makeExchange (bodied [2])) rfl]

/-- Dealings in which the first exchange is aborted, and the second gets its answer. -/
def partingDealings : List Dealing :=
  [.outside (.abort ⟨1⟩ .timedOut) rfl, .outside (.elapse 5) rfl,
    .deliver ⟨1⟩ ⟨⟨3⟩, echo (bodied [2]).normalize.1, 5, 1⟩]

/-- The second exchange gets an echo of its own body. -/
theorem own_answer_of_rival :
    ∃ response, ((blank ()).deals steadfast (rivalDealings ++ .send ⟨1⟩ ⟨2⟩ :: partingDealings)
      ).outcome? ⟨2⟩ = some (.ok response) ∧ response.body = [2] := by
  have hentrusted : Entrusted steadfast () rivalDealings ⟨1⟩ ⟨2⟩ partingDealings 5 echo
      (bodied [2]) ⟨1⟩ ⟨1⟩ :=
    { pool := ⟨_, 2, rfl, rfl⟩
      exchange := ⟨_, rfl, rfl⟩
      accepted := rfl
      connection := ⟨_, rfl, rfl⟩
      respected := ⟨trivial, trivial, trivial, trivial, trivial, trivial, trivial, trivial,
        trivial⟩
      unmoved := by decide
      few := by
        have hopened : ((blank ()).deals steadfast
          (rivalDealings ++ .send ⟨1⟩ ⟨2⟩ :: partingDealings)).streamsOpened ⟨1⟩ = 2 := rfl
        rw [hopened]
        decide
      held := rfl }
  obtain ⟨reply, hmem, hresponse, -, -, hanswered, hechoes⟩ := own_answer_of_accepted hentrusted
  have hbody : reply.response.body = [2] := (hechoes rfl).body
  -- Of the two answers that are still to come, the one with this body is for stream 3.
  have hreply : reply = ⟨⟨3⟩, echo (bodied [2]).normalize.1, 5, 1⟩ := by
    have hqueued : ((blank ()).deals steadfast
        (rivalDealings ++ [.send ⟨1⟩ ⟨2⟩])).repliesOf ⟨1⟩ =
          [⟨⟨1⟩, echo (bodied [1]).normalize.1, 5, 0⟩,
            ⟨⟨3⟩, echo (bodied [2]).normalize.1, 5, 1⟩] := rfl
    rw [hqueued, List.mem_cons, List.mem_singleton] at hmem
    rcases hmem with rfl | rfl
    · exact absurd hbody (by decide)
    · rfl
  obtain ⟨-, houtcome⟩ := hanswered
    [.outside (.abort ⟨1⟩ .timedOut) rfl, .outside (.elapse 5) rfl] _ [] rfl (by decide) rfl
    ⟨rfl, hreply.symm, hreply ▸ Nat.le_refl 5⟩
  refine ⟨reply.response, ?_, hbody⟩
  rw [← houtcome, ← deals_append, List.append_assoc]
  rfl

end Network

end Multiplex
