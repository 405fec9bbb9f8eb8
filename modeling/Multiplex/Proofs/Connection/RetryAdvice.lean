import Multiplex.Proofs.Connection.FailedSend
import Multiplex.Proofs.Http.NormalForm

/-!
# What the advice to try elsewhere is worth

A send that fails says whether another connection may be tried.  It says so when the
connection was closed or its session full, and then the advice is good: nothing but the
request of the exchange has changed, the request is as the session would have been given it,
and normalizing it once more changes nothing.  So any open connection whose session opens a
stream takes the exchange, and its session is given the same request.

It does not say so when the exchange itself is at fault, and then the fault stays.  An
outcome stays, so an exchange that has one is turned down everywhere ever after.  A request
that cannot be normalized cannot be normalized later either, although the first attempt may
have used up its `host` field; `Spoiled` is what every operation keeps.
-/

namespace Multiplex.Network

variable {α : Type} {network first second third : Network α} {answer : Answering α}
  {key home : ConnectionKey} {connection found : Connection} {target : ExchangeId}
  {exchange : Exchange} {request : Http.Request} {acts : List (Act α)} {error : DispatchError}

/-! ## Whose fault it is -/

theorem obstacle?_cases (hobstacle : network.obstacle? answer connection exchange = some error) :
    (exchange.isResolved = true ∧ error = .alreadyResolved) ∨
      exchange.isResolved = false ∧
        ((∃ failure, exchange.request.normalize.2 = .error failure ∧ error = .normalize failure) ∨
          exchange.request.normalize.2 = .ok () ∧
            (error = .closed ∨ error = .alreadyBound ∨ ∃ refusal, error = .session refusal)) := by
  unfold obstacle? hurdle? at hobstacle
  cases hresolved : exchange.isResolved with
  | true =>
      rw [hresolved, if_pos rfl, Option.some_or, Option.some.injEq] at hobstacle
      exact .inl ⟨rfl, hobstacle.symm⟩
  | false =>
  refine .inr ⟨rfl, ?_⟩
  rw [hresolved, if_neg Bool.false_ne_true] at hobstacle
  cases hverdict : exchange.request.normalize.2 with
  | error failure =>
      rw [hverdict, Option.some_or, Option.some.injEq] at hobstacle
      exact .inl ⟨failure, rfl, hobstacle.symm⟩
  | ok accepted =>
  refine .inr ⟨rfl, ?_⟩
  simp only [hverdict] at hobstacle
  split at hobstacle
  next =>
    rw [Option.some_or, Option.some.injEq] at hobstacle
    exact .inl hobstacle.symm
  next =>
    split at hobstacle
    next =>
      rw [Option.some_or, Option.some.injEq] at hobstacle
      exact .inr (.inl hobstacle.symm)
    next =>
      rw [Option.none_or, Option.map_eq_some_iff] at hobstacle
      obtain ⟨refusal, -, hrefusal⟩ := hobstacle
      exact .inr (.inr ⟨refusal, hrefusal.symm⟩)

private theorem resolved_of_obstacle
    (hobstacle : network.obstacle? answer connection exchange = some .alreadyResolved) :
    exchange.isResolved = true := by
  rcases obstacle?_cases hobstacle with ⟨hresolved, -⟩ | ⟨-, ⟨failure, -, hother⟩ | ⟨-, hother⟩⟩
  · exact hresolved
  · simp at hother
  · simp at hother

private theorem rejected_of_obstacle {failure : ProtocolError}
    (hobstacle : network.obstacle? answer connection exchange = some (.normalize failure)) :
    exchange.isResolved = false ∧ exchange.request.IsRejected := by
  rcases obstacle?_cases hobstacle with
    ⟨-, hother⟩ | ⟨hunresolved, ⟨same, hfailure, -⟩ | ⟨-, hother⟩⟩
  · simp at hother
  · exact ⟨hunresolved, same, hfailure⟩
  · simp at hother

/-- An exchange that can be sent: somebody holds it, it has no outcome, its request can be
normalized, and it is not under way. -/
structure Fit (network : Network α) (target : ExchangeId) (exchange : Exchange) : Prop where
  exchange? : network.exchange? target = some exchange
  held : exchange.isHeld = true
  unresolved : exchange.isResolved = false
  normalizes : exchange.request.normalize.2 = .ok ()
  free : network.isUnderWay exchange = false

private theorem fit_of_retryable
    (hobstacle : network.obstacle? answer connection exchange = some error)
    (hretry : error.isRetryable = true) (hexchange : network.exchange? target = some exchange)
    (hheld : exchange.isHeld = true) (hfree : network.isUnderWay exchange = false) :
    network.Fit target exchange := by
  rcases obstacle?_cases hobstacle with
    ⟨-, rfl⟩ | ⟨hunresolved, ⟨failure, -, rfl⟩ | ⟨hnormalizes, -⟩⟩
  · exact Bool.noConfusion hretry
  · exact Bool.noConfusion hretry
  · exact ⟨hexchange, hheld, hunresolved, hnormalizes, hfree⟩

namespace Fit

/-- An exchange that can be sent is kept from an open connection by its session only. -/
theorem obstacle?_eq (hfit : network.Fit target exchange) (hopen : connection.isClosed = false)
    (answer : Answering α) : network.obstacle? answer connection exchange =
      (network.refusal? answer connection.session).map .session := by
  have hclear : network.hurdle? connection exchange = none :=
    hurdle?_eq_none_iff.mpr ⟨hfit.unresolved, hfit.normalizes, hopen, hfit.free⟩
  rw [obstacle?, hclear, Option.none_or]

/-- Whether an exchange can be sent depends on exchanges and channels only. -/
theorem congr (hfit : first.Fit target exchange) (hsound : Sound first)
    (hafterwards : Sound second) (hexchange : second.exchange? = first.exchange?)
    (hchannel : second.channel? = first.channel?) : second.Fit target exchange where
  exchange? := by rw [hexchange, hfit.exchange?]
  held := hfit.held
  unresolved := hfit.unresolved
  normalizes := hfit.normalizes
  free := by
    have hthen : second.exchange? target = some exchange := by rw [hexchange, hfit.exchange?]
    rw [hafterwards.isUnderWay_eq hthen hfit.held hfit.unresolved, hchannel,
      ← hsound.isUnderWay_eq hfit.exchange? hfit.held hfit.unresolved, hfit.free]

/-- What could be sent can still be sent where it was sent in vain, and nothing is left to
normalize. -/
theorem takenBack (hfit : first.Fit target exchange) (hsound : Sound first)
    (hafterwards : Sound second) (htaken : TakenBack first second target exchange) :
    ∃ after, second.Fit target after ∧
      after.request.normalize.1 = exchange.request.normalize.1 := by
  obtain ⟨binding, hafter, hbinding⟩ := htaken.exchange
  rw [hfit.unresolved, if_neg Bool.false_ne_true] at hafter
  have hagain := (Http.Request.isNormalized_normalize hfit.normalizes).normalize_eq
  have hfree : (binding.any fun id => (second.channel? id).any fun found => !found.released) =
      false := by
    rcases hbinding with rfl | ⟨rfl, -⟩
    · -- The binding is the old one, and it leads to the same channel as before.
      have hbefore := hfit.free
      rw [hsound.isUnderWay_eq hfit.exchange? hfit.held hfit.unresolved] at hbefore
      cases hbound : exchange.binding with
      | none => rfl
      | some id =>
          have hthere := hsound.isSome_of_binding hfit.exchange? hbound
          have hne : id ≠ first.nextChannel := by
            rintro rfl
            simp at hthere
          rwa [hbound, Option.any_some, ← htaken.channel? id hne] at hbefore
    · rfl
  refine ⟨_, ⟨hafter, hfit.held, hfit.unresolved, by rw [hagain], ?_⟩, by rw [hagain]⟩
  rw [hafterwards.isUnderWay_eq hafter hfit.held hfit.unresolved]
  exact hfree

end Fit

/-! ## Trying elsewhere -/

/-- A connection has taken an exchange: its session was given a request, and what is first
decided on the new channel is the outcome. -/
structure Undertakes (first second : Network α) (key : ConnectionKey) (connection : Connection)
    (target : ExchangeId) (request : Http.Request) : Prop where
  given : ∃ stream, second.trace.toList =
    first.trace.toList ++ [.streamOpened connection.session stream request]
  awaits : second.Awaits key first.nextChannel target []
  completes : ∀ later, (second.run later).holds target = true →
    (second.run later).outcome? target =
      firstDecision? key first.nextChannel target [] (second.happenings later)

theorem undertakes_of_unobstructed (hsound : Sound network)
    (hconnection : network.connection? key = some connection)
    (hexchange : network.exchange? target = some exchange) (hheld : exchange.isHeld = true)
    (hnone : network.obstacle? answer connection exchange = none) :
    (network.send (answering answer) key target).2 = .ok () ∧
      Undertakes network (network.send (answering answer) key target).1 key connection target
        exchange.request.normalize.1 := by
  obtain ⟨hsent, asked, transport, -, hdispatched, -⟩ :=
    send_of_unobstructed hsound hconnection hexchange hnone
  obtain ⟨acts, hcourse⟩ := course_send (holds_iff.mpr ⟨exchange, hexchange, hheld⟩) answer key
  have hafterwards := hcourse.sound hsound
  exact ⟨hsent, ⟨_, hdispatched.trace⟩, hdispatched.awaits,
    hdispatched.awaits.outcome_run hafterwards⟩

/-- An open connection takes what can be sent if its session opens a stream. -/
theorem Fit.undertakes (hfit : network.Fit target exchange) (hsound : Sound network)
    (hconnection : network.connection? key = some connection) (hopen : connection.isClosed = false)
    (haccepts : network.refusal? answer connection.session = none) :
    (network.send (answering answer) key target).2 = .ok () ∧
      Undertakes network (network.send (answering answer) key target).1 key connection target
        exchange.request.normalize.1 := by
  refine undertakes_of_unobstructed hsound hconnection hfit.exchange? hfit.held ?_
  rw [hfit.obstacle?_eq hopen, haccepts, Option.map_none]

/-! ## Faults that stay -/

/-- Every send of an exchange fails, always in the same way, and none says that another
connection may be tried. -/
def Fails (network : Network α) (target : ExchangeId) (kind : DispatchError → Prop) : Prop :=
  ∀ (react : Reaction α) (key : ConnectionKey), (network.connection? key).isSome = true →
    ∃ error, (network.send react key target).2 = .error error ∧ kind error ∧
      error.isRetryable = false

private theorem fails_of_isResolved (hresolved : network.isResolved target = true) :
    network.Fails target fun error => error = .alreadyResolved := by
  intro react key hthere
  obtain ⟨connection, hconnection⟩ := Option.isSome_iff_exists.mp hthere
  obtain ⟨exchange, hexchange, hover⟩ := (Option.any_eq_true ..).mp hresolved
  refine ⟨.alreadyResolved, ?_, rfl, rfl⟩
  simp only [send, hconnection, hexchange, hover, if_true]

theorem Later.isResolved (hlater : Later first second)
    (hresolved : first.isResolved target = true) : second.isResolved target = true := by
  obtain ⟨before, hbefore, hover⟩ := (Option.any_eq_true ..).mp hresolved
  obtain ⟨after, hafter, hages⟩ := hlater.exchange hbefore
  rw [Network.isResolved, hafter, Option.any_some, Exchange.isResolved, hages.outcome hover]
  exact hover

theorem TakenBack.isResolved (htaken : TakenBack first second target exchange)
    (hresolved : exchange.isResolved = true) : second.isResolved target = true := by
  obtain ⟨binding, hafter, -⟩ := htaken.exchange
  rw [Network.isResolved, hafter, Option.any_some]
  exact hresolved

/-- The request of an exchange cannot be normalized. -/
def Spoiled (network : Network α) (target : ExchangeId) : Prop :=
  ∃ request, network.request? target = some request ∧ request.IsRejected

private theorem Spoiled.fails (hspoiled : network.Spoiled target)
    (hunresolved : network.isResolved target = false) :
    network.Fails target fun error => ∃ failure, error = .normalize failure := by
  intro react key hthere
  obtain ⟨connection, hconnection⟩ := Option.isSome_iff_exists.mp hthere
  obtain ⟨request, hrequest, failure, hfailure⟩ := hspoiled
  obtain ⟨exchange, hexchange, rfl⟩ := Option.map_eq_some_iff.mp hrequest
  have hwaiting : exchange.isResolved = false := by
    rwa [isResolved, hexchange, Option.any_some] at hunresolved
  refine ⟨.normalize failure, ?_, ⟨failure, rfl⟩, rfl⟩
  simp only [send, hconnection, hexchange, hwaiting, hfailure, Bool.false_eq_true, if_false]

private theorem request?_sent (hrequest : network.request? target = some request)
    {other : ExchangeId}
    (hstep : Brings network (.sent key other) (network.send quiet key other).1) :
    (network.send quiet key other).1.request? target = some request ∨
      (network.send quiet key other).1.request? target = some request.normalize.1 := by
  obtain ⟨exchange, hexchange, rfl⟩ := Option.map_eq_some_iff.mp hrequest
  by_cases heq : target = other
  · subst heq
    cases hconnection : network.connection? key with
    | none =>
        left
        simpa only [send, hconnection] using hrequest
    | some connection =>
        have hsent := request?_send hconnection hexchange
        split at hsent
        · exact .inl hsent
        · exact .inr hsent
  · left
    have hsame : (network.send quiet key other).1.exchange? target = network.exchange? target := by
      generalize (network.send quiet key other).1 = second at hstep
      cases hstep with
      | undispatched _ hundispatched =>
          rcases hundispatched.exchange target with hsame | ⟨hother, -⟩
          · exact hsame
          · exact absurd hother heq
      | dispatched _ _ _ _ hdispatched => rw [hdispatched.exchange?, if_neg heq]
    rw [request?, hsame, hexchange, Option.map_some]

private theorem TakenBack.spoiled (htaken : TakenBack first second target exchange)
    (hunresolved : exchange.isResolved = false) (hrejected : exchange.request.IsRejected) :
    second.Spoiled target := by
  obtain ⟨binding, hafter, -⟩ := htaken.exchange
  rw [hunresolved, if_neg Bool.false_ne_true] at hafter
  exact ⟨exchange.request.normalize.1, by rw [request?, hafter, Option.map_some],
    hrejected.normalize⟩

/-- Requests change in sends only, and there they are normalized. -/
theorem request?_undergo (hsound : Sound network)
    (hrequest : network.request? target = some request) (operation : Operation) :
    (network.undergo operation).request? target = some request ∨
      (network.undergo operation).request? target = some request.normalize.1 := by
  by_cases hnothing : network.happening operation = .nothing
  · obtain ⟨exchange, hexchange, rfl⟩ := Option.map_eq_some_iff.mp hrequest
    obtain ⟨after, hafter, hrests⟩ :=
      ((Calm.undergo hnothing).exchange target).exists_after hexchange
    left
    rw [request?, hafter, Option.map_some, hrests.request]
  have hstep := brings_undergo hsound hnothing
  by_cases hunsent : ∀ key other, network.happening operation ≠ .sent key other
  · left
    rw [← hrequest]
    exact hstep.map_exchange? Exchange.request (fun _ _ => rfl) (fun _ _ => rfl) hunsent target
  · simp only [not_forall, not_not] at hunsent
    obtain ⟨key, other, hsent⟩ := hunsent
    have hundergo : network.undergo operation = (network.send quiet key other).1 := by
      rw [undergo_eq_bring hnothing, hsent, bring]
    rw [hsent, hundergo] at hstep
    rw [hundergo]
    exact request?_sent hrequest hstep

theorem Spoiled.undergo (hspoiled : network.Spoiled target) (hsound : Sound network)
    (operation : Operation) : (network.undergo operation).Spoiled target := by
  obtain ⟨request, hrequest, hrejected⟩ := hspoiled
  rcases request?_undergo hsound hrequest operation with hsame | hnormalized
  · exact ⟨request, hsame, hrejected⟩
  · exact ⟨_, hnormalized, hrejected.normalize⟩

theorem Spoiled.course (hspoiled : first.Spoiled target) (hsound : Sound first)
    (hcourse : Course first acts second) : second.Spoiled target := by
  induction hcourse with
  | start => exact hspoiled
  | act operation hcourse ih => exact ih.undergo (hcourse.sound hsound) operation
  | remember surroundings _ ih => exact ih
  | rearrange place order _ ih => exact ih

/-! ## The advice -/

/-- The advice of a failed send is good, in every network that dealings lead to.

If it says that another connection may be tried, then any open connection whose session opens a
stream takes the exchange, and its session is given the request that the first session would
have been given, had it opened a stream.  If the exchange has its outcome or a request that
cannot be normalized, then every send of it fails for the same reason whatever happens
meanwhile, the latter as long as the exchange has no outcome. -/
theorem advice_is_good (surroundings : α) (answer : Answering α) (dealings : List Dealing)
    (key : ConnectionKey) (target : ExchangeId) {connection : Connection} {exchange : Exchange}
    {error : DispatchError} :
    let network := (blank surroundings).deals answer dealings
    let failed := (network.send (answering answer) key target).1
    let request := exchange.request.normalize.1
    network.connection? key = some connection → network.exchange? target = some exchange →
      exchange.isHeld = true → (network.send (answering answer) key target).2 = .error error →
      (error.isRetryable = true →
        (∀ home found (willing : Answering α), network.connection? home = some found →
          network.obstacle? willing found exchange = none →
          Undertakes network (network.send (answering willing) home target).1 home found target
            request) ∧
        (network.isUnderWay exchange = false → ∀ home found, failed.connection? home = some found →
          found.isClosed = false → failed.refusal? answer found.session = none →
          (failed.send (answering answer) home target).2 = .ok () ∧
            Undertakes failed (failed.send (answering answer) home target).1 home found target
              request)) ∧
      (error = .alreadyResolved → ∀ acts later, Course failed acts later →
        later.Fails target fun again => again = .alreadyResolved) ∧
      ∀ failure, error = .normalize failure → ∀ acts later, Course failed acts later →
        later.isResolved target = false →
        later.Fails target fun again => ∃ failure, again = .normalize failure := by
  intro network failed request hconnection hexchange hheld hfailed
  have hsound : Sound network := (sound_blank surroundings).deals answer dealings
  obtain ⟨acts, hcourse⟩ := course_send (holds_iff.mpr ⟨exchange, hexchange, hheld⟩) answer key
  have hafterwards : Sound failed := hcourse.sound hsound
  obtain ⟨hobstacle, htaken⟩ : network.obstacle? answer connection exchange = some error ∧
      TakenBack network failed target exchange := by
    cases hobstacle : network.obstacle? answer connection exchange with
    | none =>
        obtain ⟨hsent, -⟩ := send_of_unobstructed hsound hconnection hexchange hobstacle
        simp [hfailed] at hsent
    | some found =>
        obtain ⟨hfound, -, htaken⟩ := send_of_obstacle hsound hconnection hexchange hobstacle
        obtain rfl := Except.error.inj (hfailed.symm.trans hfound)
        exact ⟨rfl, htaken⟩
  refine ⟨fun hretry => ⟨?_, ?_⟩, ?_, ?_⟩
  · intro home found willing hthere hnone
    exact (undertakes_of_unobstructed hsound hthere hexchange hheld hnone).2
  · intro hfree home found hthere hopen haccepts
    have hfit := fit_of_retryable hobstacle hretry hexchange hheld hfree
    obtain ⟨after, hstill, hrequest⟩ := hfit.takenBack hsound hafterwards htaken
    have hsent := hstill.undertakes hafterwards hthere hopen haccepts
    rwa [hrequest] at hsent
  · rintro rfl acts later hcourse
    have hresolved := htaken.isResolved (resolved_of_obstacle hobstacle)
    exact fails_of_isResolved ((hcourse.later hafterwards).isResolved hresolved)
  · rintro failure rfl acts later hcourse hunresolved
    obtain ⟨hwaiting, hrejected⟩ := rejected_of_obstacle hobstacle
    have hspoiled := htaken.spoiled hwaiting hrejected
    exact (hspoiled.course hafterwards hcourse).fails hunresolved

/-- Dealings after which there are a connection with a full session and one with an empty
session, and three exchanges: one that can be sent, one without an authority, and one that was
aborted. -/
def mixedDealings : List Dealing :=
  [.outside (.makeSession "full" (.recording { refusal := some (.tooManyStreams 0) })) rfl,
    .outside (.makeSession "empty" (.recording {})) rfl,
    .outside (.makeConnection ⟨1⟩ true ⟨1⟩ 1) rfl, .outside (.makeConnection ⟨2⟩ false ⟨2⟩ 1) rfl,
    .outside (.makeExchange ⟨.connect, .authority ⟨"a"⟩, .http11, ⟨[]⟩, []⟩) rfl,
    .outside (.makeExchange ⟨.connect, .path .slash, .http11, ⟨[]⟩, []⟩) rfl,
    .outside (.makeExchange ⟨.connect, .authority ⟨"c"⟩, .http11, ⟨[]⟩, []⟩) rfl,
    .outside (.abort ⟨3⟩ (.cancelled "at once")) rfl]

/-- The full session turns an exchange down and the empty one takes it; the others are turned
down for good. -/
theorem tried_elsewhere :
    let given : Http.Request := ⟨.connect, .authority ⟨"a"⟩, .http2, ⟨[]⟩, []⟩
    let elsewhere : Connection := ⟨⟨2⟩, .gone, ⟨2⟩, 1, [], false, 1⟩
    let network := (blank ()).deals steadfast mixedDealings
    let failed := fun target => (network.send (answering steadfast) ⟨1⟩ target).1
    (network.send (answering steadfast) ⟨1⟩ ⟨1⟩).2 = .error (.session (.tooManyStreams 0)) ∧
      Undertakes (failed ⟨1⟩) ((failed ⟨1⟩).send (answering steadfast) ⟨2⟩ ⟨1⟩).1 ⟨2⟩ elsewhere ⟨1⟩
        given ∧
      (failed ⟨2⟩).Fails ⟨2⟩ (fun again => ∃ failure, again = .normalize failure) ∧
      (failed ⟨3⟩).Fails ⟨3⟩ fun again => again = .alreadyResolved := by
  intro given elsewhere network failed
  let crowded : Connection := ⟨⟨1⟩, .observed, ⟨1⟩, 1, [], false, 1⟩
  let sound : Exchange := { request := ⟨.connect, .authority ⟨"a"⟩, .http11, ⟨[]⟩, []⟩ }
  let homeless : Exchange := { request := ⟨.connect, .path .slash, .http11, ⟨[]⟩, []⟩ }
  let aborted : Exchange :=
    { request := ⟨.connect, .authority ⟨"c"⟩, .http11, ⟨[]⟩, []⟩
      outcome := some (.error (.cancelled "at once")) }
  have hcrowded : network.connection? ⟨1⟩ = some crowded := rfl
  have hsound : network.exchange? ⟨1⟩ = some sound := rfl
  have hhomeless : network.exchange? ⟨2⟩ = some homeless := rfl
  have haborted : network.exchange? ⟨3⟩ = some aborted := rfl
  have hfull : (network.send (answering steadfast) ⟨1⟩ ⟨1⟩).2 =
    .error (.session (.tooManyStreams 0)) := rfl
  have hlost : (network.send (answering steadfast) ⟨1⟩ ⟨2⟩).2 =
    .error (.normalize .missingAuthority) := by decide +kernel
  have hover : (network.send (answering steadfast) ⟨1⟩ ⟨3⟩).2 = .error .alreadyResolved := rfl
  obtain ⟨hretry, -⟩ :=
    advice_is_good () steadfast mixedDealings ⟨1⟩ ⟨1⟩ hcrowded hsound rfl hfull
  obtain ⟨-, -, hspoiled⟩ :=
    advice_is_good () steadfast mixedDealings ⟨1⟩ ⟨2⟩ hcrowded hhomeless rfl hlost
  obtain ⟨-, hresolved, -⟩ :=
    advice_is_good () steadfast mixedDealings ⟨1⟩ ⟨3⟩ hcrowded haborted rfl hover
  refine ⟨hfull, ?_, ?_, ?_⟩
  · exact ((hretry rfl).2 rfl ⟨2⟩ elsewhere rfl rfl rfl).2
  · exact hspoiled .missingAuthority rfl [] (failed ⟨2⟩) (.start _) (by decide +kernel)
  · exact hresolved rfl [] (failed ⟨3⟩) (.start _)

end Multiplex.Network
