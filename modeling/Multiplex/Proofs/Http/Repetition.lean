import Multiplex.Proofs.Connection.RetryAdvice
import Multiplex.Proofs.Http.KeptFields
import Multiplex.Proofs.Http.Target

/-!
# Normalizing more than once

Every attempt to dispatch an exchange normalizes its request, so a request may be normalized any
number of times.  Only the first time changes it: `normalize_normalize_fst`.

* What is accepted once is accepted every time, and stays as the first time left it.
* What is rejected once is rejected every time, and stays as the first time left it, but not for
  the same reason.  A rejected request names no authority in its target, and the `host` field that
  it had is used up before it is read; so from the second time on the authority is missing,
  whatever was wrong at first.

Between attempts all sorts of other things may happen.  None of them touches a request, so an
exchange is dispatched with one and the same request, whichever attempt it is.
-/

namespace Multiplex.Http.Request

variable {request : Request} {error : ProtocolError} {verdict : Except ProtocolError Unit}

/-- A request after it was normalized so many times. -/
def normalizedTimes (request : Request) : Nat → Request
  | 0 => request
  | times + 1 => (request.normalizedTimes times).normalize.1

/-- What the second time leaves as it is, every later time leaves as it is. -/
theorem normalizedTimes_of_fixed
    (hfixed : request.normalize.1.normalize = (request.normalize.1, verdict)) (times : Nat) :
    request.normalizedTimes (times + 1) = request.normalize.1 := by
  induction times with
  | zero => rfl
  | succ times ih => rw [normalizedTimes, ih, hfixed]

/-! ## Requests that are rejected -/

/-- Without an authority and without a `host` field a request stays as it is. -/
theorem resolveTarget_eq_of_homeless (hmissing : request.uri.authority? = none)
    (hhost : request.fields.values .host = []) :
    request.resolveTarget = (request, .error .missingAuthority) := by
  rw [resolveTarget, if_pos (Option.isNone_iff_eq_none.mpr hmissing), hhost]

/-- A homeless request loses nothing but the fields that concern the connection. -/
theorem request_of_homeless (hhomeless : request.IsHomeless) :
    request.normalize.1 = request.stripped := by
  have hmissing : request.stripped.uri.authority? = none := hhomeless.1
  have hnone : request.stripped.fields.values .host = [] :=
    List.head?_eq_none_iff.mp (request.firstHost?_eq.symm.trans hhomeless.2)
  rw [normalize, resolveTarget_eq_of_homeless hmissing hnone]

theorem request_of_misdirected (hmisdirected : request.IsMisdirected) :
    request.normalize.1 = request.unhosted := by
  obtain ⟨reason, hrejected⟩ := normalize_of_misdirected hmisdirected
  obtain ⟨hmissing, value, hfirst, -⟩ := hmisdirected
  obtain ⟨others, hvalues⟩ := values_host_of_firstHost? hfirst
  rcases resolveTarget_of_error hrejected with hsame | ⟨-, hused⟩
  · -- The `host` field is used up, so it cannot have stayed.
    have hnone : request.normalize.1.fields.values .host = [] := values_host_of_missing hmissing
    rw [normalize, hsame, hvalues] at hnone
    cases hnone
  · exact hused

/-- A rejected request names no authority in its target, and the target stays. -/
theorem uri_of_rejected (hrejected : request.normalize.2 = .error error) :
    request.uri.authority? = none ∧ request.normalize.1.uri = request.uri := by
  rcases request.normalize_cases with ⟨hhomeless, -⟩ | ⟨hmisdirected, -⟩ | ⟨-, -, haccepted, -⟩
  · exact ⟨hhomeless.1, by rw [request_of_homeless hhomeless, stripped]⟩
  · exact ⟨hmisdirected.1, by rw [request_of_misdirected hmisdirected, unhosted, stripped]⟩
  · rw [haccepted] at hrejected
    cases hrejected

private theorem fields_of_rejected (hrejected : request.normalize.2 = .error error) :
    (error = .missingAuthority ∧ request.fields.stripConnection.values .host = [] ∧
        request.normalize.1.fields = request.fields.stripConnection) ∨
      (error ≠ .missingAuthority ∧ request.fields.stripConnection.values .host ≠ [] ∧
        request.normalize.1.fields = request.fields.stripConnection.remove .host) := by
  rcases request.normalize_cases with
    ⟨hhomeless, hverdict⟩ | ⟨hmisdirected, reason, hverdict⟩ | ⟨-, -, haccepted, -⟩
  · obtain rfl := Except.error.inj (hverdict.symm.trans hrejected)
    refine .inl ⟨rfl, List.head?_eq_none_iff.mp hhomeless.2, ?_⟩
    rw [request_of_homeless hhomeless, fields_stripped]
  · obtain rfl := Except.error.inj (hverdict.symm.trans hrejected)
    obtain ⟨value, hfirst, -⟩ := hmisdirected.2
    refine .inr ⟨by simp, fun hnone => ?_, ?_⟩
    · rw [firstHost?, hnone] at hfirst
      cases hfirst
    · rw [request_of_misdirected hmisdirected, fields_unhosted]
  · rw [haccepted] at hrejected
    cases hrejected

/-- Whatever a request was rejected for, the second time its authority is missing. -/
theorem normalize_of_rejected (hrejected : request.normalize.2 = .error error) :
    request.normalize.1.normalize = (request.normalize.1, .error .missingAuthority) := by
  obtain ⟨hmissing, huri⟩ := uri_of_rejected hrejected
  have hversion : request.normalize.1.version = .http2 := by
    rcases resolveTarget_of_error hrejected with hsame | ⟨-, hused⟩
    · rw [normalize, hsame, stripped]
    · rw [normalize, hused, stripped]
  have hstripped : request.normalize.1.stripped = request.normalize.1 :=
    stripped_of_isStripped hversion request.isStripped_normalize
  rw [normalize, hstripped]
  exact resolveTarget_eq_of_homeless (huri ▸ hmissing) (values_host_of_missing hmissing)

theorem normalize_normalize_fst (request : Request) :
    request.normalize.1.normalize.1 = request.normalize.1 := by
  cases hverdict : request.normalize.2 with
  | ok accepted => rw [(isNormalized_normalize hverdict).normalize_eq]
  | error error => rw [normalize_of_rejected hverdict]

end Multiplex.Http.Request

namespace Multiplex.Network

variable {α : Type} {network first second : Network α} {key : ConnectionKey} {target : ExchangeId}
  {connection : Connection} {exchange : Exchange} {request : Http.Request}
  {error : ProtocolError} {acts : List (Act α)}

/-! ## Requests of exchanges -/

/-- Whatever happens, a request is as it was or normalized. -/
theorem Course.request? (hcourse : Course first acts second) (hsound : Sound first)
    (hrequest : first.request? target = some request) :
    second.request? target = some request ∨ second.request? target = some request.normalize.1 := by
  induction hcourse with
  | start => exact .inl hrequest
  | act operation hcourse ih =>
      have hreached := hcourse.sound hsound
      rcases ih with hsame | hnormalized
      · exact request?_undergo hreached hsame operation
      · right
        rcases request?_undergo hreached hnormalized operation with hsame | hagain
        · exact hsame
        · rwa [request.normalize_normalize_fst] at hagain
  | remember surroundings _ ih => exact ih
  | rearrange place order _ ih => exact ih

/-- A request that cannot be normalized is turned down by any connection, and what normalizing
made of it is kept. -/
theorem send_of_rejected (hconnection : network.connection? key = some connection)
    (hexchange : network.exchange? target = some exchange)
    (hunresolved : exchange.isResolved = false)
    (hrejected : exchange.request.normalize.2 = .error error) (react : Reaction α) :
    network.send react key target =
      (network.modifyExchange target fun found =>
          { found with request := exchange.request.normalize.1 }, .error (.normalize error)) := by
  simp only [send, hconnection, hexchange, hunresolved, hrejected, Bool.false_eq_true, if_false]

private theorem send_of_rejected_again (hthere : (network.connection? key).isSome = true)
    (hunresolved : network.isResolved target = false)
    (hrequest : network.request? target = some request)
    (hfixed : request.normalize = (request, .error error)) (react : Reaction α) :
    network.send react key target = (network, .error (.normalize error)) := by
  obtain ⟨connection, hconnection⟩ := Option.isSome_iff_exists.mp hthere
  obtain ⟨exchange, hexchange, rfl⟩ := Option.map_eq_some_iff.mp hrequest
  have hwaiting : exchange.isResolved = false := by
    rwa [isResolved, hexchange, Option.any_some] at hunresolved
  have hrejected : exchange.request.normalize.2 = .error error := by rw [hfixed]
  rw [send_of_rejected hconnection hexchange hwaiting hrejected, hfixed]
  refine Prod.ext (modifyExchange_eq_self network fun found hfound => ?_) rfl
  obtain rfl := Option.some.inj (hexchange.symm.trans hfound)
  rfl

/-- A request that is accepted once is accepted every time, and stays as the first time left it.
So whatever is done between the attempts to dispatch an exchange, each attempt dispatches the same
request. -/
theorem accepted_request_stays (haccepted : request.normalize.2 = .ok ())
    (surroundings : α) (answer : Answering α) (earlier later : List Dealing)
    (target : ExchangeId) :
    (∀ times, request.normalizedTimes (times + 1) = request.normalize.1 ∧
      (request.normalizedTimes (times + 1)).normalize = (request.normalize.1, .ok ())) ∧
    (((blank surroundings).deals answer earlier).request? target = some request →
      ∃ kept, (((blank surroundings).deals answer earlier).deals answer later).request? target =
          some kept ∧
        (kept = request ∨ kept = request.normalize.1) ∧
        kept.normalize = (request.normalize.1, .ok ())) := by
  have hfixed : request.normalize.1.normalize = (request.normalize.1, .ok ()) :=
    (Http.Request.isNormalized_normalize haccepted).normalize_eq
  refine ⟨fun times => ?_, fun hrequest => ?_⟩
  · have hsame := Http.Request.normalizedTimes_of_fixed hfixed times
    exact ⟨hsame, by rw [hsame, hfixed]⟩
  · have hsound : Sound ((blank surroundings).deals answer earlier) :=
      (sound_blank surroundings).deals answer earlier
    obtain ⟨acts, hcourse, -⟩ := course_deals hsound answer later
    rcases hcourse.request? hsound hrequest with hsame | hnormalized
    · exact ⟨request, hsame, .inl rfl, Prod.ext rfl haccepted⟩
    · exact ⟨request.normalize.1, hnormalized, .inr rfl, hfixed⟩

/-- A request whose `host` field has to say where it goes. -/
def hosted (host : Http.FieldValue) : Http.Request :=
  { method := ⟨"HEAD", by decide +kernel⟩
    uri := .path .slash
    version := .http11
    fields := ⟨[(.host, host), (.connection, ⟨Octets.ofText "close", by decide +kernel⟩)]⟩
    body := [] }

/-- Dealings after which a connection could take an exchange with such a request. -/
def hostedDealings (host : Http.FieldValue) : List Dealing :=
  [.outside (.makeSession "s" (.recording {})) rfl,
    .outside (.makeConnection ⟨1⟩ true ⟨1⟩ 2) rfl, .outside (.makeExchange (hosted host)) rfl]

/-- The host `a` is taken over into the target the first time, and found there afterwards. -/
theorem accepted_request_stays_hosted :
    ∃ host : Http.FieldValue, (hosted host).normalize.2 = .ok () ∧
      (hosted host).normalize.1 ≠ hosted host ∧
      (((hosted host).normalizedTimes 3).normalize = ((hosted host).normalize.1, .ok ())) ∧
      ∃ kept, (((blank ()).deals steadfast (hostedDealings host)).deals steadfast
          [.outside (.send ⟨1⟩ ⟨1⟩) rfl]).request? ⟨1⟩ = some kept ∧
        (kept = hosted host ∨ kept = (hosted host).normalize.1) ∧
        kept.normalize = ((hosted host).normalize.1, .ok ()) := by
  let host : Http.FieldValue := ⟨Octets.ofText "a", by decide +kernel⟩
  have haccepted : (hosted host).normalize.2 = .ok () := by decide +kernel
  have hchanged : (hosted host).normalize.1 ≠ hosted host := by decide +kernel
  obtain ⟨htimes, hkept⟩ := accepted_request_stays haccepted () steadfast (hostedDealings host)
    [.outside (.send ⟨1⟩ ⟨1⟩) rfl] ⟨1⟩
  exact ⟨host, haccepted, hchanged, (htimes 2).2, hkept rfl⟩

/-- A request that is rejected once is rejected every time, and stays as the first time left it.
Its target is never touched.  Its `host` field is, though, unless there is none: it is used up the
first time, and from then on the authority is missing, whatever was wrong with it.  The same goes
for every attempt to dispatch an exchange with such a request, whatever is done between the
attempts. -/
theorem rejected_request_misses_its_authority (hrejected : request.normalize.2 = .error error)
    (surroundings : α) (answer : Answering α) (earlier later : List Dealing)
    (key other : ConnectionKey) (target : ExchangeId) (exchange : Exchange) :
    let network := (blank surroundings).deals answer earlier
    let failed := (network.send (answering answer) key target).1
    let again := failed.deals answer later
    request.normalize.1.uri = request.uri ∧
    ((error = .missingAuthority ∧ request.fields.stripConnection.values .host = [] ∧
        request.normalize.1.fields = request.fields.stripConnection) ∨
      (error ≠ .missingAuthority ∧ request.fields.stripConnection.values .host ≠ [] ∧
        request.normalize.1.fields = request.fields.stripConnection.remove .host)) ∧
    (∀ times, request.normalizedTimes (times + 1) = request.normalize.1 ∧
      (request.normalizedTimes (times + 1)).normalize =
        (request.normalize.1, .error .missingAuthority)) ∧
    ((network.connection? key).isSome = true → network.exchange? target = some exchange →
      exchange.isHeld = true → exchange.isResolved = false → exchange.request = request →
      (network.send (answering answer) key target).2 = .error (.normalize error) ∧
      again.request? target = some request.normalize.1 ∧
      (again.isResolved target = false → (again.connection? other).isSome = true →
        again.send (answering answer) other target =
          (again, .error (.normalize .missingAuthority)))) := by
  intro network failed again
  have hfixed := Http.Request.normalize_of_rejected hrejected
  refine ⟨(Http.Request.uri_of_rejected hrejected).2, Http.Request.fields_of_rejected hrejected,
    fun times => ?_, ?_⟩
  · have hsame := Http.Request.normalizedTimes_of_fixed hfixed times
    exact ⟨hsame, by rw [hsame, hfixed]⟩
  · rintro hthere hexchange hheld hunresolved rfl
    have hsound : Sound network := (sound_blank surroundings).deals answer earlier
    obtain ⟨connection, hconnection⟩ := Option.isSome_iff_exists.mp hthere
    have hsent := send_of_rejected hconnection hexchange hunresolved hrejected (answering answer)
    obtain ⟨acts, hcourse⟩ := course_send (holds_iff.mpr ⟨exchange, hexchange, hheld⟩) answer key
    have hafterwards : Sound failed := hcourse.sound hsound
    have hleft : failed.request? target = some exchange.request.normalize.1 := by
      have hfailed : failed.exchange? target =
          some { exchange with request := exchange.request.normalize.1 } := by
        show (network.send (answering answer) key target).1.exchange? target = _
        rw [hsent, exchange?_modifyExchange, if_pos rfl, hexchange, Option.map_some]
      rw [request?, hfailed, Option.map_some]
    obtain ⟨acts, hcourse, -⟩ := course_deals hafterwards answer later
    have hkept : again.request? target = some exchange.request.normalize.1 := by
      rcases hcourse.request? hafterwards hleft with hsame | hagain
      · exact hsame
      · rwa [exchange.request.normalize_normalize_fst] at hagain
    exact ⟨by rw [hsent], hkept, fun hwaiting hthere =>
      send_of_rejected_again hthere hwaiting hkept hfixed (answering answer)⟩

/-- The host `a b` is no authority, and the first attempt to send says so; the second misses it. -/
theorem rejected_request_misses_its_authority_hosted :
    ∃ (host : Http.FieldValue) (error : ProtocolError),
      let network := (blank ()).deals steadfast (hostedDealings host)
      let failed := (network.send (answering steadfast) ⟨1⟩ ⟨1⟩).1
      (hosted host).normalize.2 = .error error ∧ error ≠ .missingAuthority ∧
        ((hosted host).normalizedTimes 3).normalize =
          ((hosted host).normalize.1, .error .missingAuthority) ∧
        (network.send (answering steadfast) ⟨1⟩ ⟨1⟩).2 = .error (.normalize error) ∧
        failed.send (answering steadfast) ⟨1⟩ ⟨1⟩ =
          (failed, .error (.normalize .missingAuthority)) := by
  let host : Http.FieldValue := ⟨Octets.ofText "a b", by decide +kernel⟩
  let error : ProtocolError := .invalidUri "invalid uri character"
  have hrejected : (hosted host).normalize.2 = .error error := by decide +kernel
  let waiting : Exchange := { request := hosted host }
  obtain ⟨-, -, htimes, hsent⟩ := rejected_request_misses_its_authority hrejected () steadfast
    (hostedDealings host) [] ⟨1⟩ ⟨1⟩ ⟨1⟩ waiting
  obtain ⟨hfirst, -, hagain⟩ := hsent rfl rfl rfl rfl rfl
  exact ⟨host, error, hrejected, by simp [error], (htimes 2).2, hfirst,
    hagain (by decide +kernel) (by decide +kernel)⟩

/-- With the host `a b` the verdict changes from the first time to the second, and the `host` value
that the first time could not use is gone. -/
theorem verdict_changes_with_the_host :
    ¬ ∀ (request : Http.Request) (error : ProtocolError), request.normalize.2 = .error error →
      request.normalize.1.fields.values .host = request.fields.stripConnection.values .host ∧
      request.normalize.1.normalize.2 = .error error := by
  intro hstays
  let host : Http.FieldValue := ⟨Octets.ofText "a b", by decide +kernel⟩
  have hrejected : (hosted host).normalize.2 =
    .error (.invalidUri "invalid uri character") := by decide +kernel
  have hagain : (hosted host).normalize.1.normalize.2 ≠
    .error (.invalidUri "invalid uri character") := by decide +kernel
  exact hagain (hstays (hosted host) _ hrejected).2

end Multiplex.Network
