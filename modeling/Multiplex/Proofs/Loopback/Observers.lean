import Multiplex.Proofs.Loopback.Calls

/-!
# What observers hear of a loopback session

Whoever opens a stream of a loopback session hears the answer to the own request once or never.
Which of the two is told by the calls that come after: the answer is heard if its time comes
before the stream is reset and before the session is closed.  Nothing else matters, neither other
streams nor other resets, and nothing else is heard.

`recounts_calls` follows the session through a whole run of calls.  Its induction is on the calls
that are still to come, so for everybody who waits already it has to say what they will hear, by
how far away their answers are (`Call.arrives`, `Call.waits`).  `loopback_delivers_once_or_never`
says what there is to see from outside, where all streams were opened in the run itself.
-/

namespace Multiplex

/-! ## How it goes on with a stream -/

namespace Call

/-- How much time passes in several calls. -/
def elapsed : List Call → Nat
  | [] => 0
  | call :: rest => call.lasts + elapsed rest

/-- Whether an answer comes in several calls, if so much time has still to pass. -/
def arrives (stream : StreamId) : Nat → List Call → Bool
  | _, [] => false
  | left, call :: rest =>
    call.brings left || (!call.ends stream && arrives stream (left - call.lasts) rest)

/-- Whether a stream stays open in several calls, if so much time has still to pass. -/
def waits (stream : StreamId) (left : Nat) (calls : List Call) : Bool :=
  !arrives stream left calls && calls.all fun call => !call.ends stream

private theorem arrives_iff {stream : StreamId} {left : Nat} {calls : List Call} :
    arrives stream left calls = true ↔
      ∃ earlier milliseconds later, calls = earlier ++ .advance milliseconds :: later ∧
        left ≤ elapsed earlier + milliseconds ∧
        ∀ call ∈ earlier, call.ends stream = false := by
  induction calls generalizing left with
  | nil => simp [arrives]
  | cons call rest ih =>
      rw [arrives, Bool.or_eq_true, Bool.and_eq_true, ih, Bool.not_eq_true']
      constructor
      · rintro (hbrings | ⟨hstays, earlier, milliseconds, later, rfl, hleft, hkept⟩)
        · cases call with
          | advance milliseconds =>
              have hleft : left ≤ milliseconds := of_decide_eq_true hbrings
              exact ⟨[], milliseconds, rest, rfl, by rw [elapsed]; omega, by simp⟩
          | openStream | reset | close => cases hbrings
        · refine ⟨call :: earlier, milliseconds, later, rfl, ?_, ?_⟩
          · rw [elapsed]
            omega
          · exact List.forall_mem_cons.mpr ⟨hstays, hkept⟩
      · rintro ⟨earlier, milliseconds, later, hcalls, hleft, hkept⟩
        cases earlier with
        | nil =>
            obtain ⟨rfl, rfl⟩ := List.cons.inj hcalls
            left
            rw [brings, decide_eq_true_iff]
            rwa [elapsed, Nat.zero_add] at hleft
        | cons first earlier =>
            obtain ⟨rfl, rfl⟩ := List.cons.inj hcalls
            obtain ⟨hstays, hkept⟩ := List.forall_mem_cons.mp hkept
            rw [elapsed] at hleft
            exact .inr ⟨hstays, earlier, milliseconds, later, rfl, by omega, hkept⟩

private theorem waits_cons (stream : StreamId) (left : Nat) (call : Call) (rest : List Call) :
    waits stream left (call :: rest) =
      ((!call.brings left && !call.ends stream) && waits stream (left - call.lasts) rest) := by
  rw [waits, waits, arrives, List.all_cons]
  cases call.brings left <;> cases call.ends stream <;> simp

end Call

namespace Subscription

variable {subscription : Subscription} {delay : Nat}

/-- The delay of the session elapses before the stream is reset or the session closed. -/
def IsAnswered (delay : Nat) (subscription : Subscription) : Prop :=
  ∃ earlier milliseconds later, subscription.after = earlier ++ .advance milliseconds :: later ∧
    delay ≤ Call.elapsed earlier + milliseconds ∧
    ∀ call ∈ earlier, call.ends subscription.stream = false

/-- The delay of the session has not elapsed, nor was the stream reset or the session closed. -/
def IsWaiting (delay : Nat) (subscription : Subscription) : Prop :=
  ¬ subscription.IsAnswered delay ∧
    ∀ call ∈ subscription.after, call.ends subscription.stream = false

theorem isAnswered_iff : subscription.IsAnswered delay ↔
    Call.arrives subscription.stream delay subscription.after = true :=
  Call.arrives_iff.symm

theorem isWaiting_iff : subscription.IsWaiting delay ↔
    Call.waits subscription.stream delay subscription.after = true := by
  rw [IsWaiting, isAnswered_iff, Call.waits, Bool.and_eq_true, Bool.not_eq_true', List.all_eq_true,
    Bool.not_eq_true]
  simp only [Bool.not_eq_true']

instance : DecidablePred (IsAnswered delay) := fun _ => decidable_of_iff' _ isAnswered_iff

instance : DecidablePred (IsWaiting delay) := fun _ => decidable_of_iff' _ isWaiting_iff

/-- The stream, as its session lists it while it is open. -/
def entry (subscription : Subscription) : StreamId × Listener :=
  (subscription.stream, .observer subscription.observer)

/-- What is heard of a response. -/
def answer (responder : Responder) (subscription : Subscription) : List StreamEvent :=
  [.response (responder subscription.request).head,
    .data (responder subscription.request).body true]

/-- Who hears it. -/
def tidings (responder : Responder) (subscription : Subscription) : List (String × StreamEvent) :=
  (subscription.answer responder).map fun event => (subscription.observer, event)

end Subscription

namespace Network

variable {α : Type} {network : Network α} {place : SessionKey}
  {session made : LoopbackSession Listener} {book : Book}

/-- Performs several calls one after the other. -/
def calls (network : Network α) (place : SessionKey) (calls : List Call) : Network α :=
  calls.foldl (fun network call => network.call place call) network

/-- The streams that several calls open, each with the calls that come after. -/
def subscriptions (network : Network α) (place : SessionKey) : List Call → List Subscription
  | [] => []
  | call :: rest =>
    (network.subscription? place call rest).toList ++
      (network.call place call).subscriptions place rest

/-- Everything that an observer has heard so far. -/
def heardBy (network : Network α) (observer : String) : List StreamEvent :=
  (network.hearings.filter fun hearing => hearing.1 == observer).map Prod.snd

/-! ## A run of calls -/

private theorem now_of_subscription? {call : Call} {rest : List Call} {subscription : Subscription}
    (hopened : network.subscription? place call rest = some subscription) :
    call.lasts = 0 ∧ subscription.after = rest := by
  unfold subscription? at hopened
  split at hopened
  next request observer =>
    split at hopened
    next stream _ => exact ⟨rfl, by rw [← Option.some.inj hopened]⟩
    next => cases hopened
  next => cases hopened
  next => cases hopened
  next => cases hopened

/-- Of those who wait after a call, some waited before, and one may be new.  A fate is whatever
the calls that are still to come make of a stream whose answer is so far away. -/
theorem filter_waiting_after (fate : StreamId → Nat → List Call → Bool) (call : Call)
    (rest : List Call) :
    ((book.after network.clock call (network.fresh place made call rest)).waiting.filter
        fun awaited =>
          fate awaited.reply.stream (awaited.left (network.clock + call.lasts)) rest) =
      (book.waiting.filter fun awaited =>
        (!call.brings (awaited.left network.clock) && !call.ends awaited.reply.stream) &&
          fate awaited.reply.stream (awaited.left network.clock - call.lasts) rest) ++
      ((network.subscription? place call rest).toList.filter fun subscription =>
        fate subscription.stream made.delay subscription.after).map
          (Subscription.awaited made network.clock network.tickets) := by
  have hfresh : ∀ subscription ∈ (network.subscription? place call rest).toList,
      fate subscription.stream ((subscription.awaited made network.clock network.tickets).left
        (network.clock + call.lasts)) rest =
          fate subscription.stream made.delay subscription.after := by
    intro subscription hmem
    obtain ⟨hlasts, hafter⟩ := now_of_subscription? (Option.mem_toList.mp hmem)
    have hleft : (subscription.awaited made network.clock network.tickets).left
        (network.clock + call.lasts) = made.delay := by
      show network.clock + made.delay - (network.clock + call.lasts) = made.delay
      omega
    rw [hleft, hafter]
  rw [Book.after, fresh, List.filter_append, List.filter_filter, List.filter_map]
  refine congr (congrArg _ (List.filter_congr fun awaited _ => ?_))
    (congrArg _ (List.filter_congr hfresh))
  rw [Bool.and_comm, Awaited.left_add]

/-- In some calls a network has got where the book says. -/
structure Recounts (first last : Network α) (place : SessionKey) (made : LoopbackSession Listener)
    (before after : Book) (calls : List Call) (subscriptions : List Subscription) : Prop where
  attends : last.Attends place made after
  waiting : after.waiting.map Awaited.entry =
    ((before.waiting.filter fun awaited =>
      Call.waits awaited.reply.stream (awaited.left first.clock) calls).map Awaited.entry) ++
    (subscriptions.filter fun subscription =>
      Call.waits subscription.stream made.delay subscription.after).map Subscription.entry
  opened : after.opened = before.opened + subscriptions.length
  isClosed : after.isClosed = (before.isClosed || calls.any Call.isClose)
  hearings : last.hearings = first.hearings ++
    ((before.waiting.filter fun awaited =>
      Call.arrives awaited.reply.stream (awaited.left first.clock) calls).flatMap
        Awaited.tidings ++
    (subscriptions.filter fun subscription =>
      Call.arrives subscription.stream made.delay subscription.after).flatMap
        (Subscription.tidings made.responder))

/-- Whoever waits for answers gets them in the order of the book, so that those whose answers come
now are ahead of those whose answers come later. -/
private theorem filter_arrives (hattends : network.Attends place made book) (call : Call)
    (rest : List Call) :
    (book.waiting.filter fun awaited =>
        Call.arrives awaited.reply.stream (awaited.left network.clock) (call :: rest)) =
      (book.waiting.filter fun awaited => call.brings (awaited.left network.clock)) ++
      book.waiting.filter fun awaited =>
        (!call.brings (awaited.left network.clock) && !call.ends awaited.reply.stream) &&
          Call.arrives awaited.reply.stream (awaited.left network.clock - call.lasts) rest := by
  obtain ⟨session, -, hfollows⟩ := hattends
  have hbefore : book.waiting.Pairwise fun first second =>
      call.brings (second.left network.clock) = true →
        call.brings (first.left network.clock) = true := by
    refine hfollows.waiting_inOrder.imp fun {first second} hprecedes hsecond => ?_
    cases call with
    | advance milliseconds =>
        rw [Awaited.brings_left, decide_eq_true_iff] at hsecond ⊢
        exact Nat.le_trans hprecedes.1 hsecond
    | openStream | reset | close => cases hsecond
  conv_lhs => rw [← filter_append_filter_not hbefore]
  rw [List.filter_append, List.filter_filter, List.filter_filter]
  refine congr (congrArg _ (List.filter_congr fun awaited _ => ?_))
    (List.filter_congr fun awaited _ => ?_)
  · rw [Call.arrives]
    cases call.brings (awaited.left network.clock) <;> simp
  · rw [Call.arrives]
    cases call.brings (awaited.left network.clock) <;> simp

/-- A session keeps to the book through any run of calls, as long as no stream number has come
twice.  The induction is on the calls that are still to come: the next one is recorded, and what
becomes of those who wait then is told by the others. -/
private theorem recounts_calls (hattends : network.Attends place made book) (calls : List Call)
    (hfew : book.opened + (network.subscriptions place calls).length < 2 ^ 31) :
    ∃ after, Recounts network (network.calls place calls) place made book after calls
      (network.subscriptions place calls) := by
  induction calls generalizing network book with
  | nil =>
      refine ⟨book, hattends, ?_, rfl, ?_, ?_⟩
      · simp [subscriptions, Call.waits, Call.arrives]
      · simp
      · simp [subscriptions, Call.arrives, calls]
  | cons call rest ih =>
      rw [subscriptions, List.length_append] at hfew
      have hrecords := records_call hattends call rest (by omega)
      have hclock := hrecords.clock
      obtain ⟨after, hrecounts⟩ := ih hrecords.attends (by
        rw [Book.opened_after, fresh, List.length_map]
        omega)
      refine ⟨after, hrecounts.attends, ?_, ?_, ?_, ?_⟩
      · rw [hrecounts.waiting, hclock, filter_waiting_after, subscriptions, List.filter_append]
        simp only [List.map_append, List.map_map, List.append_assoc, Call.waits_cons]
        rfl
      · rw [hrecounts.opened, Book.opened_after, fresh, List.length_map, subscriptions,
          List.length_append, Nat.add_assoc]
      · rw [hrecounts.isClosed, Book.isClosed_after, List.any_cons, Bool.or_assoc]
      · have hheard := hrecounts.hearings
        rw [hclock, filter_waiting_after, hrecords.hearings] at hheard
        rw [filter_arrives hattends, subscriptions, List.filter_append]
        show ((network.call place call).calls place rest).hearings = _
        rw [hheard]
        simp only [List.flatMap_append, List.flatMap_map, List.append_assoc]
        rfl

private theorem numbers_of_subscriptions (hattends : network.Attends place made book)
    (calls : List Call) (hfew : book.opened + (network.subscriptions place calls).length < 2 ^ 31) :
    (network.subscriptions place calls).map (fun subscription =>
        subscription.stream.number.toNat) =
      (List.range' book.opened (network.subscriptions place calls).length).map fun index =>
        2 * index + 1 := by
  induction calls generalizing network book with
  | nil => rfl
  | cons call rest ih =>
      rw [subscriptions, List.length_append] at hfew
      have hrecords := records_call hattends call rest (by omega)
      have hrest := ih hrecords.attends (by
        rw [Book.opened_after, fresh, List.length_map]
        omega)
      rw [Book.opened_after, fresh, List.length_map] at hrest
      rw [subscriptions, List.length_append]
      cases hopened : network.subscription? place call rest with
      | none => simpa [hopened] using hrest
      | some subscription =>
          have hnumber := number_of_subscription? hattends hopened (by omega)
          rw [hopened] at hrest
          rw [Option.toList_some, List.singleton_append, List.map_cons, hrest, hnumber,
            List.length_singleton, Nat.add_comm 1, List.range'_succ, List.map_cons]
          rfl

/-! ## At any time -/

namespace Attends

variable (hattends : network.Attends place made book)
include hattends

/-- The open streams are those of the observers who wait, never more than there may be. -/
theorem streams : ∃ session, network.loopback? place = some session ∧
    session.streams = book.waiting.map Awaited.entry ∧ session.openStreams ≤ made.limit := by
  obtain ⟨session, honly, hfollows⟩ := hattends
  exact ⟨session, honly.loopback?, hfollows.streams, hfollows.limit ▸ hfollows.room⟩

/-- The reset of a stream that nobody waits for is noticed, and changes nothing. -/
theorem resetStream_of_absent {stream : StreamId}
    (habsent : ∀ entry ∈ book.waiting.map Awaited.entry, entry.1 ≠ stream) (code : ErrorCode) :
    network.resetStream quiet place stream code =
      network.note (.streamReset place stream code) := by
  obtain ⟨session, honly, hfollows⟩ := hattends
  have hsame : session.reset stream = session := by
    rw [hfollows.ordered.reset_eq_drop,
      LoopbackSession.drop_of_absent (hfollows.streams ▸ habsent)]
  rw [honly.resetStream_eq, hsame, honly.setTransport_self]

/-- A stream is refused if the session is closed or full, and only then. -/
theorem openStream_snd (hfew : book.opened < 2 ^ 31) (request : Http.Request)
    (listener : Listener) :
    (network.openStream quiet place request listener).2 =
      if book.isClosed then .error .closed
      else if made.limit ≤ book.waiting.length then .error (.tooManyStreams made.limit)
      else .ok ⟨UInt32.ofNat (2 * book.opened + 1)⟩ := by
  obtain ⟨session, honly, hfollows⟩ := hattends
  have hnext : session.nextStream = ⟨UInt32.ofNat (2 * book.opened + 1)⟩ := by
    rw [← hfollows.ordered.next hfew, UInt32.ofNat_toNat]
  rw [(openStream_of_loopback honly.loopback? request listener).1, LoopbackSession.openStream,
    ← hfollows.isClosed, ← hfollows.openStreams_eq, ← hfollows.limit, ← hnext]
  split
  next => rfl
  next => split <;> rfl

/-- A close is the first one if the session is open, and calls back in any case. -/
theorem closeSessionCalling_eq {κ : Type} (code : ErrorCode) (reason : String)
    (callback : CloseCallback κ) (memory : κ) :
    network.closeSessionCalling quiet place code reason callback memory =
      (network.call place (.close code reason), !book.isClosed, callback (.ok ()) memory) := by
  obtain ⟨session, honly, hfollows⟩ := hattends
  obtain ⟨name, attached, hsession⟩ := loopback?_eq_some.mp honly.loopback?
  rw [Network.closeSessionCalling_eq quiet (Option.isSome_iff_exists.mpr ⟨_, hsession⟩), call,
    honly.closeSession_eq, session.close_snd, hfollows.isClosed]

end Attends

private theorem heard_of_tidings (responder : Responder) (subscriptions : List Subscription)
    (observer : String) :
    (((subscriptions.flatMap (Subscription.tidings responder)).filter fun hearing =>
        hearing.1 == observer).map Prod.snd) =
      (subscriptions.filter fun each => each.observer == observer).flatMap
        (Subscription.answer responder) := by
  induction subscriptions with
  | nil => rfl
  | cons first rest ih =>
      rw [List.flatMap_cons, List.filter_append, List.map_append, ih]
      cases hown : first.observer == observer with
      | true => simp [Subscription.tidings, Subscription.answer, hown]
      | false => simp [Subscription.tidings, Subscription.answer, hown]

private theorem filter_observer_eq {subscriptions : List Subscription} {subscription : Subscription}
    (honce : subscriptions.Nodup) (hmem : subscription ∈ subscriptions)
    (hunique : ∀ other ∈ subscriptions,
      other.observer = subscription.observer → other = subscription) :
    (subscriptions.filter fun each => each.observer == subscription.observer) =
      [subscription] := by
  refine eq_singleton_of_nodup (honce.filter _) fun each => ?_
  rw [List.mem_filter]
  constructor
  · rintro ⟨heach, hsame⟩
    exact hunique each heach (eq_of_beq hsame)
  · rintro rfl
    exact ⟨hmem, beq_self_eq_true _⟩

/-! ## What there is to see from outside -/

/-- The network in which there is one loopback session, on which nothing has happened yet. -/
def withLoopback (surroundings : α) (name : String) (made : LoopbackSession Listener) :
    Network α :=
  (blank surroundings).undergo (.makeSession name (.loopback made))

theorem hasOnly_withLoopback (surroundings : α) (name : String)
    (made : LoopbackSession Listener) :
    (withLoopback surroundings name made).HasOnly ⟨1⟩ made := by
  intro other
  have hsession : (withLoopback surroundings name made).session? other =
      if other = ⟨1⟩ then some ⟨name, .loopback made, none⟩ else none := by
    refine (session?_addSession (blank surroundings) _ other).trans ?_
    rw [session?_blank]
    rfl
  by_cases heq : other = ⟨1⟩
  · rw [if_pos heq] at hsession ⊢
    exact loopback?_eq_some.mpr ⟨name, none, hsession⟩
  · rw [if_neg heq] at hsession ⊢
    rw [loopback?, hsession]

/-- What is seen of a session and heard from it, after the streams of `subscriptions` were opened.
`closed` says whether the session was closed. -/
structure DeliversOnceOrNever (network : Network α) (place : SessionKey)
    (made : LoopbackSession Listener) (subscriptions : List Subscription) (closed : Bool) :
    Prop where
  /-- The open streams are those of the observers who are still waiting, and never more than there
  may be. -/
  streams : ∃ session, network.loopback? place = some session ∧
    session.streams =
      (subscriptions.filter fun each => each.IsWaiting made.delay).map Subscription.entry ∧
    session.openStreams ≤ made.limit
  /-- Everything that was heard are the answers of those whose delay has elapsed, head and body of
  each, in the order in which their streams were opened. -/
  hearings : network.hearings =
    (subscriptions.filter fun each => each.IsAnswered made.delay).flatMap
      (Subscription.tidings made.responder)
  /-- An observer of one stream has heard the answer to the own request or nothing. -/
  heard : ∀ subscription ∈ subscriptions,
    (∀ other ∈ subscriptions, other.observer = subscription.observer → other = subscription) →
    network.heardBy subscription.observer =
      if subscription.IsAnswered made.delay then subscription.answer made.responder else []
  /-- The streams that were opened have odd numbers, without a gap. -/
  numbers : subscriptions.map (fun each => each.stream.number.toNat) =
    (List.range subscriptions.length).map fun index => 2 * index + 1
  /-- The reset of a stream that nobody waits for is noticed, and changes nothing. -/
  reset : ∀ stream code,
    (∀ each ∈ subscriptions, each.IsWaiting made.delay → each.stream ≠ stream) →
    network.resetStream quiet place stream code = network.note (.streamReset place stream code)
  /-- Nobody waits for a stream with an even number. -/
  resetEven : ∀ stream code, stream.isClientInitiated = false →
    network.resetStream quiet place stream code = network.note (.streamReset place stream code)
  /-- A stream is refused if the session is closed or full, and only then.  Otherwise it gets the
  number after the last one that was given out. -/
  openStream : ∀ request listener, (network.openStream quiet place request listener).2 =
    if closed then .error .closed
    else if made.limit ≤ (subscriptions.filter fun each => each.IsWaiting made.delay).length then
      .error (.tooManyStreams made.limit)
    else .ok ⟨UInt32.ofNat (2 * subscriptions.length + 1)⟩
  /-- A close is the first one if the session is not closed, and calls back once in any case. -/
  close : ∀ {κ : Type} (code : ErrorCode) (reason : String) (callback : CloseCallback κ)
    (memory : κ), network.closeSessionCalling quiet place code reason callback memory =
      (network.call place (.close code reason), !closed, callback (.ok ()) memory)

/-- A run of calls that is recounted from an empty book has delivered once or never. -/
theorem Recounts.delivers {first last : Network α} {calls : List Call}
    {subscriptions : List Subscription}
    (hrecounts : Recounts first last place made {} book calls subscriptions)
    (hsilent : first.hearings = []) (hfew : subscriptions.length < 2 ^ 31)
    (hnumbers : subscriptions.map (fun each => each.stream.number.toNat) =
      (List.range subscriptions.length).map fun index => 2 * index + 1) :
    last.DeliversOnceOrNever place made subscriptions (calls.any Call.isClose) := by
  have hattends := hrecounts.attends
  have hopened : book.opened = subscriptions.length :=
    hrecounts.opened.trans (Nat.zero_add _)
  have hclosed : book.isClosed = calls.any Call.isClose :=
    hrecounts.isClosed.trans (Bool.false_or _)
  have hwaiting : book.waiting.map Awaited.entry =
      (subscriptions.filter fun each => each.IsWaiting made.delay).map Subscription.entry := by
    refine hrecounts.waiting.trans ?_
    refine congrArg (List.map Subscription.entry) (List.filter_congr fun each _ => ?_)
    rw [Bool.eq_iff_iff, decide_eq_true_iff, Subscription.isWaiting_iff]
  have hlength : book.waiting.length =
      (subscriptions.filter fun each => each.IsWaiting made.delay).length := by
    have hlengths := congrArg List.length hwaiting
    rwa [List.length_map, List.length_map] at hlengths
  have hhearings : last.hearings =
      (subscriptions.filter fun each => each.IsAnswered made.delay).flatMap
        (Subscription.tidings made.responder) := by
    rw [hrecounts.hearings, hsilent, List.nil_append]
    refine congrArg (List.flatMap _ ·) (List.filter_congr fun each _ => ?_)
    rw [Bool.eq_iff_iff, decide_eq_true_iff, Subscription.isAnswered_iff]
  have honce : subscriptions.Nodup := by
    refine List.Nodup.of_map (fun each => each.stream.number.toNat) ?_
    rw [hnumbers]
    refine List.nodup_range.map fun first second hsame => ?_
    omega
  have habsent : ∀ stream,
      (∀ each ∈ subscriptions, each.IsWaiting made.delay → each.stream ≠ stream) →
      ∀ entry ∈ book.waiting.map Awaited.entry, entry.1 ≠ stream := by
    intro stream hnobody entry hmem
    rw [hwaiting] at hmem
    obtain ⟨each, heach, rfl⟩ := List.mem_map.mp hmem
    obtain ⟨hthere, hwaits⟩ := List.mem_filter.mp heach
    exact hnobody each hthere (of_decide_eq_true hwaits)
  exact
    { streams := hwaiting ▸ hattends.streams
      hearings := hhearings
      heard := by
        intro subscription hmem hunique
        rw [heardBy, hhearings, heard_of_tidings, List.filter_comm,
          filter_observer_eq honce hmem hunique]
        by_cases hanswered : subscription.IsAnswered made.delay
        · simp [hanswered]
        · simp [hanswered]
      numbers := hnumbers
      reset := fun stream code hnobody =>
        hattends.resetStream_of_absent (habsent stream hnobody) code
      resetEven := by
        intro stream code heven
        refine hattends.resetStream_of_absent (habsent stream fun each heach _ hsame => ?_) code
        have hodd : each.stream.number.toNat ∈
            (List.range subscriptions.length).map fun index => 2 * index + 1 := by
          rw [← hnumbers]
          exact List.mem_map.mpr ⟨each, heach, rfl⟩
        obtain ⟨index, -, hnumber⟩ := List.mem_map.mp hodd
        have hclient : stream.isClientInitiated = true := by
          rw [StreamId.isClientInitiated_iff, ← hsame, ← hnumber]
          omega
        rw [heven] at hclient
        exact Bool.noConfusion hclient
      openStream := by
        intro request listener
        rw [hattends.openStream_snd (hopened ▸ hfew), hclosed, hopened, hlength]
      close := by
        intro κ code reason callback memory
        rw [hattends.closeSessionCalling_eq, hclosed] }

/-- Through any calls on a loopback session, its observers hear the answers to the own requests
once or never, and the session does not let more streams be open than it may. -/
theorem loopback_delivers_once_or_never (surroundings : α) (name : String)
    (connection : ConnectionId) (limit delay : Nat) (responder : Responder) (calls : List Call)
    (hfew : ((withLoopback surroundings name { connection, limit, delay, responder }).subscriptions
      ⟨1⟩ calls).length < 2 ^ 31) :
    let made : LoopbackSession Listener := { connection, limit, delay, responder }
    let network := withLoopback surroundings name made
    (network.calls ⟨1⟩ calls).DeliversOnceOrNever ⟨1⟩ made (network.subscriptions ⟨1⟩ calls)
      (calls.any Call.isClose) := by
  intro made network
  have hattends : network.Attends ⟨1⟩ made {} :=
    ⟨made, hasOnly_withLoopback surroundings name made,
      LoopbackSession.follows_of_new ⟨rfl, rfl, rfl⟩ rfl _ _⟩
  have hsum : ({} : Book).opened + (network.subscriptions ⟨1⟩ calls).length < 2 ^ 31 := by
    rwa [show ({} : Book).opened = 0 from rfl, Nat.zero_add]
  obtain ⟨book, hrecounts⟩ := recounts_calls hattends calls hsum
  have hnumbers := numbers_of_subscriptions hattends calls hsum
  rw [show ({} : Book).opened = 0 from rfl, ← List.range_eq_range'] at hnumbers
  exact hrecounts.delivers rfl hfew hnumbers

/-- Calls on a session that lets one stream be open and answers after 5 milliseconds.  The first
observer hears the answer, the second is refused, the third is cut off by a reset, and the fourth
by a close. -/
def hastyCalls (request : Http.Request) : List Call :=
  [.openStream request "answered", .openStream request "refused", .reset ⟨2⟩ .cancel, .advance 5,
    .openStream request "reset", .reset ⟨1⟩ .cancel, .reset ⟨3⟩ .cancel, .advance 5,
    .openStream request "closed", .advance 4, .close .noError "", .advance 9]

/-- Three of four streams are opened, and one of their three observers hears the answer. -/
theorem loopback_delivers_one_of_three :
    let made : LoopbackSession Listener :=
      { connection := ⟨1⟩, limit := 1, delay := 5, responder := fun _ => ⟨⟨200, .empty⟩, [104]⟩ }
    let calls := hastyCalls ⟨.connect, .absolute .https ⟨"a"⟩ .slash, .http2, ⟨[]⟩, []⟩
    let network := withLoopback () "s" made
    let reached := network.calls ⟨1⟩ calls
    (network.subscriptions ⟨1⟩ calls).length < 2 ^ 31 ∧
      (network.subscriptions ⟨1⟩ calls).map (fun each => each.stream.number.toNat) = [1, 3, 5] ∧
      reached.hearings =
        [("answered", .response ⟨200, .empty⟩), ("answered", .data [104] true)] ∧
      (reached.closeSessionCalling quiet ⟨1⟩ .noError "" (fun _ count => count + 1) 0).2 =
        (false, 1) := by
  intro made calls network reached
  have hfew : (network.subscriptions ⟨1⟩ calls).length < 2 ^ 31 := by decide +kernel
  have hdelivers := loopback_delivers_once_or_never () "s" ⟨1⟩ 1 5 _ calls hfew
  refine ⟨hfew, hdelivers.numbers.trans ?_, hdelivers.hearings.trans ?_,
    (congrArg Prod.snd (hdelivers.close .noError "" _ 0)).trans ?_⟩
  · decide +kernel
  · decide +kernel
  · decide +kernel

end Network

end Multiplex
