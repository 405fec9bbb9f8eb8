import Multiplex.Proofs.Lists
import Multiplex.Proofs.Loopback.Queue

/-!
# Calls on a loopback session

Somebody who has a loopback session in hand opens streams, resets them and closes the session,
and meanwhile time passes.  Here one such call is followed through.

A session keeps an answer that is still to come in one list, and the stream that it is for, with
the listener, in another.  To reset a stream or to close the session concerns the second list
only; an answer whose stream is gone stays until its time has come, and then finds nobody.  So
what will be heard is told by the two lists together.  `Follows` says how they belong together:
the open streams are those of the answers that somebody waits for, in the order in which the
answers will come.

## What a call does

`Book` is what one would write down to know who will hear what, and `Book.after` what to write
after a call.  `Attends.call` says that the session keeps to the book, call by call.
-/

namespace Multiplex

/-! ## Calls -/

/-- What is done to a loopback session. -/
inductive Call
  | openStream (request : Http.Request) (observer : String)
  | reset (stream : StreamId) (code : ErrorCode)
  | close (code : ErrorCode) (reason : String)
  | advance (milliseconds : Nat)

namespace Call

/-- How much time passes. -/
def lasts : Call → Nat
  | .advance milliseconds => milliseconds
  | .openStream .. | .reset .. | .close .. => 0

/-- Whether the session is closed afterwards, whatever it was before. -/
def isClose : Call → Bool
  | .close .. => true
  | .openStream .. | .reset .. | .advance _ => false

/-- Whether a stream that is open ends without an answer. -/
def ends (stream : StreamId) : Call → Bool
  | .reset other _ => other == stream
  | .close .. => true
  | .openStream .. | .advance _ => false

/-- Whether an answer comes for which so much time has still to pass. -/
def brings (left : Nat) : Call → Bool
  | .advance milliseconds => left ≤ milliseconds
  | .openStream .. | .reset .. | .close .. => false

end Call

/-- An observer whose stream was opened, with the calls that came after. -/
structure Subscription where
  stream : StreamId
  request : Http.Request
  observer : String
  after : List Call

namespace Network

variable {α : Type}

/-- Performs a call on the session at a place. -/
def call (network : Network α) (place : SessionKey) : Call → Network α
  | .openStream request observer =>
    (network.openStream quiet place request (.observer observer)).1
  | .reset stream code => network.resetStream quiet place stream code
  | .close code reason => (network.closeSession quiet place code reason).1
  | .advance milliseconds => (network.elapse milliseconds).deliverDue quiet

/-- The stream that a call opens, if it opens one. -/
def subscription? (network : Network α) (place : SessionKey) (call : Call) (after : List Call) :
    Option Subscription :=
  match call with
  | .openStream request observer =>
    match (network.openStream quiet place request (.observer observer)).2 with
    | .ok stream => some ⟨stream, request, observer, after⟩
    | .error _ => none
  | .reset .. | .close .. | .advance _ => none

end Network

/-- Who hears what, where a notice says that somebody hears something. -/
def Notice.hearing? : Notice → Option (String × StreamEvent)
  | .heard observer event => some (observer, event)
  | _ => none

/-- Everything that observers have heard so far. -/
def Network.hearings {α : Type} (network : Network α) : List (String × StreamEvent) :=
  network.trace.toList.filterMap Notice.hearing?

/-! ## The book -/

/-- An answer that an observer waits for. -/
structure Awaited where
  reply : Reply
  observer : String

namespace Awaited

/-- The stream of the answer, as its session lists it while it is open. -/
def entry (awaited : Awaited) : StreamId × Listener :=
  (awaited.reply.stream, .observer awaited.observer)

/-- How much time has still to pass. -/
def left (now : Nat) (awaited : Awaited) : Nat := awaited.reply.due - now

theorem left_add (now passed : Nat) (awaited : Awaited) :
    awaited.left (now + passed) = awaited.left now - passed := Nat.sub_add_eq ..

/-- Answers come whose time is not later than now. -/
theorem brings_left (now milliseconds : Nat) (awaited : Awaited) :
    (Call.advance milliseconds).brings (awaited.left now) =
      decide (awaited.reply.due ≤ now + milliseconds) := by
  rw [Call.brings, left, decide_eq_decide]
  omega

/-- What the observer hears when the answer comes. -/
def tidings (awaited : Awaited) : List (String × StreamEvent) :=
  [(awaited.observer, .response awaited.reply.response.head),
    (awaited.observer, .data awaited.reply.response.body true)]

end Awaited

/-- What the observer of a stream that is opened now waits for. -/
def Subscription.awaited (made : LoopbackSession Listener) (now ticket : Nat)
    (subscription : Subscription) : Awaited where
  reply :=
    ⟨subscription.stream, made.responder subscription.request, now + made.delay, ticket⟩
  observer := subscription.observer

/-- What the observer waits for whose stream a call opens, if it opens one. -/
def Network.fresh {α : Type} (network : Network α) (place : SessionKey)
    (made : LoopbackSession Listener) (call : Call) (rest : List Call) : List Awaited :=
  (network.subscription? place call rest).toList.map
    (Subscription.awaited made network.clock network.tickets)

/-- What there is to know of a loopback session from outside. -/
structure Book where
  waiting : List Awaited := []
  opened : Nat := 0
  isClosed : Bool := false

/-- What to write after a call that has opened the `fresh` streams. -/
def Book.after (book : Book) (now : Nat) (call : Call) (fresh : List Awaited) : Book where
  waiting := (book.waiting.filter fun awaited =>
    !call.brings (awaited.left now) && !call.ends awaited.reply.stream) ++ fresh
  opened := book.opened + fresh.length
  isClosed := book.isClosed || call.isClose

namespace Book

variable (book : Book) (now : Nat)

@[simp] theorem opened_after (call : Call) (fresh : List Awaited) :
    (book.after now call fresh).opened = book.opened + fresh.length := rfl

@[simp] theorem isClosed_after (call : Call) (fresh : List Awaited) :
    (book.after now call fresh).isClosed = (book.isClosed || call.isClose) := rfl

theorem after_openStream (request : Http.Request) (observer : String) (fresh : List Awaited) :
    book.after now (.openStream request observer) fresh =
      { book with waiting := book.waiting ++ fresh, opened := book.opened + fresh.length } := by
  simp [after, Call.brings, Call.ends, Call.isClose]

private theorem after_reset (stream : StreamId) (code : ErrorCode) :
    book.after now (.reset stream code) [] =
      { book with
        waiting := book.waiting.filter fun awaited => stream != awaited.reply.stream } := by
  simp [after, Call.brings, Call.ends, Call.isClose, bne]

private theorem after_close (code : ErrorCode) (reason : String) :
    book.after now (.close code reason) [] = { book with waiting := [], isClosed := true } := by
  simp [after, Call.ends, Call.isClose]

theorem after_advance (milliseconds : Nat) :
    book.after now (.advance milliseconds) [] =
      { book with
        waiting := book.waiting.filter fun awaited =>
          decide (now + milliseconds < awaited.reply.due) } := by
  simp [after, Awaited.brings_left, Call.ends, Call.isClose, ← decide_not]

end Book

/-! ## One session -/

/-- One answer comes before another, and they are for different streams. -/
def Reply.Precedes (first second : Reply) : Prop :=
  first.due ≤ second.due ∧ first.ticket < second.ticket ∧ first.stream ≠ second.stream

namespace LoopbackSession

variable {made session after : LoopbackSession Listener} {book : Book} {now tickets : Nat}

private theorem listener?_of_absent {stream : StreamId}
    (habsent : ∀ entry ∈ session.streams, entry.1 ≠ stream) : session.listener? stream = none := by
  rw [listener?, Option.map_eq_none_iff, List.find?_eq_none]
  intro entry hmem
  simpa using habsent entry hmem

/-- The first stream has the listener that is listed with it, and can be taken away. -/
theorem first_of_absent {first : StreamId × Listener} {others : List (StreamId × Listener)}
    (hstreams : session.streams = first :: others) (habsent : ∀ entry ∈ others, entry.1 ≠ first.1) :
    session.listener? first.1 = some first.2 ∧ (session.drop first.1).streams = others := by
  constructor
  · rw [listener?, hstreams]
    simp
  · show session.streams.filter _ = others
    rw [hstreams, List.filter_cons_of_neg (by simp)]
    exact List.filter_eq_self.mpr fun entry hmem => by simpa using habsent entry hmem

/-- A session behaves as it was made, and keeps to the book. -/
structure Follows (session made : LoopbackSession Listener) (book : Book) (now tickets : Nat) :
    Prop where
  limit : session.limit = made.limit
  delay : session.delay = made.delay
  responder : session.responder = made.responder
  isClosed : session.isClosed = book.isClosed
  streams : session.streams = book.waiting.map Awaited.entry
  replies : (book.waiting.map Awaited.reply).Sublist session.replies
  ordered : session.Ordered book.opened
  ahead : session.IsAhead
  room : session.openStreams ≤ session.limit
  inOrder : session.replies.Pairwise Reply.Precedes
  soon : ∀ reply ∈ session.replies, reply.due ≤ now + session.delay ∧ reply.ticket < tickets

/-- A session that was just made has an empty book. -/
theorem follows_of_new (hnew : made.IsNew) (hreplies : made.replies = []) (now tickets : Nat) :
    made.Follows made {} now tickets where
  limit := rfl
  delay := rfl
  responder := rfl
  isClosed := hnew.isClosed
  streams := hnew.streams
  replies := List.nil_sublist _
  ordered := hnew.ordered
  ahead := by simp [IsAhead, hreplies]
  room := by simp [openStreams, hnew.streams]
  inOrder := by simp [hreplies]
  soon := by simp [hreplies]

namespace Follows

variable (hfollows : session.Follows made book now tickets)
include hfollows

/-- Whoever waits gets the answers in the order of the book. -/
theorem waiting_inOrder :
    book.waiting.Pairwise fun first second => first.reply.Precedes second.reply :=
  List.pairwise_map.mp (hfollows.inOrder.sublist hfollows.replies)

theorem openStreams_eq : session.openStreams = book.waiting.length := by
  rw [openStreams, hfollows.streams, List.length_map]

theorem later {more : Nat} (hmore : tickets ≤ more) : session.Follows made book now more :=
  { hfollows with
    soon := fun reply hmem => by
      obtain ⟨hdue, hticket⟩ := hfollows.soon reply hmem
      exact ⟨hdue, Nat.lt_of_lt_of_le hticket hmore⟩ }

/-- Streams and answers may go, as long as nobody loses an answer that they wait for. -/
theorem fewer {waiting : List Awaited} {replies : List Reply} {isClosed : Bool} {later : Nat}
    (hafter : after = { session with streams := waiting.map Awaited.entry, replies, isClosed })
    (hwaiting : waiting.Sublist book.waiting) (hreplies : replies.Sublist session.replies)
    (hkept : (waiting.map Awaited.reply).Sublist replies) (hclean : isClosed = true → waiting = [])
    (hlater : now ≤ later) : after.Follows made { book with waiting, isClosed } later tickets := by
  subst hafter
  exact
    { limit := hfollows.limit
      delay := hfollows.delay
      responder := hfollows.responder
      isClosed := rfl
      streams := rfl
      replies := hkept
      ordered := hfollows.ordered.fewer rfl
        (by rw [hfollows.streams]; exact hwaiting.map Awaited.entry)
        fun hclosed => by rw [hclean hclosed, List.map_nil]
      ahead := fun reply hmem => hfollows.ahead reply (hreplies.subset hmem)
      room := by
        have hroom := hfollows.room
        rw [hfollows.openStreams_eq] at hroom
        rw [openStreams, List.length_map]
        exact Nat.le_trans hwaiting.length_le hroom
      inOrder := hfollows.inOrder.sublist hreplies
      soon := fun reply hmem => by
        obtain ⟨hdue, hticket⟩ := hfollows.soon reply (hreplies.subset hmem)
        refine ⟨?_, hticket⟩
        show reply.due ≤ later + session.delay
        omega }

theorem waiting_eq_nil (hclosed : book.isClosed = true) : book.waiting = [] := by
  have hempty := hfollows.ordered.clean (hfollows.isClosed.trans hclosed)
  rwa [hfollows.streams, List.map_eq_nil_iff] at hempty

theorem reset (stream : StreamId) (code : ErrorCode) :
    (session.reset stream).Follows made (book.after now (.reset stream code) []) now tickets := by
  have hkept : (book.waiting.filter fun awaited => stream != awaited.reply.stream).Sublist
      book.waiting := List.filter_sublist
  have hafter : session.reset stream =
      { session with
        streams := (book.waiting.filter fun awaited =>
          stream != awaited.reply.stream).map Awaited.entry
        isClosed := book.isClosed } := by
    have hstreams : session.streams.filter (fun entry => entry.1 != stream) =
        (book.waiting.filter fun awaited => stream != awaited.reply.stream).map Awaited.entry := by
      rw [hfollows.streams, List.filter_map]
      refine congrArg _ (List.filter_congr fun awaited _ => ?_)
      exact bne_comm
    rw [hfollows.ordered.reset_eq_drop, LoopbackSession.drop, hstreams, ← hfollows.isClosed]
  rw [Book.after_reset]
  refine hfollows.fewer hafter hkept (List.Sublist.refl _)
    ((hkept.map Awaited.reply).trans hfollows.replies) (fun hclosed => ?_) (Nat.le_refl now)
  exact List.eq_nil_of_sublist_nil (hfollows.waiting_eq_nil hclosed ▸ hkept)

/-- To close the session is to strike out everything. -/
theorem close (code : ErrorCode) (reason : String) :
    session.close.1.Follows made (book.after now (.close code reason) []) now tickets := by
  have hafter : session.close.1 = { session with streams := [], isClosed := true } := by
    unfold LoopbackSession.close
    split
    next hclosed =>
      have hempty : session.streams = [] := hfollows.ordered.clean hclosed
      rw [← hempty, ← hclosed]
    next => rfl
  rw [Book.after_close]
  exact hfollows.fewer hafter (List.nil_sublist _) (List.Sublist.refl _) (List.nil_sublist _)
    (fun _ => rfl) (Nat.le_refl now)

/-- To open a stream is to write down what its observer waits for. -/
theorem openStream (hfew : book.opened + 1 < 2 ^ 31) {request : Http.Request} {observer : String}
    {stream : StreamId} (hresult :
      (session.openStream now tickets request (.observer observer)).2 = .ok stream)
    (rest : List Call) :
    (session.openStream now tickets request (.observer observer)).1.Follows made
      (book.after now (.openStream request observer)
        [Subscription.awaited made now tickets ⟨stream, request, observer, rest⟩])
      now (tickets + 1) := by
  have hopened := opened_of_openStream hresult
  have hqueues := session.queues_openStream now tickets request (.observer observer)
  obtain ⟨hnumber, hreplies⟩ := replies_of_openStream hresult
  have hordered := hfollows.ordered.grown hopened
  have hanswer : session.answerTo now tickets request =
      (Subscription.awaited made now tickets ⟨stream, request, observer, rest⟩).reply := by
    rw [answerTo, hnumber, hfollows.responder, hfollows.delay, Subscription.awaited]
  have hstreams : (session.openStream now tickets request (.observer observer)).1.streams =
      session.streams ++ [(stream, .observer observer)] := by
    rw [hopened.streams, hnumber, hfollows.ordered.drop_next (by omega)]
  rw [Book.after_openStream]
  generalize (session.openStream now tickets request (.observer observer)).1 = after at *
  rw [hanswer] at hreplies
  exact
    { limit := hopened.limit.trans hfollows.limit
      delay := hqueues.delay.trans hfollows.delay
      responder := hqueues.responder.trans hfollows.responder
      isClosed := hopened.isClosed.trans hfollows.isClosed
      streams := by rw [hstreams, hfollows.streams, List.map_append]; rfl
      replies := by
        rw [hreplies, List.map_append]
        exact hfollows.replies.append (List.Sublist.refl _)
      ordered := hordered
      ahead := hqueues.isAhead hfollows.ordered hordered (Nat.le_succ _) hfew hfollows.ahead
      room := by
        have hroom := hopened.room
        rw [openStreams, hstreams, List.length_append, hopened.limit]
        exact hroom
      inOrder := by
        rw [hreplies, List.pairwise_append]
        refine ⟨hfollows.inOrder, List.pairwise_singleton .., fun earlier hmem last hlast => ?_⟩
        obtain rfl := List.mem_singleton.mp hlast
        obtain ⟨hdue, hticket⟩ := hfollows.soon earlier hmem
        have hahead := hfollows.ahead earlier hmem
        rw [hfollows.delay] at hdue
        refine ⟨hdue, hticket, fun hsame => ?_⟩
        rw [hsame, ← hnumber] at hahead
        exact Nat.lt_irrefl _ hahead
      soon := by
        intro reply hmem
        rw [hqueues.delay]
        rw [hreplies, List.mem_append, List.mem_singleton] at hmem
        rcases hmem with hold | rfl
        · obtain ⟨hdue, hticket⟩ := hfollows.soon reply hold
          exact ⟨hdue, Nat.lt_succ_of_lt hticket⟩
        · rw [hfollows.delay]
          exact ⟨Nat.le_refl _, Nat.lt_succ_self _⟩ }

/-- When time has passed, whoever waited for an answer that is due waits no longer. -/
theorem advance (milliseconds : Nat) :
    { session.settle (now + milliseconds) with
      streams := (book.after now (.advance milliseconds) []).waiting.map Awaited.entry }.Follows
        made (book.after now (.advance milliseconds) []) (now + milliseconds) tickets := by
  have hkept : (book.waiting.filter fun awaited =>
      decide (now + milliseconds < awaited.reply.due)).Sublist book.waiting := List.filter_sublist
  have hlater := hfollows.replies.filter fun reply => decide (now + milliseconds < reply.due)
  rw [List.filter_map] at hlater
  rw [Book.after_advance]
  refine hfollows.fewer (by rw [settle, hfollows.isClosed]) hkept List.filter_sublist hlater
    (fun hclosed => ?_) (Nat.le_add_right now milliseconds)
  exact List.eq_nil_of_sublist_nil (hfollows.waiting_eq_nil hclosed ▸ hkept)

end Follows

end LoopbackSession

/-! ## The network around it -/

namespace Network

variable {α : Type} {network : Network α} {place : SessionKey}
  {session made : LoopbackSession Listener} {book : Book}

/-- There is one loopback session, and no other. -/
def HasOnly (network : Network α) (place : SessionKey) (session : LoopbackSession Listener) :
    Prop :=
  ∀ other, network.loopback? other = if other = place then some session else none

/-- The only loopback session behaves as it was made, and keeps to the book. -/
def Attends (network : Network α) (place : SessionKey) (made : LoopbackSession Listener)
    (book : Book) : Prop :=
  ∃ session, network.HasOnly place session ∧
    session.Follows made book network.clock network.tickets

namespace HasOnly

variable (honly : network.HasOnly place session)
include honly

theorem loopback? : network.loopback? place = some session := by
  rw [honly place, if_pos rfl]

theorem setTransport (after : LoopbackSession Listener) :
    (network.setTransport place (.loopback after)).HasOnly place after := by
  intro other
  rw [loopback?_setTransport honly.loopback?, honly other]
  split <;> rfl

/-- A session that stays as it is does not have to be replaced. -/
theorem setTransport_self : network.setTransport place (.loopback session) = network := by
  obtain ⟨name, attached, hsession⟩ := loopback?_eq_some.mp honly.loopback?
  have hsame : network.sessions.modify place.number
      (fun found => { found with transport := .loopback session }) = network.sessions :=
    Table.modify_eq_self fun found hfound => by
      obtain rfl := Option.some.inj (hsession.symm.trans hfound)
      rfl
  rw [Network.setTransport, modifySession, hsame]

theorem note (notice : Notice) : (network.note notice).HasOnly place session := honly

theorem loopbacks_eq : network.loopbacks = [(place, session)] := by
  have honce : network.loopbacks.Nodup := network.nodup_loopbacks.of_map Prod.fst
  refine eq_singleton_of_nodup honce ?_
  rintro ⟨other, found⟩
  rw [mem_loopbacks_iff, honly other, Prod.mk.injEq]
  by_cases heq : other = place
  · simp [heq, eq_comm]
  · simp [heq]

private theorem dueReplies_eq (hinOrder : session.replies.Pairwise Reply.Precedes) :
    network.dueReplies = (session.due network.clock).map fun reply => (place, reply) := by
  unfold dueReplies
  rw [honly.loopbacks_eq]
  simp only [List.flatMap_cons, List.flatMap_nil, List.append_nil]
  refine List.mergeSort_of_pairwise (List.pairwise_map.mpr ?_)
  refine (hinOrder.sublist List.filter_sublist).imp fun {first second} hprecedes => ?_
  obtain ⟨hdue, hticket, -⟩ := hprecedes
  simp
  omega

theorem settle_eq : network.settle =
    network.setTransport place (.loopback (session.settle network.clock)) := by
  rw [settle, honly.loopbacks_eq]
  rfl

theorem resetStream_eq (stream : StreamId) (code : ErrorCode) :
    network.resetStream quiet place stream code =
      (network.setTransport place (.loopback (session.reset stream))).note
        (.streamReset place stream code) := by
  obtain ⟨name, attached, hsession⟩ := loopback?_eq_some.mp honly.loopback?
  simp only [resetStream, hsession]

theorem closeSession_eq (code : ErrorCode) (reason : String) :
    network.closeSession quiet place code reason =
      ((network.setTransport place (.loopback session.close.1)).note
        (.sessionClosed place code reason session.close.2), session.close.2) := by
  obtain ⟨name, attached, hsession⟩ := loopback?_eq_some.mp honly.loopback?
  simp only [closeSession, hsession]

/-- A refusal takes a ticket, and nothing else. -/
theorem openStream_of_error {request : Http.Request} {listener : Listener} {error : SessionError}
    (hresult :
      (session.openStream network.clock network.tickets request listener).2 = .error error) :
    network.openStream quiet place request listener =
      ({ network with tickets := network.tickets + 1 }, .error error) := by
  obtain ⟨name, attached, hsession⟩ := loopback?_eq_some.mp honly.loopback?
  have hsame := LoopbackSession.openStream_of_error hresult
  simp only [openStream, hsession, hresult, hsame, honly.setTransport_self]

theorem openStream_of_ok {request : Http.Request} {listener : Listener} {stream : StreamId}
    (hresult :
      (session.openStream network.clock network.tickets request listener).2 = .ok stream) :
    network.openStream quiet place request listener =
      (({ network.setTransport place (.loopback
            (session.openStream network.clock network.tickets request listener).1) with
          tickets := network.tickets + 1 }).note (.streamOpened place stream request),
        .ok stream) := by
  obtain ⟨name, attached, hsession⟩ := loopback?_eq_some.mp honly.loopback?
  simp only [openStream, hsession, hresult]

/-- An answer that is awaited is delivered, and its stream is gone. -/
theorem deliver_of_observer {reply : Reply} {observer : String}
    (hlistener : session.listener? reply.stream = some (.observer observer)) :
    network.deliver quiet place reply =
      ((network.setTransport place (.loopback (session.drop reply.stream))).note
        (.heard observer (.response reply.response.head))).note
          (.heard observer (.data reply.response.body true)) := by
  rw [deliver_eq honly.loopback?, hlistener]
  unfold answered
  rw [undergo_moveLoopback honly.loopback? (session.isClosed_drop reply.stream)]
  rfl

theorem deliver_of_nobody {reply : Reply} (hnobody : session.listener? reply.stream = none) :
    network.deliver quiet place reply = network := by
  rw [deliver_eq honly.loopback?, hnobody]

end HasOnly

/-! ## Delivering -/

/-- What is heard is told by what was added to the trace. -/
theorem hearings_note (network : Network α) (notice : Notice) :
    (network.note notice).hearings = network.hearings ++ notice.hearing?.toList := by
  have hadded : [notice].filterMap Notice.hearing? = notice.hearing?.toList := by
    cases hheard : notice.hearing? <;> simp [hheard]
  rw [hearings, trace_note, Array.toList_push, List.filterMap_append, hadded, hearings]

/-- Answers that are due come to those who wait for them, and reach nobody else.  Whoever waits
for another answer still does. -/
theorem deliveries {due : List Reply} {awaited later : List Awaited}
    (honly : network.HasOnly place session)
    (hstreams : session.streams = (awaited ++ later).map Awaited.entry)
    (hawaited : (awaited.map Awaited.reply).Sublist due)
    (hinOrder : due.Pairwise Reply.Precedes)
    (hlater : ∀ other ∈ later, ∀ reply ∈ due, other.reply.stream ≠ reply.stream) :
    let reached := due.foldl (fun network reply => network.deliver quiet place reply) network
    reached.HasOnly place { session with streams := later.map Awaited.entry } ∧
      reached.hearings = network.hearings ++ awaited.flatMap Awaited.tidings ∧
      reached.clock = network.clock ∧ reached.tickets = network.tickets := by
  induction due generalizing network session awaited with
  | nil =>
      obtain rfl := List.map_eq_nil_iff.mp (List.eq_nil_of_sublist_nil hawaited)
      refine ⟨?_, (List.append_nil _).symm, rfl, rfl⟩
      rwa [← show session.streams = later.map Awaited.entry from hstreams]
  | cons reply rest ih =>
      obtain ⟨hfirst, hrest⟩ := List.pairwise_cons.mp hinOrder
      have hothers : ∀ other ∈ later, ∀ reply ∈ rest, other.reply.stream ≠ reply.stream :=
        fun other hmem reply hreply => hlater other hmem reply (List.mem_cons_of_mem _ hreply)
      have happart : ∀ {waiting : List Awaited}, (waiting.map Awaited.reply).Sublist rest →
          ∀ entry ∈ (waiting ++ later).map Awaited.entry, entry.1 ≠ reply.stream := by
        intro waiting hsub entry hmem
        obtain ⟨other, hother, rfl⟩ := List.mem_map.mp hmem
        rcases List.mem_append.mp hother with hwaits | hwaits
        · have hafter := hsub.subset (List.mem_map.mpr ⟨other, hwaits, rfl⟩)
          exact (hfirst _ hafter).2.2.symm
        · exact hlater other hwaits reply List.mem_cons_self
      rw [List.foldl_cons]
      rcases List.sublist_cons_iff.mp hawaited with hskipped | ⟨replies, hsplit, hsub⟩
      · -- Nobody waits for the first answer.
        have hnobody : session.listener? reply.stream = none :=
          LoopbackSession.listener?_of_absent (hstreams ▸ happart hskipped)
        rw [honly.deliver_of_nobody hnobody]
        exact ih honly hstreams hskipped hrest hothers
      · -- The first answer is the first that somebody waits for.
        obtain ⟨first, others, rfl, rfl, rfl⟩ := List.map_eq_cons_iff.mp hsplit
        obtain ⟨hlistener, hdropped⟩ := LoopbackSession.first_of_absent hstreams (happart hsub)
        rw [honly.deliver_of_observer hlistener]
        obtain ⟨hreached, hhearings, hclock, htickets⟩ :=
          ih (((honly.setTransport (session.drop first.reply.stream)).note _).note _) hdropped hsub
            hrest hothers
        refine ⟨hreached, hhearings.trans ?_, hclock, htickets⟩
        rw [hearings_note, hearings_note, List.flatMap_cons, List.append_assoc, List.append_assoc]
        rfl

/-! ## One call -/

/-- In the second network a call has come to the session, which kept to the book meanwhile. -/
structure Records (first second : Network α) (place : SessionKey) (made : LoopbackSession Listener)
    (book : Book) (call : Call) (fresh : List Awaited) : Prop where
  attends : second.Attends place made (book.after first.clock call fresh)
  clock : second.clock = first.clock + call.lasts
  hearings : second.hearings = first.hearings ++
    (book.waiting.filter fun awaited => call.brings (awaited.left first.clock)).flatMap
      Awaited.tidings

private theorem records_advance (hattends : network.Attends place made book) (milliseconds : Nat) :
    Records network (network.call place (.advance milliseconds)) place made book
      (.advance milliseconds) [] := by
  obtain ⟨session, honly, hfollows⟩ := hattends
  let elapsed := network.elapse milliseconds
  let isDue := fun awaited : Awaited => decide (awaited.reply.due ≤ elapsed.clock)
  let later := (book.after network.clock (.advance milliseconds) []).waiting
  have helapsed : elapsed.HasOnly place session := honly
  have hlater : later = book.waiting.filter fun awaited => !isDue awaited := by
    show (book.after network.clock (.advance milliseconds) []).waiting = _
    rw [Book.after_advance]
    refine List.filter_congr fun awaited _ => ?_
    rw [← decide_not, decide_eq_decide, Nat.not_le]
    exact Iff.rfl
  have hwaiting : book.waiting.filter isDue ++ later = book.waiting := by
    rw [hlater]
    refine filter_append_filter_not (hfollows.waiting_inOrder.imp fun hprecedes hsecond => ?_)
    exact decide_eq_true (Nat.le_trans hprecedes.1 (of_decide_eq_true hsecond))
  -- The answers that are due are delivered one after the other.
  have hawaited : ((book.waiting.filter isDue).map Awaited.reply).Sublist
      (session.due elapsed.clock) := by
    have hdue := hfollows.replies.filter fun reply => decide (reply.due ≤ elapsed.clock)
    rwa [List.filter_map] at hdue
  have happart : ∀ other ∈ later, ∀ reply ∈ session.due elapsed.clock,
      other.reply.stream ≠ reply.stream := by
    intro other hother reply hreply hsame
    rw [hlater] at hother
    obtain ⟨hwaits, hnotDue⟩ := List.mem_filter.mp hother
    obtain ⟨hthere, hdue⟩ := List.mem_filter.mp hreply
    have honce : (session.replies.map Reply.stream).Nodup :=
      List.pairwise_map.mpr (hfollows.inOrder.imp fun hprecedes => hprecedes.2.2)
    have hqueued := hfollows.replies.subset (List.mem_map.mpr ⟨other, hwaits, rfl⟩)
    obtain rfl := List.inj_on_of_nodup_map honce hqueued hthere hsame
    simp [isDue, of_decide_eq_true hdue] at hnotDue
  have hcall : network.call place (.advance milliseconds) =
      (session.due elapsed.clock).foldl (fun network reply => network.deliver quiet place reply)
        (elapsed.setTransport place (.loopback (session.settle elapsed.clock))) := by
    show elapsed.deliverDue quiet = _
    rw [deliverDue, helapsed.dueReplies_eq hfollows.inOrder, helapsed.settle_eq, List.foldl_map]
  obtain ⟨hreached, hhearings, hclock, htickets⟩ :=
    deliveries (helapsed.setTransport (session.settle elapsed.clock))
      (by rw [hwaiting]; exact hfollows.streams) hawaited
      (hfollows.inOrder.sublist List.filter_sublist) happart
  rw [← hcall] at hreached hhearings hclock htickets
  refine ⟨⟨_, hreached, ?_⟩, hclock, hhearings.trans ?_⟩
  · rw [hclock, htickets]
    exact hfollows.advance milliseconds
  · refine congrArg (network.hearings ++ List.flatMap Awaited.tidings ·) ?_
    exact List.filter_congr fun awaited _ => (awaited.brings_left network.clock milliseconds).symm

theorem Records.of_silent {second : Network α} {call : Call} {fresh : List Awaited}
    (hattends : second.Attends place made (book.after network.clock call fresh))
    (hclock : second.clock = network.clock) (hlasts : call.lasts = 0)
    (hhearings : second.hearings = network.hearings) (hbrings : ∀ left, call.brings left = false) :
    Records network second place made book call fresh where
  attends := hattends
  clock := by rw [hclock, hlasts, Nat.add_zero]
  hearings := by simp [hhearings, hbrings]

private theorem records_reset (hattends : network.Attends place made book) (stream : StreamId)
    (code : ErrorCode) :
    Records network (network.call place (.reset stream code)) place made book
      (.reset stream code) [] := by
  obtain ⟨session, honly, hfollows⟩ := hattends
  have hcall : network.call place (.reset stream code) =
      (network.setTransport place (.loopback (session.reset stream))).note
        (.streamReset place stream code) := honly.resetStream_eq stream code
  rw [hcall]
  refine .of_silent ⟨_, (honly.setTransport _).note _, hfollows.reset stream code⟩ rfl rfl ?_
    fun _ => rfl
  exact (hearings_note _ _).trans (List.append_nil _)

private theorem records_close (hattends : network.Attends place made book) (code : ErrorCode)
    (reason : String) :
    Records network (network.call place (.close code reason)) place made book
      (.close code reason) [] := by
  obtain ⟨session, honly, hfollows⟩ := hattends
  have hcall : network.call place (.close code reason) =
      (network.setTransport place (.loopback session.close.1)).note
        (.sessionClosed place code reason session.close.2) :=
    congrArg Prod.fst (honly.closeSession_eq code reason)
  rw [hcall]
  refine .of_silent ⟨_, (honly.setTransport _).note _, hfollows.close code reason⟩ rfl rfl ?_
    fun _ => rfl
  exact (hearings_note _ _).trans (List.append_nil _)

private theorem records_openStream (hattends : network.Attends place made book)
    (request : Http.Request) (observer : String) (rest : List Call)
    (hfew : book.opened +
      (network.subscription? place (.openStream request observer) rest).toList.length < 2 ^ 31) :
    Records network (network.call place (.openStream request observer)) place made book
      (.openStream request observer)
      (network.fresh place made (.openStream request observer) rest) := by
  obtain ⟨session, honly, hfollows⟩ := hattends
  cases hresult : (session.openStream network.clock network.tickets request
    (.observer observer)).2 with
  | error error =>
      have hrefused := honly.openStream_of_error hresult
      have hnone : network.subscription? place (.openStream request observer) rest = none := by
        simp only [subscription?, hrefused]
      rw [fresh, hnone, call, hrefused]
      refine .of_silent ⟨session, honly, ?_⟩ rfl rfl rfl fun _ => rfl
      rw [Book.after_openStream, Option.toList_none, List.map_nil, List.append_nil]
      exact hfollows.later (Nat.le_succ _)
  | ok stream =>
      have haccepted := honly.openStream_of_ok hresult
      have hsome : network.subscription? place (.openStream request observer) rest =
          some ⟨stream, request, observer, rest⟩ := by
        simp only [subscription?, haccepted]
      rw [hsome] at hfew
      rw [fresh, hsome, call, haccepted]
      refine .of_silent
        ⟨_, (honly.setTransport _).note (.streamOpened place stream request), ?_⟩ rfl rfl ?_
        fun _ => rfl
      · exact hfollows.openStream hfew hresult rest
      · exact (hearings_note _ _).trans (List.append_nil _)

/-- Every call is recorded, as long as no stream number has come twice. -/
theorem records_call (hattends : network.Attends place made book) (call : Call) (rest : List Call)
    (hfew : book.opened + (network.subscription? place call rest).toList.length < 2 ^ 31) :
    Records network (network.call place call) place made book call
      (network.fresh place made call rest) := by
  cases call with
  | openStream request observer => exact records_openStream hattends request observer rest hfew
  | reset stream code => exact records_reset hattends stream code
  | close code reason => exact records_close hattends code reason
  | advance milliseconds => exact records_advance hattends milliseconds

/-- Streams are numbered from one, in steps of two, and only streams that are opened. -/
theorem number_of_subscription? (hattends : network.Attends place made book) {call : Call}
    {rest : List Call} {subscription : Subscription}
    (hopened : network.subscription? place call rest = some subscription)
    (hfew : book.opened < 2 ^ 31) : subscription.stream.number.toNat = 2 * book.opened + 1 := by
  obtain ⟨session, honly, hfollows⟩ := hattends
  cases call with
  | openStream request observer =>
      cases hresult : (session.openStream network.clock network.tickets request
        (.observer observer)).2 with
      | error error =>
          simp only [subscription?, honly.openStream_of_error hresult] at hopened
          cases hopened
      | ok stream =>
          simp only [subscription?, honly.openStream_of_ok hresult] at hopened
          obtain rfl := Option.some.inj hopened
          obtain ⟨hnumber, -⟩ := LoopbackSession.replies_of_openStream hresult
          show stream.number.toNat = _
          rw [hnumber, hfollows.ordered.next hfew]
  | reset stream code => cases hopened
  | close code reason => cases hopened
  | advance milliseconds => cases hopened

end Network

end Multiplex
