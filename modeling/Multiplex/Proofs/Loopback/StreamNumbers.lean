import Mathlib.Data.List.Induction
import Multiplex.Proofs.Loopback.Observers

/-!
# When stream numbers come round

A loopback session numbers its streams from one in steps of two, without looking at which
numbers are in use.  The numbers are words of 32 bits, so after `2 ^ 31` streams they come
round.  A stream whose number is taken by a later one loses its listener, and its answer, which
is on its way, goes to the listener of the later one (`late_answer_reaches_another`).

This does not happen as long as every answer comes, or would have come, before `2 ^ 31` more
streams are opened.  An answer that is on its way keeps its number in use even if its stream
was reset, for it is delivered by number; so what matters is the delay of the session alone
(`Subscription.IsOver`), and not when streams end.

`Owes` says what the two lists of a session consist of, in terms of the streams that a run has
opened.  It holds in every run, however long (`owes_calls`); that nobody gets in the way of
anybody else is then arithmetic on the places in which streams were opened.
-/

namespace Multiplex

/-! ## Numbers -/

namespace StreamId

/-- The number of a stream that is opened after so many others. -/
def nth (index : Nat) : StreamId := ⟨UInt32.ofNat (2 * index + 1)⟩

theorem toNat_nth (index : Nat) : (nth index).number.toNat = (2 * index + 1) % 2 ^ 32 :=
  UInt32.toNat_ofNat'

theorem next_nth (index : Nat) : (nth index).next = nth (index + 1) := by
  refine StreamId.ext (UInt32.toNat_inj.mp ?_)
  rw [toNat_next, toNat_nth, toNat_nth]
  omega

theorem isClientInitiated_nth (index : Nat) : (nth index).isClientInitiated = true := by
  rw [isClientInitiated_iff, toNat_nth]
  omega

theorem nth_eq_nth_iff {first second : Nat} :
    nth first = nth second ↔ first % 2 ^ 31 = second % 2 ^ 31 := by
  rw [StreamId.ext_iff, ← UInt32.toNat_inj, toNat_nth, toNat_nth]
  omega

/-- Of `2 ^ 31` streams that are opened one after the other, no two have the same number. -/
theorem eq_of_nth_eq {first second last : Nat} (hsame : nth first = nth second)
    (hfirst : first ≤ last ∧ last < first + 2 ^ 31)
    (hsecond : second ≤ last ∧ last < second + 2 ^ 31) : first = second := by
  have hmod := nth_eq_nth_iff.mp hsame
  omega

end StreamId

/-! ## Streams and the calls after them -/

private theorem Call.elapsed_concat (calls : List Call) (call : Call) :
    Call.elapsed (calls ++ [call]) = Call.elapsed calls + call.lasts := by
  induction calls with
  | nil => exact Nat.add_comm ..
  | cons first rest ih => rw [List.cons_append, elapsed, elapsed, ih, Nat.add_assoc]

namespace Subscription

variable {subscription : Subscription} {delay : Nat}

/-- A stream that was opened earlier, when one more call has been made. -/
def extend (call : Call) (subscription : Subscription) : Subscription :=
  { subscription with after := subscription.after ++ [call] }

/-- The delay of the session has elapsed, whatever became of the stream. -/
def IsOver (delay : Nat) (subscription : Subscription) : Prop :=
  ∃ earlier milliseconds later, subscription.after = earlier ++ .advance milliseconds :: later ∧
    delay ≤ Call.elapsed earlier + milliseconds

private theorem isOver_of_extend {call : Call} (hover : (subscription.extend call).IsOver delay) :
    subscription.IsOver delay ∨
      call.brings (delay - Call.elapsed subscription.after) = true := by
  obtain ⟨earlier, milliseconds, later, hafter, hdelay⟩ := hover
  rcases later.eq_nil_or_concat with rfl | ⟨others, last, rfl⟩
  · obtain ⟨rfl, hlast⟩ := List.append_inj' (hafter : subscription.after ++ [call] = _) rfl
    obtain rfl := List.singleton_inj.mp hlast
    right
    rw [Call.brings, decide_eq_true_iff]
    omega
  · left
    have hcut : subscription.after ++ [call] =
        (earlier ++ .advance milliseconds :: others) ++ [last] := by
      simpa [extend] using hafter
    exact ⟨earlier, milliseconds, others, (List.append_inj' hcut rfl).1, hdelay⟩

/-- The answer to the request of a stream, which is still on its way. -/
structure Expects (subscription : Subscription) (made : LoopbackSession Listener) (now : Nat)
    (reply : Reply) : Prop where
  stream : reply.stream = subscription.stream
  response : reply.response = made.responder subscription.request
  due : reply.due + Call.elapsed subscription.after = now + made.delay
  notOver : ¬ subscription.IsOver made.delay

/-- An answer that does not come with a call is on its way afterwards. -/
theorem Expects.extend {made : LoopbackSession Listener} {now : Nat} {reply : Reply}
    (hexpects : subscription.Expects made now reply) {call : Call}
    (hstays : call.brings (reply.due - now) = false) :
    (subscription.extend call).Expects made (now + call.lasts) reply where
  stream := hexpects.stream
  response := hexpects.response
  due := by
    have hdue := hexpects.due
    show reply.due + Call.elapsed (subscription.after ++ [call]) = _
    rw [Call.elapsed_concat]
    omega
  notOver := by
    intro hover
    rcases isOver_of_extend hover with hbefore | hbrings
    · exact hexpects.notOver hbefore
    · have hleft : made.delay - Call.elapsed subscription.after = reply.due - now := by
        have hdue := hexpects.due
        omega
      rw [hleft, hstays] at hbrings
      exact Bool.false_ne_true hbrings

end Subscription

/-! ## What a session still owes -/

namespace LoopbackSession

variable {session made after : LoopbackSession Listener} {opened : List Subscription} {now : Nat}

/-- The lists of a session, in terms of the streams that were opened: each answer that is on its
way is for one of them, and a stream that is open has its own answer on its way. -/
structure Owes (session made : LoopbackSession Listener) (opened : List Subscription)
    (now : Nat) : Prop where
  delay : session.delay = made.delay
  responder : session.responder = made.responder
  numbers : opened.map Subscription.stream = (List.range opened.length).map StreamId.nth
  next : session.nextStream = .nth opened.length
  replies : ∀ reply ∈ session.replies,
    ∃ subscription ∈ opened, subscription.Expects made now reply
  streams : ∀ entry ∈ session.streams, ∃ subscription ∈ opened, ∃ reply ∈ session.replies,
    entry = subscription.entry ∧ subscription.Expects made now reply

private theorem owes_of_new (hnew : made.IsNew) (hreplies : made.replies = []) (now : Nat) :
    made.Owes made [] now where
  delay := rfl
  responder := rfl
  numbers := rfl
  next := hnew.nextStream
  replies := by simp [hreplies]
  streams := by simp [hnew.streams]

namespace Owes

variable (howes : session.Owes made opened now)
include howes

/-- With a call that opens nothing, streams may go, and answers may come that are due, each with
its stream. -/
theorem extend (call : Call) {streams : List (StreamId × Listener)} {replies : List Reply}
    {isClosed : Bool} (hafter : after = { session with streams, replies, isClosed })
    (hstreams : streams ⊆ session.streams) (hreplies : replies ⊆ session.replies)
    (hstay : ∀ reply ∈ replies, call.brings (reply.due - now) = false)
    (hown : ∀ entry ∈ streams, ∀ reply ∈ session.replies,
      reply.stream = entry.1 → reply ∈ replies) :
    after.Owes made (opened.map (Subscription.extend call)) (now + call.lasts) := by
  subst hafter
  exact
    { delay := howes.delay
      responder := howes.responder
      numbers := by
        rw [List.map_map, List.length_map, ← howes.numbers]
        rfl
      next := by
        rw [List.length_map]
        exact howes.next
      replies := by
        intro reply hmem
        obtain ⟨subscription, hthere, hexpects⟩ := howes.replies reply (hreplies hmem)
        exact ⟨_, List.mem_map_of_mem hthere, hexpects.extend (hstay reply hmem)⟩
      streams := by
        intro entry hmem
        obtain ⟨subscription, hthere, reply, hreply, rfl, hexpects⟩ :=
          howes.streams entry (hstreams hmem)
        have hkept := hown _ hmem reply hreply hexpects.stream
        exact ⟨_, List.mem_map_of_mem hthere, reply, hkept, rfl,
          hexpects.extend (hstay reply hkept)⟩ }

/-- A stream that is opened takes the next number, and its answer is on its way. -/
theorem openStream {tickets : Nat} {request : Http.Request} {observer : String}
    {stream : StreamId}
    (hresult : (session.openStream now tickets request (.observer observer)).2 = .ok stream) :
    (session.openStream now tickets request (.observer observer)).1.Owes made
      (opened.map (Subscription.extend (.openStream request observer)) ++
        [⟨stream, request, observer, []⟩]) now := by
  have hopened := opened_of_openStream hresult
  have hqueues := session.queues_openStream now tickets request (.observer observer)
  obtain ⟨hnumber, hreplies⟩ := replies_of_openStream hresult
  have hothers : (session.drop stream).Owes made
      (opened.map (Subscription.extend (.openStream request observer))) now :=
    howes.extend (.openStream request observer) rfl (List.filter_subset_self ..)
      (List.Subset.refl _) (fun _ _ => rfl) fun _ _ reply hmem _ => hmem
  have hnew : (⟨stream, request, observer, []⟩ : Subscription).Expects made now
      (session.answerTo now tickets request) :=
    { stream := hnumber.symm
      response := by rw [answerTo, howes.responder]
      due := by
        rw [answerTo, howes.delay]
        rfl
      notOver := by
        rintro ⟨earlier, milliseconds, later, hafter, -⟩
        simp at hafter }
  have hstream : stream = .nth opened.length := hnumber.trans howes.next
  generalize (session.openStream now tickets request (.observer observer)).1 = after at *
  exact
    { delay := hqueues.delay.trans howes.delay
      responder := hqueues.responder.trans howes.responder
      numbers := by
        rw [List.map_append, hothers.numbers, List.length_append, List.length_map,
          List.length_singleton, List.range_succ, List.map_append, List.map_singleton,
          List.map_singleton, ← hstream]
      next := by
        rw [hopened.nextStream, hstream, StreamId.next_nth, List.length_append, List.length_map,
          List.length_singleton]
      replies := by
        intro reply hmem
        rw [hreplies, List.mem_append, List.mem_singleton] at hmem
        rcases hmem with hold | rfl
        · obtain ⟨subscription, hthere, hexpects⟩ := hothers.replies reply hold
          exact ⟨subscription, List.mem_append_left _ hthere, hexpects⟩
        · exact ⟨_, List.mem_append_right _ (List.mem_singleton_self _), hnew⟩
      streams := by
        intro entry hmem
        rw [hreplies]
        rw [hopened.streams, List.mem_append, List.mem_singleton] at hmem
        rcases hmem with hold | rfl
        · obtain ⟨subscription, hthere, reply, hreply, hentry, hexpects⟩ :=
            hothers.streams entry hold
          exact ⟨subscription, List.mem_append_left _ hthere, reply,
            List.mem_append_left _ hreply, hentry, hexpects⟩
        · exact ⟨_, List.mem_append_right _ (List.mem_singleton_self _), _,
            List.mem_append_right _ (List.mem_singleton_self _), rfl, hnew⟩ }

/-! ### Numbers that are in use -/

theorem stream_getElem {place : Nat} (hplace : place < opened.length) :
    opened[place].stream = .nth place := by
  have hnumber := List.getElem_of_eq howes.numbers (by simpa using hplace)
  simpa using hnumber

theorem odd : ∀ subscription ∈ opened, subscription.stream.isClientInitiated = true := by
  intro subscription hmem
  obtain ⟨place, hplace, rfl⟩ := List.mem_iff_getElem.mp hmem
  rw [howes.stream_getElem hplace]
  exact StreamId.isClientInitiated_nth place

private theorem nodup_streams (hfew : opened.length ≤ 2 ^ 31) :
    (opened.map Subscription.stream).Nodup := by
  rw [howes.numbers]
  refine List.Nodup.map_on ?_ List.nodup_range
  intro first hfirst second hsecond hsame
  have hmod := StreamId.nth_eq_nth_iff.mp hsame
  rw [List.mem_range] at hfirst hsecond
  omega

variable (hslow : ∀ subscription ∈ opened.take (opened.length + 1 - 2 ^ 31),
  subscription.IsOver made.delay)
include hslow

theorem exists_place {subscription : Subscription} {reply : Reply}
    (hmem : subscription ∈ opened) (hexpects : subscription.Expects made now reply) :
    ∃ (place : Nat) (hplace : place < opened.length), opened[place] = subscription ∧
      subscription.stream = .nth place ∧ opened.length < place + 2 ^ 31 := by
  obtain ⟨place, hplace, rfl⟩ := List.mem_iff_getElem.mp hmem
  refine ⟨place, hplace, rfl, howes.stream_getElem hplace, ?_⟩
  by_contra hlong
  have hold : opened[place] ∈ opened.take (opened.length + 1 - 2 ^ 31) :=
    List.mem_take_iff_getElem.mpr ⟨place, by omega, rfl⟩
  exact hexpects.notOver (hslow _ hold)

private theorem eq_of_expects {first second : Subscription} {reply reply' : Reply}
    (hfirst : first ∈ opened) (hsecond : second ∈ opened)
    (hexpects : first.Expects made now reply) (hexpects' : second.Expects made now reply')
    (hsame : first.stream = second.stream) : first = second := by
  obtain ⟨place, hplace, rfl, hnumber, hrecent⟩ := howes.exists_place hslow hfirst hexpects
  obtain ⟨place', hplace', rfl, hnumber', hrecent'⟩ := howes.exists_place hslow hsecond hexpects'
  rw [hnumber, hnumber'] at hsame
  have heq : place = place' := StreamId.eq_of_nth_eq hsame ⟨Nat.le_of_lt hplace, hrecent⟩
    ⟨Nat.le_of_lt hplace', hrecent'⟩
  subst heq
  rfl

private theorem listener_eq {subscription : Subscription} {reply : Reply} {listener : Listener}
    (hmem : subscription ∈ opened) (hexpects : subscription.Expects made now reply)
    (hlistener : session.listener? reply.stream = some listener) :
    listener = .observer subscription.observer := by
  obtain ⟨entry, hfound, rfl⟩ := Option.map_eq_some_iff.mp hlistener
  have hentry : entry.1 = reply.stream := by simpa using List.find?_some hfound
  obtain ⟨other, hother, answer, -, rfl, hexpects'⟩ :=
    howes.streams entry (List.mem_of_find?_eq_some hfound)
  have hsame : other.stream = subscription.stream := hentry.trans hexpects.stream
  rw [howes.eq_of_expects hslow hother hmem hexpects' hexpects hsame]
  rfl

theorem reply_ne_next : ∀ reply ∈ session.replies, reply.stream ≠ session.nextStream := by
  intro reply hmem hsame
  obtain ⟨subscription, hthere, hexpects⟩ := howes.replies reply hmem
  obtain ⟨place, hplace, rfl, hnumber, hrecent⟩ := howes.exists_place hslow hthere hexpects
  rw [hexpects.stream, hnumber, howes.next] at hsame
  have heq : place = opened.length := StreamId.eq_of_nth_eq hsame ⟨Nat.le_of_lt hplace, hrecent⟩
    ⟨Nat.le_refl _, by omega⟩
  exact Nat.ne_of_lt hplace heq

theorem drop_next : session.drop session.nextStream = session := by
  refine drop_of_absent ?_
  intro entry hmem
  obtain ⟨subscription, -, reply, hreply, rfl, hexpects⟩ := howes.streams entry hmem
  have hother := howes.reply_ne_next hslow reply hreply
  rwa [hexpects.stream] at hother

end Owes

end LoopbackSession

/-! ## Any run of calls -/

namespace Network

variable {α : Type} {network : Network α} {place : SessionKey}
  {session made : LoopbackSession Listener} {opened : List Subscription}

theorem calls_append (network : Network α) (place : SessionKey) (before after : List Call) :
    network.calls place (before ++ after) = (network.calls place before).calls place after :=
  List.foldl_append ..

/-- One more call comes after all streams that are open, and may open another. -/
theorem subscriptions_concat (network : Network α) (place : SessionKey) (calls : List Call)
    (call : Call) :
    network.subscriptions place (calls ++ [call]) =
      (network.subscriptions place calls).map (Subscription.extend call) ++
        ((network.calls place calls).subscription? place call []).toList := by
  have hextend : ∀ (network : Network α) (first : Call) (rest : List Call),
      network.subscription? place first (rest ++ [call]) =
        (network.subscription? place first rest).map (Subscription.extend call) := by
    intro network first rest
    cases first with
    | openStream request observer =>
        simp only [subscription?]
        cases (network.openStream quiet place request (.observer observer)).2 <;> rfl
    | reset | close | advance => rfl
  induction calls generalizing network with
  | nil => simp [subscriptions, calls]
  | cons first rest ih =>
      rw [List.cons_append, subscriptions, subscriptions, ih, hextend, List.map_append,
        List.append_assoc]
      cases network.subscription? place first rest <;> rfl

private theorem isOver_of_advance (network : Network α) (place : SessionKey) (calls : List Call)
    {delay milliseconds : Nat} (hdelay : delay ≤ milliseconds) :
    ∀ subscription ∈ network.subscriptions place (calls ++ [.advance milliseconds]),
      subscription.IsOver delay := by
  intro subscription hmem
  rw [subscriptions_concat, subscription?, Option.toList_none, List.append_nil] at hmem
  obtain ⟨earlier, -, rfl⟩ := List.mem_map.mp hmem
  exact ⟨earlier.after, milliseconds, [], rfl, Nat.le_add_left_of_le hdelay⟩

theorem HasOnly.subscription?_openStream (honly : network.HasOnly place session)
    {request : Http.Request} {observer : String} {stream : StreamId}
    (hresult : (session.openStream network.clock network.tickets request
      (.observer observer)).2 = .ok stream) (rest : List Call) :
    network.subscription? place (.openStream request observer) rest =
      some ⟨stream, request, observer, rest⟩ := by
  simp only [subscription?, honly.openStream_of_ok hresult]

theorem HasOnly.call_openStream (honly : network.HasOnly place session) {request : Http.Request}
    {observer : String} {stream : StreamId}
    (hresult : (session.openStream network.clock network.tickets request
      (.observer observer)).2 = .ok stream) :
    (network.call place (.openStream request observer)).HasOnly place
        (session.openStream network.clock network.tickets request (.observer observer)).1 ∧
      (network.call place (.openStream request observer)).hearings = network.hearings := by
  rw [call, honly.openStream_of_ok hresult]
  refine ⟨(honly.setTransport _).note (.streamOpened place stream request), ?_⟩
  rw [hearings_note]
  exact List.append_nil _

theorem HasOnly.call_reset (honly : network.HasOnly place session) (stream : StreamId)
    (code : ErrorCode) :
    (network.call place (.reset stream code)).HasOnly place (session.reset stream) ∧
      (network.call place (.reset stream code)).hearings = network.hearings := by
  rw [call, honly.resetStream_eq]
  refine ⟨(honly.setTransport _).note (.streamReset place stream code), ?_⟩
  rw [hearings_note]
  exact List.append_nil _

/-- Answers that come take their streams with them, whoever listens. -/
theorem HasOnly.delivers {due : List (SessionKey × Reply)} (honly : network.HasOnly place session)
    (hobservers : ∀ entry ∈ session.streams, ∃ observer, entry.2 = .observer observer)
    (hplace : ∀ each ∈ due, each.1 = place) :
    let reached := due.foldl (fun network each => network.deliver quiet each.1 each.2) network
    (∃ streams, reached.HasOnly place { session with streams } ∧ streams ⊆ session.streams ∧
      ∀ entry ∈ streams, ∀ each ∈ due, each.2.stream ≠ entry.1) ∧
    reached.clock = network.clock := by
  induction due generalizing network session with
  | nil => exact ⟨⟨session.streams, honly, List.Subset.refl _, by simp⟩, rfl⟩
  | cons first rest ih =>
      obtain ⟨key, reply⟩ := first
      obtain ⟨rfl, hrest⟩ := List.forall_mem_cons.mp hplace
      have hdropped : (network.deliver quiet key reply).HasOnly key (session.drop reply.stream) ∧
          (network.deliver quiet key reply).clock = network.clock := by
        cases hlistener : session.listener? reply.stream with
        | none =>
            have habsent : ∀ entry ∈ session.streams, entry.1 ≠ reply.stream := by
              rw [LoopbackSession.listener?, Option.map_eq_none_iff, List.find?_eq_none]
                at hlistener
              intro entry hmem
              simpa using hlistener entry hmem
            rw [honly.deliver_of_nobody hlistener, LoopbackSession.drop_of_absent habsent]
            exact ⟨honly, rfl⟩
        | some listener =>
            obtain ⟨entry, hfound, rfl⟩ := Option.map_eq_some_iff.mp hlistener
            obtain ⟨observer, hobserver⟩ := hobservers entry (List.mem_of_find?_eq_some hfound)
            rw [hobserver] at hlistener
            rw [honly.deliver_of_observer hlistener]
            exact ⟨((honly.setTransport _).note _).note _, rfl⟩
      obtain ⟨honly', hclock⟩ := hdropped
      obtain ⟨⟨streams, hreached, hkept, hapart⟩, hsame⟩ :=
        ih honly' (fun entry hmem => hobservers entry (List.mem_filter.mp hmem).1) hrest
      refine ⟨⟨streams, hreached, fun entry hmem => (List.mem_filter.mp (hkept hmem)).1, ?_⟩,
        hsame.trans hclock⟩
      intro entry hmem
      refine List.forall_mem_cons.mpr ⟨?_, hapart entry hmem⟩
      have hother : entry.1 ≠ reply.stream := by
        simpa using (List.mem_filter.mp (hkept hmem)).2
      exact hother.symm

section OneCall

variable (honly : network.HasOnly place session) (howes : session.Owes made opened network.clock)
include honly howes

private theorem owes_openStream (request : Http.Request) (observer : String) :
    ∃ after, (network.call place (.openStream request observer)).HasOnly place after ∧
      after.Owes made (opened.map (Subscription.extend (.openStream request observer)) ++
        (network.subscription? place (.openStream request observer) []).toList)
        (network.call place (.openStream request observer)).clock := by
  cases hresult : (session.openStream network.clock network.tickets request
    (.observer observer)).2 with
  | error error =>
      have hrefused := honly.openStream_of_error hresult
      have hnone : network.subscription? place (.openStream request observer) [] = none := by
        simp only [subscription?, hrefused]
      rw [hnone, Option.toList_none, List.append_nil, call, hrefused]
      exact ⟨session, honly, howes.extend (.openStream request observer) rfl
        (List.Subset.refl _) (List.Subset.refl _) (fun _ _ => rfl) fun _ _ _ hmem _ => hmem⟩
  | ok stream =>
      have hclock : (network.call place (.openStream request observer)).clock =
          network.clock := by
        rw [call, honly.openStream_of_ok hresult]
        rfl
      rw [honly.subscription?_openStream hresult, Option.toList_some, hclock]
      exact ⟨_, (honly.call_openStream hresult).1, howes.openStream hresult⟩

private theorem owes_reset (stream : StreamId) (code : ErrorCode) :
    ∃ after, (network.call place (.reset stream code)).HasOnly place after ∧
      after.Owes made (opened.map (Subscription.extend (.reset stream code)))
        (network.call place (.reset stream code)).clock := by
  have hclock : (network.call place (.reset stream code)).clock = network.clock := by
    rw [call, honly.resetStream_eq]
    rfl
  rw [hclock]
  refine ⟨_, (honly.call_reset stream code).1, ?_⟩
  have hstreams : (session.reset stream).streams ⊆ session.streams := by
    unfold LoopbackSession.reset
    split
    · exact List.filter_subset_self ..
    · exact List.Subset.refl _
  have hafter : session.reset stream =
      { session with streams := (session.reset stream).streams } := by
    unfold LoopbackSession.reset
    split <;> rfl
  exact howes.extend (.reset stream code) hafter hstreams (List.Subset.refl _)
    (fun _ _ => rfl) fun _ _ _ hmem _ => hmem

private theorem owes_close (code : ErrorCode) (reason : String) :
    ∃ after, (network.call place (.close code reason)).HasOnly place after ∧
      after.Owes made (opened.map (Subscription.extend (.close code reason)))
        (network.call place (.close code reason)).clock := by
  rw [call, honly.closeSession_eq]
  refine ⟨_, (honly.setTransport _).note _, ?_⟩
  have hafter : session.close.1 =
      { session with
        streams := session.close.1.streams, isClosed := session.close.1.isClosed } := by
    unfold LoopbackSession.close
    split <;> rfl
  have hstreams : session.close.1.streams ⊆ session.streams := by
    unfold LoopbackSession.close
    split
    · exact List.Subset.refl _
    · exact List.nil_subset _
  exact howes.extend (.close code reason) hafter hstreams (List.Subset.refl _)
    (fun _ _ => rfl) fun _ _ _ hmem _ => hmem

private theorem owes_advance (milliseconds : Nat) :
    ∃ after, (network.call place (.advance milliseconds)).HasOnly place after ∧
      after.Owes made (opened.map (Subscription.extend (.advance milliseconds)))
        (network.call place (.advance milliseconds)).clock := by
  let elapsed := network.elapse milliseconds
  have helapsed : elapsed.HasOnly place session := honly
  have hsettled : elapsed.settle.HasOnly place (session.settle elapsed.clock) := by
    rw [helapsed.settle_eq]
    exact helapsed.setTransport _
  have hmem : ∀ key reply, (key, reply) ∈ elapsed.dueReplies ↔
      key = place ∧ reply ∈ session.due elapsed.clock := by
    intro key reply
    rw [dueReplies, List.mem_mergeSort, helapsed.loopbacks_eq]
    simp [and_comm, eq_comm]
  have hobservers : ∀ entry ∈ (session.settle elapsed.clock).streams,
      ∃ observer, entry.2 = .observer observer := by
    intro entry hentry
    obtain ⟨subscription, -, -, -, rfl, -⟩ := howes.streams entry hentry
    exact ⟨subscription.observer, rfl⟩
  obtain ⟨⟨streams, hreached, hkept, hapart⟩, hclock⟩ :=
    hsettled.delivers hobservers fun each heach => ((hmem each.1 each.2).mp heach).1
  have hsame : elapsed.settle.clock = network.clock + milliseconds := by
    rw [helapsed.settle_eq]
    rfl
  refine ⟨_, hreached, ?_⟩
  rw [show (network.call place (.advance milliseconds)).clock = _ from hclock.trans hsame]
  refine howes.extend (.advance milliseconds) rfl hkept (List.filter_subset_self ..) ?_ ?_
  · intro reply hreply
    have hlater := of_decide_eq_true (List.mem_filter.mp hreply).2
    rw [Call.brings, decide_eq_false_iff_not]
    show ¬ reply.due - network.clock ≤ milliseconds
    have hnow : elapsed.clock = network.clock + milliseconds := rfl
    omega
  · intro entry hentry reply hreply hsame
    refine List.mem_filter.mpr ⟨hreply, decide_eq_true (Nat.lt_of_not_le fun hdue => ?_)⟩
    have hcame : (place, reply) ∈ elapsed.dueReplies :=
      (hmem place reply).mpr ⟨rfl, List.mem_filter.mpr ⟨hreply, decide_eq_true hdue⟩⟩
    exact hapart entry hentry _ hcame hsame

private theorem owes_call (call : Call) :
    ∃ after, (network.call place call).HasOnly place after ∧
      after.Owes made (opened.map (Subscription.extend call) ++
        (network.subscription? place call []).toList) (network.call place call).clock := by
  cases call with
  | openStream request observer => exact owes_openStream honly howes request observer
  | reset stream code =>
      rw [subscription?, Option.toList_none, List.append_nil]
      exact owes_reset honly howes stream code
  | close code reason =>
      rw [subscription?, Option.toList_none, List.append_nil]
      exact owes_close honly howes code reason
  | advance milliseconds =>
      rw [subscription?, Option.toList_none, List.append_nil]
      exact owes_advance honly howes milliseconds

end OneCall

/-- Through any calls, however many, a session owes what it should.  The induction is on the
calls that were made already, since what is owed is told by what came after an opening. -/
private theorem owes_calls (honly : network.HasOnly place made) (hnew : made.IsNew)
    (hreplies : made.replies = []) (calls : List Call) :
    ∃ after, (network.calls place calls).HasOnly place after ∧
      after.Owes made (network.subscriptions place calls) (network.calls place calls).clock := by
  induction calls using List.reverseRecOn with
  | nil => exact ⟨made, honly, LoopbackSession.owes_of_new hnew hreplies _⟩
  | append_singleton earlier call ih =>
      obtain ⟨session, hearlier, howes⟩ := ih
      rw [calls_append, subscriptions_concat]
      exact owes_call hearlier howes call

/-! ## Once around -/

/-- Calls that open a stream, and then so many others, each of which is reset at once. -/
def lap (request : Http.Request) (rounds : Nat) : List Call :=
  .openStream request "first" ::
    (List.range rounds).flatMap fun round =>
      [.openStream request "between", .reset (.nth (round + 1)) .cancel]

/-- A session on which one stream was opened, and so many others that were reset.  The answer to
the first is on its way. -/
structure Laps (session made : LoopbackSession Listener) (request : Http.Request)
    (rounds : Nat) : Prop where
  limit : session.limit = made.limit
  isOpen : session.isClosed = false
  next : session.nextStream = .nth (rounds + 1)
  streams : session.streams = [(.nth 0, .observer "first")]
  owed : ∃ reply ∈ session.replies,
    reply.stream = .nth 0 ∧ reply.response = made.responder request

namespace Laps

variable {request : Http.Request} {rounds : Nat} (hlaps : Laps session made request rounds)
  (hroom : 2 ≤ made.limit) (now tickets : Nat) (another : Http.Request) (observer : String)
include hlaps hroom

/-- Where there is room for two streams, another can be opened beside the first. -/
theorem openStream_snd : (session.openStream now tickets another (.observer observer)).2 =
    .ok (.nth (rounds + 1)) := by
  have hopen : ¬ session.isClosed = true := by simp [hlaps.isOpen]
  have hfew : ¬ session.limit ≤ session.openStreams := by
    rw [LoopbackSession.openStreams, hlaps.streams, hlaps.limit, List.length_singleton]
    omega
  rw [LoopbackSession.openStream, if_neg hopen, if_neg hfew, hlaps.next]

theorem streams_openStream :
    (session.openStream now tickets another (.observer observer)).1.streams =
      (if StreamId.nth 0 = .nth (rounds + 1) then [] else [(.nth 0, .observer "first")]) ++
        [(.nth (rounds + 1), .observer observer)] := by
  have hresult := hlaps.openStream_snd hroom now tickets another observer
  rw [(LoopbackSession.opened_of_openStream hresult).streams, LoopbackSession.drop, hlaps.streams]
  split
  next hsame => simp [← hsame]
  next hother => simp [hother]

theorem owed_openStream :
    ∃ reply ∈ (session.openStream now tickets another (.observer observer)).1.replies,
      reply.stream = .nth 0 ∧ reply.response = made.responder request := by
  have hresult := hlaps.openStream_snd hroom now tickets another observer
  obtain ⟨reply, hmem, hreply⟩ := hlaps.owed
  refine ⟨reply, ?_, hreply⟩
  rw [(LoopbackSession.replies_of_openStream hresult).2]
  exact List.mem_append_left _ hmem

/-- Until numbers come round, a stream that is opened beside the first and reset leaves nothing
behind but its answer. -/
theorem again (hfew : rounds + 1 < 2 ^ 31) :
    Laps ((session.openStream now tickets another (.observer observer)).1.reset
      (.nth (rounds + 1))) made request (rounds + 1) := by
  have hopened := LoopbackSession.opened_of_openStream
    (hlaps.openStream_snd hroom now tickets another observer)
  have howed := hlaps.owed_openStream hroom now tickets another observer
  have hstreams := hlaps.streams_openStream hroom now tickets another observer
  have hother : StreamId.nth 0 ≠ .nth (rounds + 1) := by
    intro hsame
    have hmod := StreamId.nth_eq_nth_iff.mp hsame
    omega
  rw [if_neg hother] at hstreams
  rw [LoopbackSession.reset, if_pos (StreamId.isClientInitiated_nth _)]
  exact
    { limit := hopened.limit.trans hlaps.limit
      isOpen := hopened.isClosed.trans hlaps.isOpen
      next := hopened.nextStream.trans (StreamId.next_nth _)
      streams := by
        rw [LoopbackSession.drop, hstreams]
        simp [hother]
      owed := howed }

end Laps

/-- As long as numbers have not come round, the first stream stays open all the time. -/
theorem laps_lap (hmade : network.HasOnly place made) (hnew : made.IsNew) (hroom : 2 ≤ made.limit)
    (request : Http.Request) {rounds : Nat} (hfew : rounds < 2 ^ 31) :
    ∃ session, (network.calls place (lap request rounds)).HasOnly place session ∧
      Laps session made request rounds ∧
      (network.calls place (lap request rounds)).hearings = network.hearings ∧
      (network.subscriptions place (lap request rounds)).length = rounds + 1 := by
  induction rounds with
  | zero =>
      have hresult : (made.openStream network.clock network.tickets request
          (.observer "first")).2 = .ok (.nth 0) := by
        have hempty : ¬ made.limit ≤ made.openStreams := by
          rw [LoopbackSession.openStreams, hnew.streams, List.length_nil]
          omega
        rw [LoopbackSession.openStream, if_neg (by simp [hnew.isClosed]), if_neg hempty,
          hnew.nextStream]
        rfl
      have hopened := LoopbackSession.opened_of_openStream hresult
      obtain ⟨hnumber, hreplies⟩ := LoopbackSession.replies_of_openStream hresult
      obtain ⟨honly, hhearings⟩ := hmade.call_openStream hresult
      have hcount : (network.subscriptions place (lap request 0)).length = 1 := by
        show (network.subscriptions place [.openStream request "first"]).length = 1
        rw [subscriptions, hmade.subscription?_openStream hresult]
        rfl
      refine ⟨_, honly, ?_, hhearings, hcount⟩
      exact
        { limit := hopened.limit
          isOpen := hopened.isClosed.trans hnew.isClosed
          next := hopened.nextStream.trans (StreamId.next_nth 0)
          streams := by
            rw [hopened.streams, LoopbackSession.drop, hnew.streams]
            rfl
          owed := by
            refine ⟨made.answerTo network.clock network.tickets request, ?_, hnumber.symm, rfl⟩
            rw [hreplies]
            exact List.mem_append_right _ (List.mem_singleton_self _) }
  | succ rounds ih =>
      obtain ⟨session, honly, hlaps, hhearings, hcount⟩ := ih (by omega)
      have hlap : lap request (rounds + 1) = lap request rounds ++
          [.openStream request "between"] ++ [.reset (.nth (rounds + 1)) .cancel] := by
        rw [List.append_assoc, lap, lap, List.range_succ, List.flatMap_append, List.cons_append,
          List.flatMap_singleton]
        rfl
      let before := network.calls place (lap request rounds)
      have hresult := hlaps.openStream_snd hroom before.clock before.tickets request "between"
      obtain ⟨hopen, hsilent⟩ := honly.call_openStream hresult
      obtain ⟨hreset, hsilent'⟩ := hopen.call_reset (.nth (rounds + 1)) .cancel
      rw [hlap, calls_append, calls_append]
      refine ⟨_, hreset, hlaps.again hroom before.clock before.tickets request "between" hfew,
        hsilent'.trans (hsilent.trans hhearings), ?_⟩
      rw [subscriptions_concat, subscriptions_concat, honly.subscription?_openStream hresult]
      simp [subscription?, hcount]

/-! ## What there is to see from outside -/

/-- Streams that have the odd numbers, one after the other, as far as these go. -/
structure AreNumbered (opened : List Subscription) : Prop where
  numbers : opened.map Subscription.stream = (List.range opened.length).map StreamId.nth
  odd : ∀ subscription ∈ opened, subscription.stream.isClientInitiated = true
  /-- A number comes again after `2 ^ 31` streams. -/
  same_iff : ∀ {first second : Nat} (hfirst : first < opened.length)
    (hsecond : second < opened.length), opened[first].stream = opened[second].stream ↔
      first % 2 ^ 31 = second % 2 ^ 31
  once : opened.length ≤ 2 ^ 31 → (opened.map Subscription.stream).Nodup

private theorem areNumbered_of_owes {now : Nat} (howes : session.Owes made opened now) :
    AreNumbered opened where
  numbers := howes.numbers
  odd := howes.odd
  same_iff hfirst hsecond := by
    rw [howes.stream_getElem hfirst, howes.stream_getElem hsecond, StreamId.nth_eq_nth_iff]
  once := howes.nodup_streams

/-- No two streams of a session have one number in use. -/
structure KeepsApart (network : Network α) (place : SessionKey)
    (made session : LoopbackSession Listener) (opened : List Subscription) : Prop where
  hasOnly : network.HasOnly place session
  /-- Every answer that is on its way is for somebody's own request, and goes to them or to
  nobody. -/
  answers : ∀ reply ∈ session.replies, ∃ subscription ∈ opened,
    subscription.Expects made network.clock reply ∧
    ∀ listener, session.listener? reply.stream = some listener →
      listener = .observer subscription.observer
  /-- The next stream has nobody's number, and replaces no listener. -/
  next : ∀ request observer stream,
    (network.openStream quiet place request (.observer observer)).2 = .ok stream →
    stream = .nth opened.length ∧ (∀ reply ∈ session.replies, reply.stream ≠ stream) ∧
      (∀ entry ∈ session.streams, entry.1 ≠ stream) ∧
      ∃ after, (network.call place (.openStream request observer)).HasOnly place after ∧
        after.streams = session.streams ++ [(stream, .observer observer)]

private theorem HasOnly.keepsApart (honly : network.HasOnly place session)
    (howes : session.Owes made opened network.clock)
    (hslow : ∀ subscription ∈ opened.take (opened.length + 1 - 2 ^ 31),
      subscription.IsOver made.delay) : network.KeepsApart place made session opened where
  hasOnly := honly
  answers reply hmem := by
    obtain ⟨subscription, hthere, hexpects⟩ := howes.replies reply hmem
    exact ⟨subscription, hthere, hexpects,
      fun listener => howes.listener_eq hslow hthere hexpects⟩
  next request observer stream haccepted := by
    cases hresult : (session.openStream network.clock network.tickets request
      (.observer observer)).2 with
    | error error =>
        rw [honly.openStream_of_error hresult] at haccepted
        cases haccepted
    | ok number =>
        have hopen := honly.openStream_of_ok hresult
        rw [hopen] at haccepted
        obtain rfl := Except.ok.inj haccepted
        have hopened := LoopbackSession.opened_of_openStream hresult
        have habsent : (session.drop number).streams = session.streams := by
          rw [hopened.number, howes.drop_next hslow]
        refine ⟨hopened.number.trans howes.next, ?_, ?_, _,
          (honly.call_openStream hresult).1, ?_⟩
        · rw [hopened.number]
          exact howes.reply_ne_next hslow
        · intro entry hmem hsame
          rw [← habsent] at hmem
          simpa [hsame] using (List.mem_filter.mp hmem).2
        · rw [hopened.streams, habsent]

/-- The streams that a loopback session has opened, however many, are numbered one after the
other, by words that come round after `2 ^ 31` streams.  If the delay of the session has elapsed
for all streams that were opened so long ago, no number is in use for two streams at a time: no
listener is replaced, and an answer goes to whoever asked or to nobody. -/
theorem numbers_keep_apart (surroundings : α) (name : String) (connection : ConnectionId)
    (limit delay : Nat) (responder : Responder) (calls : List Call) :
    let made : LoopbackSession Listener := { connection, limit, delay, responder }
    let network := withLoopback surroundings name made
    let opened := network.subscriptions ⟨1⟩ calls
    AreNumbered opened ∧
      ((∀ subscription ∈ opened.take (opened.length + 1 - 2 ^ 31), subscription.IsOver delay) →
        ∃ session, (network.calls ⟨1⟩ calls).KeepsApart ⟨1⟩ made session opened) := by
  intro made network opened
  have hmade : network.HasOnly ⟨1⟩ made := hasOnly_withLoopback surroundings name made
  obtain ⟨session, honly, howes⟩ := owes_calls hmade ⟨rfl, rfl, rfl⟩ rfl calls
  exact ⟨areNumbered_of_owes howes, fun hslow => ⟨session, honly.keepsApart howes hslow⟩⟩

/-- Once around, when the delay has elapsed for all streams, the first number can be used again. -/
theorem numbers_keep_apart_once_around :
    let made : LoopbackSession Listener :=
      { connection := ⟨1⟩, limit := 2, delay := 5, responder := fun _ => ⟨⟨200, .empty⟩, [104]⟩ }
    let calls := lap ⟨.connect, .absolute .https ⟨"a"⟩ .slash, .http2, ⟨[]⟩, []⟩ (2 ^ 31 - 1) ++
      [.advance 5]
    let network := withLoopback () "s" made
    let opened := network.subscriptions ⟨1⟩ calls
    opened.length = 2 ^ 31 ∧ (∀ subscription ∈ opened, subscription.IsOver 5) ∧
      AreNumbered opened ∧
      ∃ session, (network.calls ⟨1⟩ calls).KeepsApart ⟨1⟩ made session opened := by
  intro made calls network opened
  have hmade : network.HasOnly ⟨1⟩ made := hasOnly_withLoopback () "s" made
  obtain ⟨session, -, -, -, hlength⟩ :=
    laps_lap hmade ⟨rfl, rfl, rfl⟩ (Nat.le_refl 2) _ (show 2 ^ 31 - 1 < 2 ^ 31 by omega)
  have hover : ∀ subscription ∈ opened, subscription.IsOver 5 :=
    isOver_of_advance network ⟨1⟩ _ (Nat.le_refl 5)
  obtain ⟨hnumbered, hapart⟩ := numbers_keep_apart () "s" ⟨1⟩ 2 5 made.responder calls
  refine ⟨?_, hover, hnumbered, hapart fun subscription hmem =>
    hover subscription (List.mem_of_mem_take hmem)⟩
  show (network.subscriptions ⟨1⟩ calls).length = 2 ^ 31
  rw [subscriptions_concat, List.length_append, List.length_map, hlength, subscription?,
    Option.toList_none, List.length_nil]
  omega

/-- A stream is overtaken by another: they have the same number, the listener of the first is
replaced, and its answer is heard by the listener of the other. -/
structure Overtaken (network : Network α) (place : SessionKey) (other : Http.Request)
    (stream : StreamId) (observer later : String) (answer : Http.Response) : Prop where
  listed : ∃ session, network.HasOnly place session ∧
    session.streams = [(stream, .observer observer)]
  again : (network.openStream quiet place other (.observer later)).2 = .ok stream
  replaced : ∃ session, (network.call place (.openStream other later)).HasOnly place session ∧
    session.streams = [(stream, .observer later)] ∧
    ∃ reply ∈ session.replies, reply.stream = stream ∧ reply.response = answer ∧
      ((network.call place (.openStream other later)).deliver quiet place reply).hearings =
        network.hearings ++ [(later, .response answer.head), (later, .data answer.body true)]

private theorem overtaken_of_lap (hmade : network.HasOnly place made) (hnew : made.IsNew)
    (hroom : 2 ≤ made.limit) (request other : Http.Request) (later : String) :
    (network.calls place (lap request (2 ^ 31 - 1))).Overtaken place other .first "first" later
      (made.responder request) := by
  obtain ⟨session, honly, hlaps, -, -⟩ := laps_lap hmade hnew hroom request
    (show 2 ^ 31 - 1 < 2 ^ 31 by omega)
  generalize network.calls place (lap request (2 ^ 31 - 1)) = before at *
  have hround : StreamId.nth 0 = .nth (2 ^ 31 - 1 + 1) :=
    StreamId.nth_eq_nth_iff.mpr (by omega)
  have hresult := hlaps.openStream_snd hroom before.clock before.tickets other later
  have hstreams := hlaps.streams_openStream hroom before.clock before.tickets other later
  obtain ⟨reply, howed, hstream, hresponse⟩ :=
    hlaps.owed_openStream hroom before.clock before.tickets other later
  obtain ⟨hopen, hsilent⟩ := honly.call_openStream hresult
  rw [if_pos hround, List.nil_append, ← hround] at hstreams
  refine
    { listed := ⟨session, honly, hlaps.streams⟩
      again := ?_
      replaced := ⟨_, hopen, hstreams, reply, howed, hstream, hresponse, ?_⟩ }
  · rw [honly.openStream_of_ok hresult, ← hround]
    rfl
  · have hlistener := (LoopbackSession.first_of_absent hstreams (by simp)).1
    rw [← hstream] at hlistener
    rw [hopen.deliver_of_observer hlistener, hearings_note, hearings_note, hresponse,
      List.append_assoc]
    exact congrArg (· ++ _) hsilent

/-- The first of `2 ^ 31 + 1` streams waits for its answer, and the last one gets it. -/
theorem late_answer_reaches_another :
    let made : LoopbackSession Listener :=
      { connection := ⟨1⟩, limit := 2, delay := 5,
        responder := fun request => ⟨⟨200, .empty⟩, request.body⟩ }
    let first : Http.Request := ⟨.connect, .absolute .https ⟨"a"⟩ .slash, .http2, ⟨[]⟩, [1]⟩
    let last : Http.Request := ⟨.connect, .absolute .https ⟨"a"⟩ .slash, .http2, ⟨[]⟩, [2]⟩
    ((withLoopback () "s" made).calls ⟨1⟩ (lap first (2 ^ 31 - 1))).Overtaken ⟨1⟩ last ⟨1⟩ "first"
      "last" ⟨⟨200, .empty⟩, [1]⟩ := by
  intro made first last
  have hmade : (withLoopback () "s" made).HasOnly ⟨1⟩ made := hasOnly_withLoopback () "s" made
  exact overtaken_of_lap hmade ⟨rfl, rfl, rfl⟩ (Nat.le_refl 2) first last "last"

end Network

end Multiplex
