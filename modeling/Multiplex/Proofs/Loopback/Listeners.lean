import Multiplex.Proofs.Loopback.Operations

/-!
# Who listens to loopback sessions

The answer of a loopback session reaches whoever listens to its stream, and ends a channel if
that is one.  For a session and its connection to stay in step, the channel has to be one
over the session that answers.

`Hosting` says that channels listen to their own sessions only.  Most of what happens takes
listeners away (`Fewer`); a stream that is opened gets the channel that asked for it, and a
channel asks its own session (`Adds`).
-/

namespace Multiplex

/-! ## Streams that go -/

namespace LoopbackSession

variable {ι : Type} {session : LoopbackSession ι}

theorem streams_drop_subset (session : LoopbackSession ι) (stream : StreamId) :
    (session.drop stream).streams ⊆ session.streams :=
  fun _ hmem => (List.mem_filter.mp hmem).1

theorem streams_lose_subset (session : LoopbackSession ι) (stream? : Option StreamId) :
    (session.lose stream?).streams ⊆ session.streams := by
  cases stream? with
  | none => exact fun _ hmem => hmem
  | some stream =>
      show (session.reset stream).streams ⊆ session.streams
      unfold reset
      split
      · exact session.streams_drop_subset stream
      · exact fun _ hmem => hmem

private theorem streams_close_subset (session : LoopbackSession ι) :
    session.close.1.streams ⊆ session.streams := by
  unfold close
  split
  · exact fun _ hmem => hmem
  · exact List.nil_subset _

end LoopbackSession

namespace Network

variable {α : Type} {network first second third : Network α} {id : ChannelId} {key : ConnectionKey}
  {connection : Connection} {loopback before after : LoopbackSession Listener}
  {place session : SessionKey} {stream : StreamId} {operation : Operation} {channel : Channel}
  {target : ExchangeId}

/-- No loopback session has streams that it had not before. -/
def Fewer (first second : Network α) : Prop :=
  ∀ session after, second.loopback? session = some after →
    ∃ before, first.loopback? session = some before ∧ after.streams ⊆ before.streams

namespace Fewer

theorem of_eq (hsame : ∀ session, second.loopback? session = first.loopback? session) :
    Fewer first second :=
  fun session after hafter => ⟨after, (hsame session).symm.trans hafter, fun _ hmem => hmem⟩

theorem trans (hleft : Fewer first second) (hright : Fewer second third) : Fewer first third := by
  intro session after hafter
  obtain ⟨middle, hmiddle, hlater⟩ := hright session after hafter
  obtain ⟨before, hbefore, hearlier⟩ := hleft session middle hmiddle
  exact ⟨before, hbefore, fun _ hmem => hearlier (hlater hmem)⟩

end Fewer

private theorem fewer_resetStream (network : Network α) (session : SessionKey) (stream : StreamId)
    (code : ErrorCode) : Fewer network (network.resetStream quiet session stream code) := by
  intro other after hafter
  rw [loopback?_resetStream] at hafter
  split at hafter
  · obtain ⟨before, hbefore, rfl⟩ := Option.map_eq_some_iff.mp hafter
    exact ⟨before, hbefore, before.streams_lose_subset (some stream)⟩
  · exact ⟨after, hafter, fun _ hmem => hmem⟩

theorem fewer_abort (network : Network α) (target : ExchangeId) (error : ExchangeError) :
    Fewer network (network.abort quiet target error).1 := by
  intro session after hafter
  obtain ⟨stream?, hlost⟩ := network.loopback?_abort_lost target error session
  rw [hlost] at hafter
  obtain ⟨before, hbefore, rfl⟩ := Option.map_eq_some_iff.mp hafter
  exact ⟨before, hbefore, before.streams_lose_subset stream?⟩

private theorem fewer_abortInOrder (network : Network α) (reason : CloseReason)
    (order : List ChannelId) :
    Fewer network (order.foldl (abortCarried quiet reason) network) := by
  induction order generalizing network with
  | nil => exact .of_eq fun _ => rfl
  | cons id rest ih =>
      refine Fewer.trans ?_ (ih (abortCarried quiet reason network id))
      unfold abortCarried
      cases network.carried? id with
      | none => exact .of_eq fun _ => rfl
      | some target => exact fewer_abort network target (.aborted reason)

private theorem fewer_close (hconnection : network.connection? key = some connection)
    (hopen : connection.isClosed = false) (reason : CloseReason) :
    Fewer network (network.close quiet key reason).1 := by
  have hannounced : Fewer network (network.announced key connection reason) := by
    intro session after hafter
    rw [loopback?_announced] at hafter
    split at hafter
    · obtain ⟨before, hbefore, rfl⟩ := Option.map_eq_some_iff.mp hafter
      exact ⟨before, hbefore, before.streams_close_subset⟩
    · exact ⟨after, hafter, fun _ hmem => hmem⟩
  have hkept : Fewer (network.announced key connection reason)
      (network.kept key connection reason) :=
    .of_eq fun session =>
      loopback?_congr (congrFun (kept_frame network key connection reason).2.2.1 session)
  rw [close_of_open hconnection hopen]
  exact (hannounced.trans hkept).trans (fewer_abortInOrder _ reason connection.live)

/-! ## Streams that come -/

/-- No loopback session has streams that it had not before, except that a channel may listen
to a new stream of one session. -/
def Adds (first second : Network α) (id : ChannelId) (place : SessionKey) : Prop :=
  ∀ session after, second.loopback? session = some after →
    ∃ before, first.loopback? session = some before ∧ ∀ entry ∈ after.streams,
      entry ∈ before.streams ∨ session = place ∧ entry.2 = .channel id

namespace Adds

theorem of_fewer (hfewer : Fewer first second) : Adds first second id place := by
  intro session after hafter
  obtain ⟨before, hbefore, hsubset⟩ := hfewer session after hafter
  exact ⟨before, hbefore, fun entry hmem => .inl (hsubset hmem)⟩

theorem trans_fewer (hleft : Adds first second id place) (hright : Fewer second third) :
    Adds first third id place := by
  intro session after hafter
  obtain ⟨middle, hmiddle, hsubset⟩ := hright session after hafter
  obtain ⟨before, hbefore, hadds⟩ := hleft session middle hmiddle
  exact ⟨before, hbefore, fun entry hmem => hadds entry (hsubset hmem)⟩

theorem congr_left (hadds : Adds second third id place)
    (hsame : ∀ session, second.loopback? session = first.loopback? session) :
    Adds first third id place := by
  intro session after hafter
  obtain ⟨before, hbefore, hentries⟩ := hadds session after hafter
  exact ⟨before, (hsame session).symm.trans hbefore, hentries⟩

end Adds

private theorem adds_openStream (network : Network α) (place : SessionKey) (request : Http.Request)
    (id : ChannelId) :
    Adds network (network.openStream quiet place request (.channel id)).1 id place := by
  cases hbefore : network.loopback? place with
  | none => exact .of_fewer (.of_eq (openStream_of_recording hbefore request (.channel id)))
  | some before =>
      obtain ⟨-, hthere⟩ := openStream_of_loopback hbefore request (.channel id)
      intro session after hafter
      rw [hthere] at hafter
      split at hafter
      next heq =>
        obtain rfl := Option.some.inj hafter
        refine ⟨before, heq ▸ hbefore, fun entry hmem => ?_⟩
        cases hresult :
            (before.openStream network.clock network.tickets request (.channel id)).2 with
        | error error =>
            rw [LoopbackSession.openStream_of_error hresult] at hmem
            exact .inl hmem
        | ok stream =>
            have hopened := LoopbackSession.opened_of_openStream hresult
            rw [hopened.streams, List.mem_append, List.mem_singleton] at hmem
            rcases hmem with hold | rfl
            · exact .inl (before.streams_drop_subset stream hold)
            · exact .inr ⟨heq, rfl⟩
      next => exact ⟨after, hafter, fun entry hmem => .inl hmem⟩

private theorem fewer_giveStream (network : Network α) (id : ChannelId) (stream : StreamId) :
    Fewer network (network.giveStream quiet id stream) := by
  unfold giveStream
  dsimp only
  split
  · exact .of_eq fun _ => rfl
  · split
    · exact fewer_resetStream (network.modifyChannel id _) _ stream .cancel
    · exact .of_eq fun _ => rfl

theorem adds_sendOnChannel (hchannel : network.channel? id = some channel) (target : ExchangeId) :
    Adds network (network.sendOnChannel quiet id target).1 id channel.session := by
  have hrefl : Adds network network id channel.session := .of_fewer (.of_eq fun _ => rfl)
  cases hexchange : network.exchange? target with
  | none => simpa only [sendOnChannel, hchannel, hexchange] using hrefl
  | some exchange =>
      rcases sendOnChannel_ways hchannel hexchange with ⟨error, heq⟩ | ⟨-, heq⟩ | heq
      · rw [heq]
        exact hrefl
      · rw [heq]
        exact .of_fewer (.of_eq fun _ => rfl)
      have hopened : Adds network ((network.bind id target).openStream quiet channel.session
          exchange.request (.channel id)).1 id channel.session :=
        (adds_openStream (network.bind id target) channel.session exchange.request id).congr_left
          fun _ => rfl
      rw [heq]
      split
      next opened stream hresult =>
        rw [hresult] at hopened
        exact hopened.trans_fewer (fewer_giveStream opened id stream)
      next opened error hresult =>
        rw [hresult] at hopened
        exact hopened.trans_fewer (.of_eq fun _ => rfl)

private theorem adds_send (hconnection : network.connection? key = some connection)
    (target : ExchangeId) :
    Adds network (network.send quiet key target).1 network.nextChannel connection.session := by
  cases hexchange : network.exchange? target with
  | none =>
      have hrefl : Fewer network network := .of_eq fun _ => rfl
      simpa only [send, hconnection, hexchange] using Adds.of_fewer hrefl
  | some exchange =>
      rcases send_ways hconnection hexchange with ⟨final, error, heq, hsession⟩ | ⟨-, heq⟩
      · rw [heq]
        exact .of_fewer (.of_eq fun session => loopback?_congr (congrFun hsession session))
      · let ready := network.registered key connection target exchange.request.normalize.1
        have hnew : ready.channel? network.nextChannel = some (newcomer connection key) :=
          channel?_newcomer _
        have hsent : Adds network (ready.sendOnChannel quiet network.nextChannel target).1
            network.nextChannel connection.session :=
          (adds_sendOnChannel hnew target).congr_left fun _ => rfl
        rw [heq]
        unfold sendRegistered
        split
        next sent stream hresult =>
          rw [hresult] at hsent
          exact hsent.trans_fewer (.of_eq fun _ => rfl)
        next sent error hresult =>
          rw [hresult] at hsent
          exact hsent.trans_fewer (.of_eq fun _ => rfl)

/-! ## Channels listen to their own sessions -/

theorem Hosts.later (hhosts : first.Hosts session loopback) (hlater : Later first second) :
    second.Hosts session loopback := by
  intro stream id hmem
  obtain ⟨channel, hchannel, hover⟩ := hhosts stream id hmem
  obtain ⟨after, hafter, hages⟩ := hlater.channel hchannel
  exact ⟨after, hafter, hages.session.trans hover⟩

/-- Channels listen to streams of their own sessions only. -/
def Hosting (network : Network α) : Prop :=
  ∀ session loopback, network.loopback? session = some loopback → network.Hosts session loopback

theorem hosting_blank (surroundings : α) : Hosting (blank surroundings) :=
  fun session loopback hfound => by simp [loopback?] at hfound

namespace Hosting

section Later

variable (hhosting : Hosting first) (hlater : Later first second)
include hhosting hlater

theorem adds (hadds : Adds first second id place) (hchannel : second.channel? id = some channel)
    (hover : channel.session = place) : Hosting second := by
  intro session after hafter stream other hmem
  obtain ⟨before, hbefore, hentries⟩ := hadds session after hafter
  rcases hentries _ hmem with hold | ⟨hsession, hlistener⟩
  · exact (hhosting session before hbefore).later hlater stream other hold
  · obtain rfl := Listener.channel.inj hlistener
    exact ⟨channel, hchannel, hover.trans hsession.symm⟩

theorem fewer (hfewer : Fewer first second) : Hosting second := by
  intro session after hafter stream other hmem
  obtain ⟨before, hbefore, hsubset⟩ := hfewer session after hafter
  exact (hhosting session before hbefore).later hlater stream other (hsubset hmem)

end Later

section Undergo

variable (hhosting : Hosting network) (hsound : Sound network)
include hhosting hsound

private theorem of_nothing (hnothing : network.happening operation = .nothing)
    (hrespects : network.Respects place operation) : Hosting (network.undergo operation) := by
  have hlater := later_undergo hsound operation
  intro session after hafter
  -- The respected session is made over with the streams it had, any other with channels of its own.
  by_cases hmoved : ∃ transport, operation = .moveSession session transport
  · obtain ⟨transport, rfl⟩ := hmoved
    rcases loopback?_moveSession hafter with hbefore | rfl
    · exact (hhosting session after hbefore).later hlater
    · by_cases heq : session = place
      · subst heq
        obtain ⟨before, hbefore, halike⟩ := hrespects.1 rfl
        intro stream id hmem
        rw [halike.streams] at hmem
        exact (hhosting session before hbefore).later hlater stream id hmem
      · exact (hrespects.2 heq).later hlater
  · have hmade : ∀ name transport, operation = .makeSession name transport → transport.IsNew := by
      rintro name transport rfl
      exact hrespects
    have hstill : ∀ transport, operation ≠ .moveSession session transport :=
      fun transport heq => hmoved ⟨transport, heq⟩
    have hevolves := loopback?_of_nothing hnothing hmade hstill
    cases hbefore : network.loopback? session with
    | none =>
        obtain ⟨-, hnew⟩ := hevolves.fresh_of_none hbefore hafter
        intro stream id hmem
        rw [hnew.streams] at hmem
        exact absurd hmem List.not_mem_nil
    | some before =>
        obtain rfl := hevolves.change_of_some hbefore hafter
        exact (hhosting session before hbefore).later hlater

/-- Channels listen to their own sessions whatever happens, if some session is respected. -/
theorem undergo (hrespects : network.Respects place operation) :
    Hosting (network.undergo operation) := by
  by_cases hnothing : network.happening operation = .nothing
  · exact hhosting.of_nothing hsound hnothing hrespects
  have hlater := later_undergo hsound operation
  have hstep := brings_undergo hsound hnothing
  rw [undergo_eq_bring hnothing] at hlater hstep ⊢
  generalize hhappening : network.happening operation = happening at hnothing hlater hstep ⊢
  cases happening with
  | nothing => exact absurd rfl hnothing
  | event id event =>
      exact hhosting.fewer hlater (.of_eq (network.loopback?_channelHears id event))
  | aborted target error => exact hhosting.fewer hlater (network.fewer_abort target error)
  | closed key reason =>
      cases hstep with
      | closed hconnection hopen =>
          exact hhosting.fewer hlater (fewer_close hconnection hopen reason)
  | sent key target =>
      change Hosting (network.send quiet key target).1
      generalize hsecond : (network.send quiet key target).1 = second
      simp only [bring, hsecond] at hlater hstep
      cases hstep with
      | undispatched hfailed =>
          obtain ⟨error, hfailed⟩ := hfailed
          exact hhosting.fewer hlater (.of_eq (hsecond ▸ loopback?_send_of_error hfailed))
      | dispatched _ hconnection _ _ hdispatched =>
          have hmade := hdispatched.channel? network.nextChannel
          rw [if_pos rfl] at hmade
          exact hhosting.adds hlater (hsecond ▸ adds_send hconnection target) hmade rfl
  | sentOn id target =>
      have hsent : ∀ {channel}, network.channel? id = some channel →
          Hosting (network.sendOnChannel quiet id target).1 := by
        intro channel hchannel
        obtain ⟨after, hafter, hages⟩ := hlater.channel hchannel
        exact hhosting.adds hlater (adds_sendOnChannel hchannel target) hafter hages.session
      change Hosting (network.sendOnChannel quiet id target).1
      change Brings network _ (network.sendOnChannel quiet id target).1 at hstep
      generalize hsecond : (network.sendOnChannel quiet id target).1 = second at hstep
      cases hstep with
      | unsent => exact hhosting
      | givenUp hchannel => exact hsecond ▸ hsent hchannel
      | sentOn hchannel => exact hsecond ▸ hsent hchannel

end Undergo

end Hosting

end Network

end Multiplex
