import Multiplex.Proofs.Exchange.Registration

/-!
# What decides an outcome

The outcome of an exchange that a send accepted is decided by the first happening of its
run that can decide it: the last event of its channel, an abort, or the close of its
connection.  What comes after does not matter, and neither does what happens to other
exchanges in between.

`firstDecision?` reads the outcome off the happenings alone.  The network reaches it step
by step: as long as nothing has decided, the channel has collected exactly what it has
heard (`Awaits`), and the first happening that decides settles the exchange accordingly.
-/

namespace Multiplex

/-! ## Reading happenings -/

/-- The head that an event brings. -/
def StreamEvent.head? : StreamEvent → Option Http.ResponseHead
  | .response head => some head
  | _ => none

/-- The piece of the body that an event brings. -/
def StreamEvent.piece : StreamEvent → Octets
  | .data piece _ => piece
  | _ => []

/-- The last head among events. -/
def lastHead? (events : List StreamEvent) : Option Http.ResponseHead :=
  (events.filterMap StreamEvent.head?).getLast?

/-- The pieces of the body among events, in their order. -/
def wholeBody (events : List StreamEvent) : Octets := events.flatMap StreamEvent.piece

/-- The outcome that an event brings after earlier ones, if it is the last. -/
def StreamEvent.verdict? (past : List StreamEvent) : StreamEvent → Option Outcome
  | .response _ => none
  | .data piece ended =>
    if ended then
      match lastHead? past with
      | some head => some (.ok ⟨head, wholeBody past ++ piece⟩)
      | none => some (.error (.stream (.protocol "response body before response headers")))
    else none
  | .reset code => some (.error (.reset code))
  | .failure error => some (.error (.stream error))

namespace Happening

/-- The event that a channel hears in a happening. -/
def heard? (id : ChannelId) : Happening → Option StreamEvent
  | .event place heard => if place = id then some heard else none
  | _ => none

/-- What a happening decides about an exchange that travels over a channel of a
connection, after the channel has heard some events. -/
def decision? (key : ConnectionKey) (id : ChannelId) (target : ExchangeId)
    (past : List StreamEvent) : Happening → Option Outcome
  | .event place heard => if place = id then heard.verdict? past else none
  | .aborted other error => if other = target then some (.error error) else none
  | .closed other reason => if other = key then some (.error (.aborted reason)) else none
  | _ => none

end Happening

/-- What the first happening that decides anything about an exchange decides. -/
def firstDecision? (key : ConnectionKey) (id : ChannelId) (target : ExchangeId) :
    List StreamEvent → List Happening → Option Outcome
  | _, [] => none
  | past, happening :: rest =>
    match happening.decision? key id target past with
    | some outcome => some outcome
    | none => firstDecision? key id target (past ++ (happening.heard? id).toList) rest

namespace Network

variable {α : Type} {first second network : Network α} {key : ConnectionKey} {id : ChannelId}
  {target : ExchangeId} {past : List StreamEvent}

/-! ## Awaiting the outcome -/

/-- A connection lists the channel that carries an exchange, and the channel has collected
what it heard. -/
structure Awaits (network : Network α) (key : ConnectionKey) (id : ChannelId)
    (target : ExchangeId) (past : List StreamEvent) : Prop where
  registered : network.Registered key id
  channel : ∃ channel, network.channel? id = some channel ∧ channel.exchange = some target ∧
    channel.head = lastHead? past ∧ channel.body = wholeBody past

/-- A channel that was just dispatched on has heard nothing. -/
theorem Dispatched.awaits {connection : Connection} {exchange : Exchange} {stream : StreamId}
    (hdispatched : Dispatched first second key connection target exchange stream) :
    second.Awaits key first.nextChannel target [] where
  registered := hdispatched.registered
  channel := ⟨_, (hdispatched.channel? _).trans (if_pos rfl), rfl, rfl, rfl⟩

/-! ### What a channel has collected -/

private theorem verdict?_eq {channel : Channel} (hhead : channel.head = lastHead? past)
    (hbody : channel.body = wholeBody past) (event : StreamEvent) :
    channel.verdict? event = event.verdict? past := by
  cases event with
  | response head => rfl
  | data piece ended =>
      cases ended with
      | false => rfl
      | true =>
          simp only [Channel.verdict?, StreamEvent.verdict?, Channel.collected,
            Channel.collectBody, hhead, hbody, if_true]
          cases lastHead? past <;> rfl
  | reset code => rfl
  | failure error => rfl

private theorem collected_absorb {channel : Channel} (hhead : channel.head = lastHead? past)
    (hbody : channel.body = wholeBody past) {event : StreamEvent}
    (hverdict : channel.verdict? event = none) :
    (channel.absorb event).head = lastHead? (past ++ [event]) ∧
      (channel.absorb event).body = wholeBody (past ++ [event]) := by
  cases event with
  | response head =>
      simp [Channel.absorb, Channel.collectHead, lastHead?, wholeBody, StreamEvent.head?,
        StreamEvent.piece, hbody]
  | data piece ended =>
      cases ended with
      | false =>
          simp [Channel.absorb, Channel.collectBody, lastHead?, wholeBody, StreamEvent.head?,
            StreamEvent.piece, hhead, hbody]
      | true => simp [Channel.verdict?] at hverdict
  | reset code => simp [Channel.verdict?] at hverdict
  | failure error => simp [Channel.verdict?] at hverdict

namespace Awaits

variable (hawaits : first.Awaits key id target past)
include hawaits

/-- The wait goes on while the channel is listed and left alone. -/
theorem of_same (hregistered : second.Registered key id)
    (hchannel : second.channel? id = first.channel? id) :
    second.Awaits key id target past :=
  ⟨hregistered, by rw [hchannel]; exact hawaits.channel⟩

theorem of_ends {finished : ChannelId → Prop} (hends : Ends first second finished)
    (hnot : ¬ finished id) (hchannel : second.channel? id = first.channel? id) :
    second.Awaits key id target past :=
  hawaits.of_same (hends.registered_after hawaits.registered hnot) hchannel

theorem isSome (hsound : Sound first) : (first.exchange? target).isSome = true := by
  obtain ⟨channel, hchannel, hslot, -⟩ := hawaits.channel
  obtain ⟨exchange, hexchange⟩ := hsound.coherent.named hchannel hslot
  rw [hexchange, Option.isSome_some]

/-- What is awaited has no outcome, and it is bound to the channel that carries it. -/
theorem waits (hsound : Sound first) (hheld : first.holds target = true) :
    ∃ exchange, first.exchange? target = some exchange ∧ exchange.isHeld = true ∧
      exchange.outcome = none ∧ exchange.binding = some id ∧
      first.carried? id = some target := by
  obtain ⟨exchange, hexchange, hkept⟩ := holds_iff.mp hheld
  obtain ⟨channel, hchannel, hslot, -⟩ := hawaits.channel
  obtain ⟨_, _, -, hworks⟩ := hsound.coherent.works_of_registered hawaits.registered hchannel
  obtain ⟨hunresolved, hbinding⟩ :=
    hsound.coherent.waits_of_registered hawaits.registered hchannel hslot hexchange hkept
  have hnone : exchange.outcome = none := by simpa [Exchange.isResolved] using hunresolved
  exact ⟨exchange, hexchange, hkept, hnone, hbinding,
    Coherent.carried?_of_slot hchannel hworks.released hslot hexchange hkept⟩

private theorem not_held (hsound : Sound first) {channel : Channel}
    (hchannel : first.channel? id = some channel) : channel.isHeld = false := by
  obtain ⟨_, _, -, hworks⟩ := hsound.coherent.works_of_registered hawaits.registered hchannel
  exact hworks.free

end Awaits

/-! ## One step -/

/-- What a happening decides is what the exchange gets; where it decides nothing, the wait
goes on. -/
structure Proceeds (second : Network α) (key : ConnectionKey) (id : ChannelId)
    (target : ExchangeId) (past : List StreamEvent) (happening : Happening) : Prop where
  decided : ∀ {outcome}, happening.decision? key id target past = some outcome →
    second.outcome? target = some outcome
  undecided : happening.decision? key id target past = none →
    second.Awaits key id target (past ++ (happening.heard? id).toList)

theorem proceeds_of_decision {happening : Happening} {outcome : Outcome}
    (hdecision : happening.decision? key id target past = some outcome)
    (houtcome : second.outcome? target = some outcome) :
    Proceeds second key id target past happening where
  decided hsame := by rw [houtcome, ← hdecision, hsame]
  undecided hnone := by simp [hdecision] at hnone

theorem proceeds_of_awaits {happening : Happening}
    (hdecision : happening.decision? key id target past = none)
    (hheard : happening.heard? id = none) (hawaits : second.Awaits key id target past) :
    Proceeds second key id target past happening where
  decided hsome := by simp [hdecision] at hsome
  undecided _ := by simpa [hheard] using hawaits

/-- Where a channel carries an exchange, its last event is the outcome, and the others are
collected. -/
theorem event_of_carried {exchange : Exchange} {channel : Channel} {event : StreamEvent}
    (hexchange : first.exchange? target = some exchange) (hnone : exchange.outcome = none)
    (hchannel : first.channel? id = some channel) (hcarried : first.carried? id = some target)
    (hhead : channel.head = lastHead? past) (hbody : channel.body = wholeBody past)
    (hstep : Brings first (.event id event) second) :
    (∃ outcome, event.verdict? past = some outcome ∧ second.outcome? target = some outcome) ∨
      event.verdict? past = none ∧ second = first.modifyChannel id (Channel.absorb event) ∧
        (channel.absorb event).head = lastHead? (past ++ [event]) ∧
        (channel.absorb event).body = wholeBody (past ++ [event]) := by
  rw [← verdict?_eq hhead hbody]
  cases hstep with
  | unheard hmissing => simp [hchannel] at hmissing
  | absorbed hfound hverdict =>
      obtain rfl := Option.some.inj (hchannel.symm.trans hfound)
      exact .inr ⟨hverdict, rfl, collected_absorb hhead hbody hverdict⟩
  | reported hfound hverdict hstops =>
      obtain rfl := Option.some.inj (hchannel.symm.trans hfound)
      refine .inl ⟨_, hverdict, ?_⟩
      simp [outcome?, hstops.exchange_after hexchange, hcarried, Exchange.resolve, hnone]

/-- Where an exchange is bound to a channel, an abort is its outcome. -/
theorem outcome_of_aborted {exchange : Exchange} {error : ExchangeError}
    (hexchange : first.exchange? target = some exchange) (hnone : exchange.outcome = none)
    (hbinding : exchange.binding = some id)
    (hstep : Brings first (.aborted target error) second) :
    second.outcome? target = some (.error error) := by
  cases hstep with
  | decided hresolved => simp [isResolved, hexchange, Exchange.isResolved, hnone] at hresolved
  | withdrawn hfound _ hfree =>
      obtain rfl := Option.some.inj (hexchange.symm.trans hfound)
      simp [hbinding] at hfree
  | cancelled hfound _ _ _ hstops =>
      simp [outcome?, hstops.exchange_after hexchange, Exchange.settle, Exchange.resolve, hnone]

section OneStep

variable (hsound : Sound first) (hawaits : first.Awaits key id target past)
  (hheld : first.holds target = true)
include hsound hawaits hheld

private theorem proceeds_event {place : ChannelId} {event : StreamEvent}
    (hstep : Brings first (.event place event) second) :
    Proceeds second key id target past (.event place event) := by
  obtain ⟨exchange, hexchange, -, hnone, -, hcarried⟩ := hawaits.waits hsound hheld
  obtain ⟨channel, hchannel, hslot, hhead, hbody⟩ := hawaits.channel
  by_cases hplace : place = id
  · subst hplace
    have hdecision : (Happening.event place event).decision? key place target past =
        event.verdict? past := if_pos rfl
    rcases event_of_carried hexchange hnone hchannel hcarried hhead hbody hstep with
      ⟨outcome, hverdict, houtcome⟩ | ⟨hverdict, rfl, hhead', hbody'⟩
    · exact proceeds_of_decision (hdecision.trans hverdict) houtcome
    · refine ⟨fun hsome => by simp [hdecision, hverdict] at hsome, fun _ => ⟨?_, ?_⟩⟩
      · exact (spares_absorb first place event).ends.registered_after hawaits.registered not_false
      · refine ⟨channel.absorb event, ?_, ?_, ?_, ?_⟩
        · rw [channel?_modifyChannel, if_pos rfl, hchannel, Option.map_some]
        · exact (channel.absorb_frame event).2.2.2.1.trans hslot
        · simpa [Happening.heard?] using hhead'
        · simpa [Happening.heard?] using hbody'
  · -- Other channels may do what they like.
    refine proceeds_of_awaits (if_neg hplace) (if_neg hplace) ?_
    cases hstep with
    | unheard => exact hawaits
    | absorbed =>
        refine hawaits.of_ends (spares_absorb first place event).ends not_false ?_
        rw [channel?_modifyChannel, if_neg (Ne.symm hplace)]
    | reported _ _ hstops hends =>
        refine hawaits.of_ends hends (Ne.symm hplace) ?_
        rw [hstops.channel?, if_neg (Ne.symm hplace)]

private theorem proceeds_aborted {other : ExchangeId} {error : ExchangeError}
    (hstep : Brings first (.aborted other error) second) :
    Proceeds second key id target past (.aborted other error) := by
  obtain ⟨exchange, hexchange, hkept, hnone, hbinding, hcarried⟩ := hawaits.waits hsound hheld
  by_cases hother : other = target
  · subst hother
    exact proceeds_of_decision (if_pos rfl) (outcome_of_aborted hexchange hnone hbinding hstep)
  · refine proceeds_of_awaits (if_neg hother) rfl ?_
    cases hstep with
    | decided => exact hawaits
    | withdrawn _ _ _ hends => exact hawaits.of_ends hends not_false rfl
    | @cancelled _ _ found place _ hfound hthere hunresolved hbound hstops hends =>
        -- The channel of another exchange is another channel.
        have hne : id ≠ place := by
          rintro rfl
          obtain ⟨channel, hchannel, hslot, -⟩ := hawaits.channel
          obtain ⟨same, hsame, hcarries⟩ := hsound.coherent.bound hfound hbound
          obtain rfl := Option.some.inj (hchannel.symm.trans hsame)
          have hnames := hcarries ⟨key, hawaits.registered⟩
          exact hother (Option.some.inj (hnames.symm.trans hslot))
        refine hawaits.of_ends hends hne ?_
        rw [hstops.channel?, if_neg hne]

private theorem proceeds_closed {other : ConnectionKey} {reason : CloseReason}
    (hstep : Brings first (.closed other reason) second) :
    Proceeds second key id target past (.closed other reason) := by
  obtain ⟨exchange, hexchange, hkept, hnone, hbinding, hcarried⟩ := hawaits.waits hsound hheld
  obtain ⟨listing, hlisting, hlive⟩ := hawaits.registered
  cases hstep with
  | closed hconnection _ hcloses =>
      by_cases hother : other = key
      · subst hother
        obtain rfl := Option.some.inj (hlisting.symm.trans hconnection)
        have hmem : target ∈ first.liveExchanges listing :=
          List.mem_filterMap.mpr ⟨id, hlive, hcarried⟩
        exact proceeds_of_decision (if_pos rfl) (hcloses.outcome_after hexchange hnone hmem)
      · refine proceeds_of_awaits (if_neg hother) rfl ?_
        have hnot : ∀ closed, first.connection? other = some closed → id ∉ closed.live :=
          fun closed hclosed hmem => hother
            (hsound.coherent.listed_once ⟨closed, hclosed, hmem⟩ ⟨listing, hlisting, hlive⟩)
        refine hawaits.of_ends (hcloses.ends hsound.coherent hconnection) (hnot _ hconnection) ?_
        rw [hcloses.channel?, if_neg (hnot _ hconnection)]

omit hheld in
private theorem proceeds_sent {other : ConnectionKey} {sent : ExchangeId}
    (hstep : Brings first (.sent other sent) second) :
    Proceeds second key id target past (.sent other sent) := by
  refine proceeds_of_awaits rfl rfl ?_
  obtain ⟨channel, hchannel, -⟩ := hawaits.channel
  cases hstep with
  | undispatched _ hundispatched =>
      refine hawaits.of_ends hundispatched.spares.ends not_false ?_
      rw [hundispatched.channel_after hchannel, hchannel]
  | dispatched _ hconnection hexchange hkept hdispatched =>
      have hcarries := hdispatched.carries hconnection hexchange hsound.coherent hkept
      refine hawaits.of_same (hcarries.kept hawaits.registered) (hcarries.channel? id ?_)
      exact hsound.coherent.ne_nextChannel hawaits.registered

omit hheld in
private theorem proceeds_sentOn {place : ChannelId} {sent : ExchangeId}
    (hstep : Brings first (.sentOn place sent) second) :
    Proceeds second key id target past (.sentOn place sent) := by
  refine proceeds_of_awaits rfl rfl ?_
  have hne : ∀ {channel}, first.channel? place = some channel → channel.isHeld = true →
      id ≠ place := by
    rintro channel hchannel hfree rfl
    simp [hawaits.not_held hsound hchannel] at hfree
  cases hstep with
  | unsent => exact hawaits
  | givenUp hchannel hfree hexchange hidle hhandles =>
      refine hawaits.of_ends (hhandles.spares hsound.coherent hchannel hfree hexchange hidle).ends
        not_false ?_
      rw [hhandles.channel?, if_neg (hne hchannel hfree)]
  | sentOn hchannel hfree hexchange hkept hunresolved hidle _ hhandles =>
      have hcarries := hhandles.carries hsound.coherent hchannel hfree hexchange hkept hunresolved
        hidle
      exact hawaits.of_same (hcarries.kept hawaits.registered)
        (hcarries.channel? id (hne hchannel hfree))

/-- One operation decides, or the wait goes on. -/
theorem proceeds_undergo (operation : Operation) :
    Proceeds (first.undergo operation) key id target past (first.happening operation) := by
  by_cases hnothing : first.happening operation = .nothing
  · have hcalm := Calm.undergo hnothing
    obtain ⟨channel, hchannel, -⟩ := hawaits.channel
    obtain ⟨after, hafter, rfl⟩ := (hcalm.channel id).exists_after hchannel
    rw [hnothing]
    exact proceeds_of_awaits rfl rfl (hawaits.of_ends hcalm.ends not_false
      (hafter.trans hchannel.symm))
  · have hstep := brings_undergo hsound hnothing
    cases hhappening : first.happening operation with
    | nothing => exact absurd hhappening hnothing
    | event place event => exact proceeds_event hsound hawaits hheld (hhappening ▸ hstep)
    | sent other sent => exact proceeds_sent hsound hawaits (hhappening ▸ hstep)
    | sentOn place sent => exact proceeds_sentOn hsound hawaits (hhappening ▸ hstep)
    | aborted other error => exact proceeds_aborted hsound hawaits hheld (hhappening ▸ hstep)
    | closed other reason => exact proceeds_closed hsound hawaits hheld (hhappening ▸ hstep)

end OneStep

/-! ## Whole runs -/

/-- What is awaited gets the outcome that the first happening decides that can. -/
theorem Awaits.outcome_run (hsound : Sound network) (hawaits : network.Awaits key id target past)
    (operations : List Operation) (hheld : (network.run operations).holds target = true) :
    (network.run operations).outcome? target =
      firstDecision? key id target past (network.happenings operations) := by
  induction operations generalizing network past with
  | nil =>
      obtain ⟨exchange, hexchange, -, hnone, -⟩ := hawaits.waits hsound hheld
      rw [run_nil, outcome?, hexchange, Option.bind_some, hnone]
      rfl
  | cons operation rest ih =>
      have hthere : (network.exchange? target).isSome = true := hawaits.isSome hsound
      -- Handles are only let go, so who holds the exchange at the end holds it now.
      have hthen : network.holds target = true :=
        (later_run hsound (operation :: rest)).holds_before hthere hheld
      have hnext : Sound (network.undergo operation) := hsound.undergo operation
      have hproceeds := proceeds_undergo hsound hawaits hthen operation
      rw [run_cons, happenings, firstDecision?]
      -- Once the outcome is there it stays; until then the wait goes on.
      split
      next outcome hdecision =>
        exact (later_run hnext rest).outcome_after (hproceeds.decided hdecision)
      next hdecision => exact ih hnext (hproceeds.undecided hdecision) hheld

/-- Once a send accepted an exchange, the first happening that can decide its outcome
decides it.  Before there is none, and afterwards it stays as it is, and whoever tries to
settle the exchange again learns that it was settled before. -/
theorem outcome_of_accepted (surroundings : α) (before after : List Operation)
    (key : ConnectionKey) (target : ExchangeId) :
    let network := (blank surroundings).run before
    let dispatched := network.undergo (.send key target)
    let final := dispatched.run after
    let decided := firstDecision? key network.nextChannel target [] (dispatched.happenings after)
    (network.send quiet key target).2 = .ok () → final.holds target = true →
      final.outcome? target = decided ∧
        (decided.isSome = true →
          (∀ later, (final.run later).outcome? target = decided) ∧
          (∀ outcome, final.resolve target outcome = (final, false)) ∧
          ∀ error, final.abort quiet target error = (final, false)) := by
  intro network dispatched final decided haccepted hheld
  have hsound : Sound network := (sound_blank surroundings).run before
  have hdispatched : Sound dispatched := hsound.undergo _
  have hfinal : Sound final := hdispatched.run after
  have hlater : Later network final :=
    (later_undergo hsound _).trans (later_run hdispatched after)
  have hthen : network.holds target = true :=
    hlater.holds_before (exists_of_accepted haccepted) hheld
  obtain ⟨connection, exchange, stream, -, -, -, hsent⟩ :=
    dispatched_of_accepted hsound hthen haccepted
  have houtcome : final.outcome? target = decided :=
    hsent.awaits.outcome_run hdispatched after hheld
  refine ⟨houtcome, fun hdecided => ?_⟩
  obtain ⟨outcome, hsome⟩ := Option.isSome_iff_exists.mp hdecided
  have hresolved : final.isResolved target = true :=
    isResolved_of_outcome (houtcome.trans hsome)
  refine ⟨fun later => ?_, resolve_of_isResolved hresolved, abort_of_isResolved hresolved⟩
  rw [hsome]
  exact (later_run hfinal later).outcome_after (houtcome.trans hsome)

/-- A response in two pieces, and an abort that comes too late. -/
theorem outcome_of_response :
    let head : Http.ResponseHead := ⟨200, ⟨[]⟩⟩
    let dispatched := ((blank ()).run firstSteps).undergo (.send ⟨1⟩ ⟨1⟩)
    let final := dispatched.run
      [.hears (.channel ⟨1⟩) (.response head), .hears (.channel ⟨1⟩) (.data [1] false),
        .hears (.channel ⟨1⟩) (.data [2] true), .abort ⟨1⟩ (.cancelled "too late")]
    final.outcome? ⟨1⟩ = some (.ok ⟨head, [1, 2]⟩) := by
  intro head dispatched final
  have haccepted : (((blank ()).run firstSteps).send quiet ⟨1⟩ ⟨1⟩).2 = .ok () := rfl
  have hheld : final.holds ⟨1⟩ = true := by decide
  exact (outcome_of_accepted () firstSteps _ ⟨1⟩ ⟨1⟩ haccepted hheld).1

end Network

end Multiplex
