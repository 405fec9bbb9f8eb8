import Multiplex.Proofs.Loopback.Ownership

/-!
# What a session bears

Every operation that respects a session does to it what it does to the connection over it:
nothing to both, or it ends a channel with its stream, or it closes both, or it registers a
channel and opens its stream.

Operations that come to nothing were dealt with before.  Of the others each concerns one
channel or one connection, and what remains is to see whether this is one of the session.
-/

namespace Multiplex.Network

variable {α : Type} {network first second : Network α} {id : ChannelId} {key : ConnectionKey}
  {connection : Connection} {place : SessionKey} {stream : StreamId} {operation : Operation}
  {channel : Channel} {target : ExchangeId} {exchange : Exchange}

/-- A step in which all connections there are were there before, over the same sessions. -/
theorem bears_of_kept (hlater : Later first second)
    (hchannel : ∀ {id after}, first.channel? id = none → second.channel? id = some after →
      after.isHeld = false)
    (hconnection : ∀ {key after}, second.connection? key = some after →
      ∃ before, first.connection? key = some before ∧ after.session = before.session)
    (hunborn : second.session? place = none →
      second.streamsOpened place = first.streamsOpened place)
    (hstays : ∀ before, first.loopback? place = some before →
      (second.loopback? place).isSome = true)
    (haffects : ∀ after, second.loopback? place = some after → Affects first second place after) :
    Bears first second place where
  later := hlater
  channel hnone hafter _ := hchannel hnone hafter
  connection hafter hover := by
    obtain ⟨before, hbefore, hsession⟩ := hconnection hafter
    exact .inl ⟨before, hbefore, hsession.symm.trans hover⟩
  unborn := hunborn
  stays := hstays
  affects := haffects

theorem bears_of_elsewhere (hlater : Later first second)
    (hchannel : ∀ {id after}, first.channel? id = none → second.channel? id = some after →
      after.isHeld = false)
    (hconnection : ∀ {key after}, second.connection? key = some after →
      ∃ before, first.connection? key = some before ∧ after.session = before.session ∧
        (after.session = place → after.live = before.live ∧ after.isClosed = before.isClosed))
    (hloopback : second.loopback? place = first.loopback? place)
    (hopened : second.streamsOpened place = first.streamsOpened place) :
    Bears first second place := by
  refine bears_of_kept hlater hchannel (fun hafter => ?_) (fun _ => hopened)
    (fun before hbefore => by rw [hloopback, hbefore]; rfl) fun after hafter => ?_
  · obtain ⟨before, hbefore, hsession, -⟩ := hconnection hafter
    exact ⟨before, hbefore, hsession⟩
  · refine .leaves (hloopback.symm.trans hafter) (.refl after)
      (fun key connection hthere hover => ?_) hopened
    obtain ⟨before, hbefore, hsession, hsame⟩ := hconnection hthere
    obtain ⟨hlive, hstatus⟩ := hsame hover
    exact .inl ⟨before, hbefore, hsession.symm.trans hover, hlive, hstatus⟩

theorem bears_refl (network : Network α) (place : SessionKey) : Bears network network place :=
  bears_of_elsewhere (.refl network) (fun hnone hafter => absurd hafter (by simp [hnone]))
    (fun {key after} hafter => ⟨after, hafter, rfl, fun _ => ⟨rfl, rfl⟩⟩) rfl rfl

section Ended

variable (hlater : Later first second)
  (hchannel : ∀ other, first.channel? other = none → second.channel? other = none)
  (hconnection : ∀ key, second.connection? key =
    (first.connection? key).map fun found => found.drop id)
  (hopened : second.streamsOpened place = first.streamsOpened place)
include hlater hchannel hconnection hopened

theorem bears_of_ended_elsewhere
    (hlive : ∀ key connection, first.connection? key = some connection →
      connection.session = place → id ∉ connection.live)
    (hloopback : second.loopback? place = first.loopback? place) : Bears first second place := by
  refine bears_of_elsewhere hlater (fun hnone hafter => absurd hafter (by simp [hchannel _ hnone]))
    (fun {key after} hafter => ?_) hloopback hopened
  rw [hconnection key] at hafter
  obtain ⟨before, hbefore, rfl⟩ := Option.map_eq_some_iff.mp hafter
  refine ⟨before, hbefore, rfl, fun hover => ?_⟩
  rw [Connection.drop_of_notMem (hlive key before hbefore hover)]
  exact ⟨rfl, rfl⟩

theorem bears_of_ended (hthere : first.connection? key = some connection)
    (hover : connection.session = place) (hlive : id ∈ connection.live)
    (hstream : first.stream? id = some stream)
    (hloopback : Evolves (fun before after => (before.drop stream).Alike after) (fun _ => False)
      (first.loopback? place) (second.loopback? place)) : Bears first second place := by
  refine bears_of_kept hlater (fun hnone hafter => absurd hafter (by simp [hchannel _ hnone]))
    (fun {key after} hafter => ?_) (fun _ => hopened) (fun before hbefore => ?_)
    fun after hafter => ?_
  · rw [hconnection key] at hafter
    obtain ⟨before, hbefore, rfl⟩ := Option.map_eq_some_iff.mp hafter
    exact ⟨before, hbefore, rfl⟩
  · obtain ⟨after, hafter, -⟩ := hloopback.exists_after hbefore
    rw [hafter]
    rfl
  · cases hbefore : first.loopback? place with
    | none => exact (hloopback.fresh_of_none hbefore hafter).elim
    | some before =>
        exact .ends hbefore (hloopback.change_of_some hbefore hafter) hthere hover hlive hstream
          hconnection hopened

end Ended

theorem Stops.channel_none {change : ExchangeId → Exchange → Exchange} {mark : Channel → Channel}
    (hstops : Stops first second id change mark) {other : ChannelId}
    (hnone : first.channel? other = none) : second.channel? other = none := by
  rw [hstops.channel?, hnone]
  split <;> rfl

theorem streamsOpened_of_parting {code : Option ErrorCode}
    (htrace : second.trace.toList = first.trace.toList ++ first.partingNotices id code)
    (place : SessionKey) : second.streamsOpened place = first.streamsOpened place := by
  refine streamsOpened_of_notices htrace fun notice hmem => ?_
  rcases mem_partingNotices hmem with ⟨session, stream, found, rfl⟩ | ⟨key, rfl, -⟩
  · rfl
  · rfl

theorem Dispatched.unheld_new
    (hdispatched : Dispatched first second key connection target exchange stream)
    {after : Channel} (hnone : first.channel? id = none)
    (hafter : second.channel? id = some after) : after.isHeld = false := by
  rw [hdispatched.channel?] at hafter
  split at hafter
  next =>
    obtain rfl := Option.some.inj hafter
    rfl
  next => exact absurd hafter (by simp [hnone])

/-- A dispatch makes no connection, and changes one. -/
theorem Dispatched.connection_before
    (hdispatched : Dispatched first second key connection target exchange stream)
    (hconnection : first.connection? key = some connection) {other : ConnectionKey}
    {after : Connection} (hafter : second.connection? other = some after) :
    ∃ before, first.connection? other = some before ∧ after.session = before.session ∧
      (other ≠ key → after = before) := by
  rw [hdispatched.connection?] at hafter
  split at hafter
  next heq =>
    obtain rfl := Option.some.inj hafter
    exact ⟨connection, heq ▸ hconnection, rfl, fun hne => absurd heq hne⟩
  next => exact ⟨after, hafter, rfl, fun _ => rfl⟩

section Happenings

variable (hsound : Sound network)
include hsound

/-- A channel that a connection lists is a channel of its session. -/
theorem Sound.session_of_live (hconnection : network.connection? key = some connection)
    (hlive : id ∈ connection.live) (hchannel : network.channel? id = some channel) :
    channel.session = connection.session := by
  obtain ⟨found, target, exchange, hfound, hworks, -⟩ := hsound.coherent.works hconnection hlive
  obtain rfl := Option.some.inj (hchannel.symm.trans hfound)
  exact hworks.session

private theorem bears_event
    (hother : ∀ channel, network.channel? id = some channel → channel.session ≠ place)
    (event : StreamEvent) : Bears network (network.channelHears quiet id event) place := by
  have hloopback := network.loopback?_channelHears id event place
  have hstep := brings_event hsound id event
  have hlater := hstep.later hsound
  generalize network.channelHears quiet id event = second at hloopback hstep hlater
  cases hstep with
  | unheard => exact bears_refl network place
  | absorbed hchannel =>
      refine bears_of_elsewhere hlater (fun {other after} hnone hafter => ?_)
        (fun {key after} hafter => ⟨after, hafter, rfl, fun _ => ⟨rfl, rfl⟩⟩) hloopback rfl
      rw [channel?_modifyChannel, hnone] at hafter
      split at hafter <;> simp at hafter
  | reported hchannel _ hstops _ htrace =>
      refine bears_of_ended_elsewhere hlater (fun other hnone => hstops.channel_none hnone)
        hstops.connection? (streamsOpened_of_parting htrace place)
        (fun key connection hthere hover hlive => ?_) hloopback
      exact hother _ hchannel ((hsound.session_of_live hthere hlive hchannel).trans hover)

variable (hmirrored : Mirrored network place)
include hmirrored

/-- An exchange that waits on a channel of the session waits on one that the connection lists,
and that has its stream. -/
private theorem listed_of_waiting (hexchange : network.exchange? target = some exchange)
    (hkept : exchange.isHeld = true) (hunresolved : exchange.isResolved = false)
    (hbinding : exchange.binding = some id) (hchannel : network.channel? id = some channel)
    (hgoes : channel.session = place) :
    channel.released = false ∧ ∃ key connection stream, network.connection? key = some connection ∧
      connection.session = place ∧ id ∈ connection.live ∧ channel.stream = some stream := by
  obtain ⟨-, key, connection, hconnection, hlive⟩ := hsound.coherent.waiting hexchange hkept
    hunresolved hbinding hchannel (hmirrored.unheld hchannel hgoes)
  obtain ⟨same, waiting, waits, hsame, hworks, -⟩ := hsound.coherent.works hconnection hlive
  obtain rfl := Option.some.inj (hchannel.symm.trans hsame)
  obtain ⟨stream, hstream⟩ := Option.isSome_iff_exists.mp hworks.stream
  exact ⟨hworks.released, key, connection, stream, hconnection, hworks.session.symm.trans hgoes,
    hlive, hstream⟩

private theorem bears_cancelled {change : ExchangeId → Exchange → Exchange}
    (hexchange : network.exchange? target = some exchange) (hkept : exchange.isHeld = true)
    (hunresolved : exchange.isResolved = false) (hbinding : exchange.binding = some id)
    (hlater : Later network second) (hstops : Stops network second id change Channel.cancel)
    (htrace : second.trace.toList =
      network.trace.toList ++ network.partingNotices id (some .cancel))
    (hloopback : second.loopback? place = (network.loopback? place).map fun found =>
      found.lose (network.lost? id (some .cancel) place)) : Bears network second place := by
  have hopened := streamsOpened_of_parting htrace place
  have hchannels : ∀ other, network.channel? other = none → second.channel? other = none :=
    fun other hnone => hstops.channel_none hnone
  obtain ⟨channel, hchannel, -⟩ := hsound.coherent.bound hexchange hbinding
  by_cases hgoes : channel.session = place
  · obtain ⟨hreleased, key, connection, stream, hconnection, hover, hlive, hstream⟩ :=
      listed_of_waiting hsound hmirrored hexchange hkept hunresolved hbinding hchannel hgoes
    have hlost : network.lost? id (some .cancel) place = some stream := by
      simp [lost?, hchannel, hreleased, hgoes, hstream]
    have hgiven : network.stream? id = some stream := by simp [stream?, hchannel, hstream]
    refine bears_of_ended hlater hchannels hstops.connection? hopened hconnection hover hlive
      hgiven ?_
    rw [hloopback, hlost]
    cases hbefore : network.loopback? place with
    | none => exact .none
    | some before =>
        -- A reset spares streams with even numbers, but there are none.
        have hdropped := (hmirrored.ordered hbefore).reset_eq_drop stream
        exact .old (hdropped ▸ .refl (before.reset stream))
  · have hlost : network.lost? id (some .cancel) place = none := by
      simp [lost?, hchannel, hgoes]
    refine bears_of_ended_elsewhere hlater hchannels hstops.connection? hopened
      (fun key connection hconnection hover hlive => ?_) ?_
    · exact hgoes ((hsound.session_of_live hconnection hlive hchannel).trans hover)
    · rw [hloopback, hlost]
      exact Option.map_id'

private theorem bears_aborted (hheld : network.holds target = true) (error : ExchangeError) :
    Bears network (network.abort quiet target error).1 place := by
  have hstep := brings_abort hsound hheld error
  have hlater := hstep.later hsound
  obtain ⟨exchange, hexchange, hkept⟩ := holds_iff.mp hheld
  cases hresolved : exchange.isResolved with
  | true =>
      have hdecided : network.isResolved target = true := by simp [isResolved, hexchange, hresolved]
      rw [abort_of_isResolved hdecided]
      exact bears_refl network place
  | false =>
  cases hbinding : exchange.binding with
  | none =>
      rw [abort_of_unresolved hexchange hresolved] at hlater ⊢
      simp only [hbinding] at hlater ⊢
      exact bears_of_elsewhere hlater
        (fun {other after} hnone hafter => absurd (hafter : network.channel? other = some after)
          (by simp [hnone]))
        (fun {key after} hafter => ⟨after, hafter, rfl, fun _ => ⟨rfl, rfl⟩⟩) rfl rfl
  | some id =>
      have halive := hsound.isChannelAlive hexchange hkept hresolved hbinding
      have hloopback := loopback?_abort hexchange hresolved hbinding halive error place
      generalize (network.abort quiet target error).1 = second at hloopback hstep hlater
      cases hstep with
      | decided hdecided => simp [isResolved, hexchange, hresolved] at hdecided
      | withdrawn hsame _ hnone =>
          obtain rfl := Option.some.inj (hexchange.symm.trans hsame)
          simp [hbinding] at hnone
      | cancelled hsame _ _ hbound hstops _ htrace =>
          obtain rfl := Option.some.inj (hexchange.symm.trans hsame)
          obtain rfl := Option.some.inj (hbinding.symm.trans hbound)
          exact bears_cancelled hsound hmirrored hexchange hkept hresolved hbinding hlater hstops
            htrace hloopback

private theorem bears_closed (hopen : network.isOpen key = true) (reason : CloseReason) :
    Bears network (network.close quiet key reason).1 place := by
  obtain ⟨connection, hconnection, hopen⟩ := isOpen_iff.mp hopen
  have hloopback := loopback?_close hsound hconnection
    (fun _ hfound hover => (hmirrored.ordered hfound).clean hover) hopen reason
  obtain ⟨second, heq, hcloses⟩ :=
    closes_of_open hsound.coherent hsound.housed hconnection hopen reason
  rw [heq] at hloopback ⊢
  have hlater := hcloses.later hconnection
  have hopened : second.streamsOpened place = network.streamsOpened place := by
    obtain ⟨fresh, htrace⟩ := hcloses.trace
    refine streamsOpened_of_notices htrace fun notice hmem => ?_
    rcases List.mem_append.mp hmem with hremoved | hrest
    · split at hremoved
      · simp at hremoved
      · rw [List.mem_singleton.mp hremoved]
        rfl
    · rcases List.mem_cons.mp hrest with rfl | hcut
      · rfl
      · obtain ⟨id, -, hnotice⟩ := List.mem_flatMap.mp hcut
        obtain ⟨session, stream, rfl⟩ := mem_cutNotices hnotice
        rfl
  have hchannel : ∀ {id after}, network.channel? id = none → second.channel? id = some after →
      after.isHeld = false := by
    intro id after hnone hafter
    rw [hcloses.channel?, hnone] at hafter
    split at hafter <;> simp at hafter
  by_cases hgoes : connection.session = place
  · refine bears_of_kept hlater hchannel (fun {other after} hafter => ?_) (fun _ => hopened)
      (fun before hbefore => by rw [hloopback, if_pos hgoes.symm, hbefore]; rfl)
      fun after hafter => ?_
    · rw [hcloses.connection? other] at hafter
      split at hafter
      next heq =>
        obtain rfl := Option.some.inj hafter
        exact ⟨connection, heq ▸ hconnection, rfl⟩
      next => exact ⟨after, hafter, rfl⟩
    · rw [hloopback, if_pos hgoes.symm] at hafter
      obtain ⟨before, hbefore, rfl⟩ := Option.map_eq_some_iff.mp hafter
      exact .closes hbefore rfl hconnection hgoes hcloses.connection? hopened
  · refine bears_of_elsewhere hlater hchannel (fun {other after} hafter => ?_) ?_ hopened
    · rw [hcloses.connection? other] at hafter
      split at hafter
      next heq =>
        obtain rfl := Option.some.inj hafter
        exact ⟨connection, heq ▸ hconnection, rfl, fun hover => absurd hover hgoes⟩
      next => exact ⟨after, hafter, rfl, fun _ => ⟨rfl, rfl⟩⟩
    · exact hloopback.trans (if_neg fun heq => hgoes heq.symm)

omit hmirrored in
private theorem bears_dispatched (hconnection : network.connection? key = some connection)
    (hexchange : network.exchange? target = some exchange)
    (haccepted : (network.send quiet key target).2 = .ok ())
    (hlater : Later network (network.send quiet key target).1)
    (hdispatched : Dispatched network (network.send quiet key target).1 key connection target
      exchange stream) :
    Bears network (network.send quiet key target).1 place := by
  by_cases hgoes : connection.session = place
  · have hborn : (network.send quiet key target).1.session? place ≠ none := by
      obtain ⟨session, hsession, -⟩ := hsound.housed.session hconnection
      obtain ⟨after, hafter, -⟩ := hlater.session hsession
      simp [← hgoes, hafter]
    refine bears_of_kept hlater (fun hnone hafter => hdispatched.unheld_new hnone hafter)
      (fun hafter => ?_) (fun hnone => absurd hnone hborn) (fun before hbefore => ?_)
      fun after hafter => ?_
    · obtain ⟨before, hbefore, hsession, -⟩ := hdispatched.connection_before hconnection hafter
      exact ⟨before, hbefore, hsession⟩
    · obtain ⟨-, -, hafter, -⟩ := send_of_ok hconnection hexchange (hgoes ▸ hbefore) haccepted
      rw [← hgoes, hafter]
      rfl
    · cases hbefore : network.loopback? place with
      | none =>
          rw [loopback?_send_elsewhere hconnection (fun _ => hbefore), hbefore] at hafter
          exact absurd hafter (by simp)
      | some before =>
          obtain ⟨given, hopened, hthere, hstream⟩ :=
            send_of_ok hconnection hexchange (hgoes ▸ hbefore) haccepted
          obtain rfl :=
            Option.some.inj ((hgoes ▸ hthere : Network.loopback? _ place = _).symm.trans hafter)
          refine .opens hbefore (LoopbackSession.opened_of_openStream hopened) hconnection hgoes
            hstream hdispatched.connection? ?_
          simp [streamsOpened, hdispatched.trace, Notice.opensStream, hgoes]
  · refine bears_of_elsewhere hlater (fun hnone hafter => hdispatched.unheld_new hnone hafter)
      (fun {other after} hafter => ?_)
      (loopback?_send_elsewhere hconnection (fun heq => absurd heq.symm hgoes) target)
      (streamsOpened_of_notices hdispatched.trace fun notice hmem => ?_)
    · obtain ⟨before, hbefore, hsession, hsame⟩ := hdispatched.connection_before hconnection hafter
      refine ⟨before, hbefore, hsession, fun hover => ?_⟩
      have hne : other ≠ key := by
        rintro rfl
        obtain rfl := Option.some.inj (hbefore.symm.trans hconnection)
        exact hgoes (hsession.symm.trans hover)
      rw [hsame hne]
      exact ⟨rfl, rfl⟩
    · obtain rfl := List.mem_singleton.mp hmem
      simpa [Notice.opensStream] using hgoes

omit hmirrored in
private theorem bears_sent (hheld : network.holds target = true) (key : ConnectionKey) :
    Bears network (network.send quiet key target).1 place := by
  have hstep := brings_send hsound hheld key
  have hlater := hstep.later hsound
  generalize hsecond : (network.send quiet key target).1 = second at hstep hlater
  cases hstep with
  | undispatched hfailed hundispatched =>
      obtain ⟨error, hfailed⟩ := hfailed
      have hloopback := loopback?_send_of_error hfailed place
      rw [hsecond] at hloopback
      refine bears_of_elsewhere hlater (fun {id after} hnone hafter => ?_)
        (fun {key after} hafter => ?_) hloopback ?_
      · rcases hundispatched.channel id with hsame | ⟨-, found, hfound, hhandles, -⟩
        · exact absurd hafter (by simp [hsame, hnone])
        · obtain rfl := Option.some.inj (hafter.symm.trans hfound)
          simp [Channel.isHeld, hhandles]
      · rw [hundispatched.connection?] at hafter
        exact ⟨after, hafter, rfl, fun _ => ⟨rfl, rfl⟩⟩
      · simp only [streamsOpened, hundispatched.trace]
  | dispatched haccepted hconnection hexchange _ hdispatched =>
      rw [← hsecond] at hlater hdispatched ⊢
      exact bears_dispatched hsound hconnection hexchange haccepted hlater hdispatched

private theorem bears_sentOn (hchannel : network.channel? id = some channel)
    (hfree : channel.isHeld = true) (hheld : network.holds target = true) :
    Bears network (network.sendOnChannel quiet id target).1 place := by
  have hne : channel.session ≠ place := fun hover => by
    simp [hmirrored.unheld hchannel hover] at hfree
  have hloopback := loopback?_sendOnChannel_elsewhere hchannel
    (fun heq => absurd heq.symm hne : place = channel.session → network.loopback? place = none)
    target
  have hstep := brings_sendOn hchannel hfree hheld
  have hlater := hstep.later hsound
  generalize (network.sendOnChannel quiet id target).1 = second at hloopback hstep hlater
  have hhandled : ∀ {change binding}, Handles network second id target change binding →
      second.streamsOpened place = network.streamsOpened place → Bears network second place := by
    intro change binding hhandles hopened
    refine bears_of_elsewhere hlater (fun {other after} hnone hafter => ?_)
      (fun {key after} hafter => ?_) hloopback hopened
    · rw [hhandles.channel?, hnone] at hafter
      split at hafter <;> simp at hafter
    · rw [hhandles.connection?] at hafter
      exact ⟨after, hafter, rfl, fun _ => ⟨rfl, rfl⟩⟩
  cases hstep with
  | unsent => exact bears_refl network place
  | givenUp _ _ _ _ hhandles htrace =>
      exact hhandled hhandles (by simp only [streamsOpened, htrace])
  | sentOn hsame _ _ _ _ _ _ hhandles htrace =>
      obtain rfl := Option.some.inj (hchannel.symm.trans hsame)
      obtain ⟨resets, htrace, honly⟩ := htrace
      refine hhandled hhandles (streamsOpened_of_notices htrace fun notice hmem => ?_)
      rcases List.mem_cons.mp hmem with rfl | hreset
      · simpa [Notice.opensStream] using hne
      · rw [honly notice hreset]
        rfl

/-! ## Any operation -/

/-- A session bears every operation that respects it. -/
theorem bears_undergo (hrespects : network.Respects place operation) :
    Bears network (network.undergo operation) place := by
  by_cases hnothing : network.happening operation = .nothing
  · exact bears_of_nothing hsound.housed hnothing hrespects
  have hoccurs := occurs_happening hnothing
  rw [undergo_eq_bring hnothing]
  generalize network.happening operation = happening at hoccurs ⊢
  cases hoccurs with
  | event id event => exact bears_event hsound hrespects event
  | sent key hheld => exact bears_sent hsound hheld key
  | sentOn hchannel hfree hheld => exact bears_sentOn hsound hmirrored hchannel hfree hheld
  | aborted error hheld => exact bears_aborted hsound hmirrored hheld error
  | closed reason _ hopen => exact bears_closed hsound hmirrored hopen reason

end Happenings

end Multiplex.Network
