import Multiplex.Proofs.Network.Coherence

/-!
# What closing does

A close aborts one exchange after the other.  Between two of them the connection lists
nothing any more, so no abort disturbs another: each settles its own exchange and
retires its own channel.  `Torn` says how far this has come, and `Closes` what a close
as a whole does.
-/

namespace Multiplex

/-- A channel with one handle more. -/
def Channel.hold (channel : Channel) : Channel := { channel with handles := channel.handles + 1 }

/-- A channel with one handle less. -/
def Channel.leave (channel : Channel) : Channel := { channel with handles := channel.handles - 1 }

/-- A channel that was cut off, if its exchange was still there to be aborted. -/
def Channel.cut (aborted : Bool) (channel : Channel) : Channel :=
  if aborted then channel.cancel.retire else channel

private theorem Channel.ages_cut (aborted : Bool) (channel : Channel) :
    channel.Ages (channel.cut aborted) := by
  cases aborted with
  | false => exact .refl channel
  | true => exact channel.ages_cancel.trans channel.cancel.ages_retire

private theorem Channel.exchange_cut (aborted : Bool) (channel : Channel) :
    (channel.cut aborted).exchange = channel.exchange ∨ (channel.cut aborted).exchange = none := by
  cases aborted with
  | false => exact .inl rfl
  | true => exact channel.cancel.exchange_retire

/-- A handle more in between makes no difference to a channel that is cut off. -/
@[simp] theorem Channel.leave_cut_hold (aborted : Bool) (channel : Channel) :
    (channel.hold.cut aborted).leave = channel.cut aborted := by
  cases aborted with
  | false => rfl
  | true =>
      cases hreleased : channel.released with
      | false => simp [cut, hold, leave, cancel, retire, hreleased]
      | true => simp [cut, hold, leave, cancel, retire, hreleased]

namespace Network

variable {α : Type} {network first second : Network α} {reason : CloseReason}
  {done order : List ChannelId} {id : ChannelId}

/-! ## What sessions notice -/

theorem resetNotices_congr
    (hthere : ∀ place, (second.session? place).isSome = (first.session? place).isSome)
    (channel : Channel) (code : Option ErrorCode) :
    second.resetNotices channel code = first.resetNotices channel code := by
  simp only [resetNotices, hthere]

/-! ## Keeping channels meanwhile -/

private theorem foldl_retainChannel_frame (network : Network α) (order : List ChannelId) :
    (order.foldl retainChannel network).exchange? = network.exchange? ∧
      (order.foldl retainChannel network).connection? = network.connection? ∧
      (order.foldl retainChannel network).session? = network.session? ∧
      (order.foldl retainChannel network).pool? = network.pool? ∧
      (order.foldl retainChannel network).trace = network.trace := by
  induction order generalizing network with
  | nil => exact ⟨rfl, rfl, rfl, rfl, rfl⟩
  | cons first order ih => exact ih (network.retainChannel first)

private theorem channel?_foldl_retainChannel (network : Network α) (hnodup : order.Nodup)
    (id : ChannelId) :
    (order.foldl retainChannel network).channel? id =
      if id ∈ order then (network.channel? id).map Channel.hold else network.channel? id := by
  induction order generalizing network with
  | nil => simp
  | cons first order ih =>
      obtain ⟨hnot, hrest⟩ := List.nodup_cons.mp hnodup
      rw [List.foldl_cons, ih _ hrest, retainChannel, channel?_modifyChannel]
      by_cases heq : id = first
      · subst heq
        simp [hnot]
        rfl
      · simp [heq]

/-! ## One exchange after the other -/

/-- What a session notices when an exchange is aborted by a close. -/
def cutNotices (network : Network α) (id : ChannelId) : List Notice :=
  match network.channel? id with
  | some channel =>
    if (network.carried? id).isSome then network.resetNotices channel (some .cancel) else []
  | none => []

/-- Several channels are about to be cut off: they are kept, nobody lists them, and what
they carry waits for its outcome. -/
structure Doomed (network : Network α) (order : List ChannelId) : Prop where
  unlisted : ∀ id ∈ order, ∀ key, ¬ network.Registered key id
  kept : ∀ id ∈ order, ∃ channel, network.channel? id = some channel ∧ channel.isHeld = true ∧
    channel.released = false
  waits : ∀ id ∈ order, ∀ target, network.carried? id = some target →
    ∃ exchange, network.exchange? target = some exchange ∧ exchange.isResolved = false ∧
      exchange.binding = some id

/-- In the second network some of the channels have been cut off and let go. -/
structure Torn (first second : Network α) (reason : CloseReason) (done : List ChannelId) :
    Prop where
  exchange? : ∀ target, second.exchange? target =
    if target ∈ done.filterMap first.carried? then
      (first.exchange? target).map fun found => found.settle (.error (.aborted reason))
    else first.exchange? target
  channel? : ∀ id, second.channel? id =
    if id ∈ done then
      (first.channel? id).map fun found => (found.cut (first.carried? id).isSome).leave
    else first.channel? id
  connection? : second.connection? = first.connection?
  session : ∀ key, (second.session? key).map Session.outline =
    (first.session? key).map Session.outline
  pool : ∀ key, (second.pool? key).map Pool.outline = (first.pool? key).map Pool.outline
  trace : second.trace.toList = first.trace.toList ++ done.flatMap first.cutNotices

theorem torn_nil (network : Network α) (reason : CloseReason) : Torn network network reason [] where
  exchange? _ := by simp
  channel? _ := by simp
  connection? := rfl
  session _ := rfl
  pool _ := rfl
  trace := by simp

namespace Torn

/-- What the remaining channels carry has not changed. -/
theorem carried?_eq (htorn : Torn first second reason done) (hnot : id ∉ done) :
    second.carried? id = first.carried? id := by
  refine carried?_congr ?_ fun target => ?_
  · rw [htorn.channel?, if_neg hnot]
  · rw [htorn.exchange?]
    split
    · cases first.exchange? target <;> rfl
    · rfl

/-- The exchange of a remaining channel still waits. -/
theorem waits (htorn : Torn first second reason done) (hdoomed : Doomed first order)
    (hsub : ∀ other ∈ done, other ∈ order) (hmem : id ∈ order) (hnot : id ∉ done)
    {target : ExchangeId} (hcarried : first.carried? id = some target) :
    second.exchange? target = first.exchange? target := by
  obtain ⟨exchange, hexchange, -, hbinding⟩ := hdoomed.waits id hmem target hcarried
  rw [htorn.exchange?, if_neg]
  intro hdone
  obtain ⟨other, hother, hsame⟩ := List.mem_filterMap.mp hdone
  -- Two channels cannot carry the exchange, for it is bound to one.
  obtain ⟨found, hfound, -, hbound⟩ := hdoomed.waits other (hsub other hother) target hsame
  obtain rfl := Option.some.inj (hexchange.symm.trans hfound)
  obtain rfl := Option.some.inj (hbinding.symm.trans hbound)
  exact hnot hother

section Steps

variable (htorn : Torn first second reason done) (hdoomed : Doomed first order)
  (hsub : ∀ other ∈ done, other ∈ order) (hmem : id ∈ order) (hnot : id ∉ done)
include htorn hdoomed hmem hnot

omit hdoomed hmem in
private theorem step_forgotten {channel : Channel} (hchannel : first.channel? id = some channel)
    (hcarried : first.carried? id = none) :
    Torn first (second.letGoChannel id) reason (done ++ [id]) where
  exchange? other := by
    simp only [letGoChannel, modifyChannel_frame, htorn.exchange?, List.filterMap_append,
      List.mem_append]
    simp [hcarried]
  channel? other := by
    simp only [letGoChannel, channel?_modifyChannel, htorn.channel?, List.mem_append,
      List.mem_singleton]
    by_cases heq : other = id
    · subst heq
      simp [hnot, hchannel, hcarried, Channel.cut, Channel.leave]
    · simp [heq]
  connection? := htorn.connection?
  session := htorn.session
  pool := htorn.pool
  trace := by simp [letGoChannel, htorn.trace, cutNotices, hchannel, hcarried]

omit hdoomed hnot in
/-- By now no connection lists the channel any more. -/
theorem not_registered (hdoomed : Doomed first order) (key : ConnectionKey) :
    ¬ second.Registered key id := by
  rintro ⟨found, hfound, hlive⟩
  refine hdoomed.unlisted id hmem key ⟨found, ?_, hlive⟩
  rw [← htorn.connection?]
  exact hfound

include hsub

/-- The abort of an exchange comes back to cancel its channel. -/
theorem abort_eq {channel : Channel} {target : ExchangeId}
    (hchannel : first.channel? id = some channel) (hheld : channel.isHeld = true)
    (hcarried : first.carried? id = some target) :
    (second.abort quiet target (.aborted reason)).1 =
      (second.modifyExchange target fun found =>
        found.settle (.error (.aborted reason))).cancelChannel quiet id := by
  obtain ⟨exchange, hfirst, hunresolved, hbinding⟩ := hdoomed.waits id hmem target hcarried
  have hkept : second.channel? id = some channel := by
    rw [htorn.channel?, if_neg hnot, hchannel]
  have hexchange : second.exchange? target = some exchange :=
    (htorn.waits hdoomed hsub hmem hnot hcarried).trans hfirst
  have halive : second.isChannelAlive id = true := by
    simp [isChannelAlive, hkept, hheld]
  rw [abort_of_unresolved hexchange hunresolved]
  simp only [hbinding, halive, if_true]

private theorem step_aborted {channel : Channel} {target : ExchangeId}
    (hchannel : first.channel? id = some channel) (hheld : channel.isHeld = true)
    (hreleased : channel.released = false) (hcarried : first.carried? id = some target) :
    Torn first ((second.abort quiet target (.aborted reason)).1.letGoChannel id) reason
      (done ++ [id]) := by
  have hkept : second.channel? id = some channel := by
    rw [htorn.channel?, if_neg hnot, hchannel]
  have hsame := htorn.waits hdoomed hsub hmem hnot hcarried
  let settled := second.modifyExchange target fun found =>
    found.settle (.error (.aborted reason))
  have habort : (second.abort quiet target (.aborted reason)).1 =
      settled.cancelChannel quiet id :=
    htorn.abort_eq hdoomed hsub hmem hnot hchannel hheld hcarried
  have hunlisted : ∀ key, ¬ settled.Registered key id := htorn.not_registered hmem hdoomed
  have hretires : Retires (settled.modifyChannel id Channel.cancel)
      (settled.cancelChannel quiet id) id :=
    retires_cancelChannel fun key hregistered => absurd hregistered (hunlisted key)
  have hnotices : settled.resetNotices channel (some .cancel) =
      first.resetNotices channel (some .cancel) :=
    resetNotices_congr
      (fun place => (Option.isSome_map ..).symm.trans
        ((congrArg Option.isSome (htorn.session place)).trans (Option.isSome_map ..))) channel _
  have htrace : (settled.cancelChannel quiet id).trace.toList = second.trace.toList ++
      first.cutNotices id := by
    rw [trace_cancelChannel_of_unregistered hunlisted hkept hreleased, hnotices]
    simp [settled, cutNotices, hchannel, hcarried]
  rw [habort]
  exact
    { exchange? := fun other => by
        simp only [letGoChannel, modifyChannel_frame, hretires.exchange?, settled,
          exchange?_modifyExchange, List.filterMap_append, List.mem_append]
        by_cases heq : other = target
        · subst heq
          simp [hsame, hcarried]
        · simp [heq, htorn.exchange?, hcarried]
      channel? := fun other => by
        simp only [letGoChannel, channel?_modifyChannel, hretires.channel?, settled,
          modifyExchange_frame, List.mem_append, List.mem_singleton]
        by_cases heq : other = id
        · subst heq
          simp [hkept, hchannel, hcarried, Channel.cut, Channel.leave]
        · simp [heq, htorn.channel?]
      connection? := by
        funext key
        simp only [letGoChannel, modifyChannel_frame, hretires.connection?, settled,
          modifyExchange_frame, ← htorn.connection?]
        cases hfound : second.connection? key with
        | none => rfl
        | some found =>
            have hlive : id ∉ found.live := fun hlive => hunlisted key ⟨found, hfound, hlive⟩
            rw [Option.map_some, Connection.drop_of_notMem hlive]
      session := fun key => (hretires.session key).trans (htorn.session key)
      pool := fun key => (hretires.pool key).trans (htorn.pool key)
      trace := by simp [letGoChannel, htrace, htorn.trace] }

theorem step : Torn first (abortCarried quiet reason second id) reason (done ++ [id]) := by
  obtain ⟨channel, hchannel, hheld, hreleased⟩ := hdoomed.kept id hmem
  unfold abortCarried
  rw [htorn.carried?_eq hnot]
  cases hcarried : first.carried? id with
  | none => exact htorn.step_forgotten hnot hchannel hcarried
  | some target =>
      exact htorn.step_aborted hdoomed hsub hmem hnot hchannel hheld hreleased hcarried

end Steps

theorem run (hdoomed : Doomed first order) :
    ∀ (rest done : List ChannelId) (second : Network α), Torn first second reason done →
      (∀ other ∈ done ++ rest, other ∈ order) → (done ++ rest).Nodup →
      Torn first (rest.foldl (abortCarried quiet reason) second) reason (done ++ rest) := by
  intro rest
  induction rest with
  | nil =>
      intro done second htorn _ _
      simpa using htorn
  | cons id rest ih =>
      intro done second htorn hsub hnodup
      -- The list is finite and without repetition, so `id` has not had its turn yet.
      have hassoc : done ++ id :: rest = (done ++ [id]) ++ rest := by simp
      have hnot : id ∉ done := fun hmem =>
        (List.nodup_append.mp hnodup).2.2 id hmem id (List.mem_cons_self ..) rfl
      have hnext := htorn.step hdoomed (fun other hmem => hsub other (List.mem_append_left _ hmem))
        (hsub id (by simp)) hnot
      rw [hassoc] at hsub hnodup ⊢
      exact ih (done ++ [id]) _ hnext hsub hnodup

/-- What holds before the first channel is cut off and survives every cut holds after the
last. -/
theorem cut_induction {motive : Network α → Prop} (hdoomed : Doomed first order)
    (hnodup : order.Nodup) (hstart : motive first)
    (hcut : ∀ {done second id}, Torn first second reason done → (∀ other ∈ done, other ∈ order) →
      id ∈ order → id ∉ done → motive second → motive (abortCarried quiet reason second id)) :
    motive (order.foldl (abortCarried quiet reason) first) := by
  have hrest : ∀ (rest done : List ChannelId) (second : Network α),
      Torn first second reason done → done ++ rest = order → motive second →
      motive (rest.foldl (abortCarried quiet reason) second) := by
    intro rest
    induction rest with
    | nil => exact fun _ _ _ _ hmotive => hmotive
    | cons id rest ih =>
        intro done second htorn horder hmotive
        have hsub : ∀ other ∈ done, other ∈ order := fun other hmem =>
          horder ▸ List.mem_append_left _ hmem
        have hmem : id ∈ order := by simp [← horder]
        have hnot : id ∉ done := fun hdone =>
          (List.nodup_append.mp (horder ▸ hnodup)).2.2 id hdone id (List.mem_cons_self ..) rfl
        exact ih (done ++ [id]) _ (htorn.step hdoomed hsub hmem hnot) (by simpa using horder)
          (hcut htorn hsub hmem hnot hmotive)
  exact hrest order [] first (torn_nil first reason) rfl hstart

end Torn

/-! ## The whole close -/

/-- What is noticed of a close: the removal by the destination, the close by the session,
and the resets of the streams that are cut off. -/
def closeNotices (network : Network α) (key : ConnectionKey) (connection : Connection)
    (reason : CloseReason) (fresh : Bool) : List Notice :=
  (if connection.destination = .gone then [] else [.removed key]) ++
    .sessionClosed connection.session .noError reason.message fresh ::
      connection.live.flatMap network.cutNotices

/-- In the second network a connection of the first has been closed. -/
structure Closes (first second : Network α) (key : ConnectionKey) (connection : Connection)
    (reason : CloseReason) : Prop where
  exchange? : ∀ target, second.exchange? target =
    if target ∈ first.liveExchanges connection then
      (first.exchange? target).map fun found => found.settle (.error (.aborted reason))
    else first.exchange? target
  channel? : ∀ id, second.channel? id =
    if id ∈ connection.live then
      (first.channel? id).map fun found => found.cut (first.carried? id).isSome
    else first.channel? id
  connection? : ∀ other, second.connection? other =
    if other = key then some { connection with isClosed := true, live := [] }
    else first.connection? other
  session : ∀ place, (second.session? place).map Session.outline =
    if place = connection.session then
      (first.session? place).map fun found => (found.attached, true)
    else (first.session? place).map Session.outline
  pool : ∀ place, (second.pool? place).map Pool.outline =
    if connection.destination = .pool place then
      (first.pool? place).map fun found => (found.unlist connection.id).outline
    else (first.pool? place).map Pool.outline
  trace : ∃ fresh, second.trace.toList =
    first.trace.toList ++ first.closeNotices key connection reason fresh

section Close

variable {key : ConnectionKey} {connection : Connection}

/-- Where a close has come to when it turns to the destination. -/
def begun (network : Network α) (key : ConnectionKey) : Network α :=
  (network.modifyConnection key fun found => { found with isClosed := true }).retainConnection key

/-- Where a close has come to when it has told destination and session. -/
def announced (network : Network α) (key : ConnectionKey) (connection : Connection)
    (reason : CloseReason) : Network α :=
  (((network.begun key).announceRemoval quiet key).closeSession quiet connection.session .noError
    reason.message).1

/-- Where a close has come to when it turns to the exchanges. -/
def emptied (network : Network α) (key : ConnectionKey) (connection : Connection)
    (reason : CloseReason) : Network α :=
  (network.announced key connection reason).modifyConnection key fun found =>
    { found with live := [] }

theorem connection?_begun (hconnection : network.connection? key = some connection)
    (other : ConnectionKey) :
    (network.begun key).connection? other =
      if other = key then
        some { connection with isClosed := true, handles := connection.handles + 1 }
      else network.connection? other := by
  simp only [begun, retainConnection, connection?_modifyConnection]
  split
  next heq => simp [heq, hconnection]
  next => rfl

theorem announced_frame (network : Network α) (key : ConnectionKey) (connection : Connection)
    (reason : CloseReason) :
    (network.announced key connection reason).exchange? = network.exchange? ∧
      (network.announced key connection reason).channel? = network.channel? ∧
      (network.announced key connection reason).connection? = (network.begun key).connection? := by
  obtain ⟨hexchange, hchannel, hconnection, -⟩ := closeSession_frame
    ((network.begun key).announceRemoval quiet key) connection.session .noError reason.message
  obtain ⟨hexchange', hchannel', hconnection', -⟩ := announceRemoval_frame (network.begun key) key
  exact ⟨hexchange.trans hexchange', hchannel.trans hchannel', hconnection.trans hconnection'⟩

theorem connection?_announced (hconnection : network.connection? key = some connection)
    (reason : CloseReason) (other : ConnectionKey) :
    (network.announced key connection reason).connection? other =
      if other = key then
        some { connection with isClosed := true, handles := connection.handles + 1 }
      else network.connection? other := by
  rw [(announced_frame network key connection reason).2.2, connection?_begun hconnection]

theorem session_announced (network : Network α) (key : ConnectionKey) (connection : Connection)
    (reason : CloseReason) (place : SessionKey) :
    ((network.announced key connection reason).session? place).map Session.outline =
      if place = connection.session then
        (network.session? place).map fun found => (found.attached, true)
      else (network.session? place).map Session.outline := by
  obtain ⟨-, -, -, hsession, -⟩ := announceRemoval_frame (network.begun key) key
  unfold announced
  rw [outline_closeSession, hsession]
  rfl

theorem pool?_announced (hconnection : network.connection? key = some connection)
    (reason : CloseReason) (place : PoolKey) :
    (network.announced key connection reason).pool? place =
      if connection.destination = .pool place then
        (network.pool? place).map fun found => found.unlist connection.id
      else network.pool? place := by
  have hbegun := connection?_begun hconnection key
  rw [if_pos rfl] at hbegun
  obtain ⟨-, -, -, hpool, -⟩ := closeSession_frame
    ((network.begun key).announceRemoval quiet key) connection.session .noError reason.message
  unfold announced
  rw [hpool, pool?_announceRemoval _ hbegun]
  rfl

/-- Of a close the pool is told first, and then the session. -/
theorem trace_announced (hconnection : network.connection? key = some connection)
    {session : Session} (hsession : network.session? connection.session = some session)
    (reason : CloseReason) :
    (network.announced key connection reason).trace.toList = network.trace.toList ++
      (if connection.destination = .gone then [] else [.removed key]) ++
        [.sessionClosed connection.session .noError reason.message
          (network.isFresh connection.session)] := by
  have hbegun := connection?_begun hconnection key
  rw [if_pos rfl] at hbegun
  have hsame : ((network.begun key).announceRemoval quiet key).session? = network.session? :=
    (announceRemoval_frame (network.begun key) key).2.2.2.1
  have hthere : ((network.begun key).announceRemoval quiet key).session? connection.session =
      some session := by rw [hsame, hsession]
  have hfresh : ((network.begun key).announceRemoval quiet key).isFresh = network.isFresh := by
    funext place
    rw [isFresh, isFresh, hsame]
  rw [announced, trace_closeSession _ hthere, closeSession_snd, hfresh, Array.toList_push,
    trace_announceRemoval _ hbegun]
  rfl

theorem close_of_open (hconnection : network.connection? key = some connection)
    (hopen : connection.isClosed = false) (reason : CloseReason) :
    network.close quiet key reason =
      (((network.emptied key connection reason).abortInOrder quiet reason
        connection.live).letGoConnection key, true) := by
  have hfound := connection?_announced hconnection reason key
  rw [if_pos rfl] at hfound
  simp only [close, hconnection, hopen]
  change (Network.letGoConnection (Network.abortLive quiet
    (network.announced key connection reason) key reason) key, true) = _
  simp only [abortLive, hfound]
  rfl

theorem connection?_emptied (hconnection : network.connection? key = some connection)
    (reason : CloseReason) (other : ConnectionKey) :
    (network.emptied key connection reason).connection? other =
      if other = key then
        some { connection with isClosed := true, live := [], handles := connection.handles + 1 }
      else network.connection? other := by
  simp only [emptied, connection?_modifyConnection, connection?_announced hconnection]
  split
  next => rfl
  next => rfl

/-- The network in which a close starts to cut off channels: the channels are kept. -/
def kept (network : Network α) (key : ConnectionKey) (connection : Connection)
    (reason : CloseReason) : Network α :=
  connection.live.foldl retainChannel (network.emptied key connection reason)

theorem kept_frame (network : Network α) (key : ConnectionKey) (connection : Connection)
    (reason : CloseReason) :
    (network.kept key connection reason).exchange? = network.exchange? ∧
      (network.kept key connection reason).connection? =
        (network.emptied key connection reason).connection? ∧
      (network.kept key connection reason).session? =
        (network.announced key connection reason).session? ∧
      (network.kept key connection reason).pool? =
        (network.announced key connection reason).pool? ∧
      (network.kept key connection reason).trace =
        (network.announced key connection reason).trace := by
  obtain ⟨hexchange, hconnection, hsession, hpool, htrace⟩ :=
    foldl_retainChannel_frame (network.emptied key connection reason) connection.live
  exact ⟨hexchange.trans (announced_frame network key connection reason).1, hconnection,
    hsession, hpool, htrace⟩

theorem channel?_kept (hnodup : connection.live.Nodup) (reason : CloseReason) (id : ChannelId) :
    (network.kept key connection reason).channel? id =
      if id ∈ connection.live then (network.channel? id).map Channel.hold
      else network.channel? id := by
  have hsame : (network.emptied key connection reason).channel? = network.channel? :=
    (announced_frame network key connection reason).2.1
  rw [kept, channel?_foldl_retainChannel _ hnodup, hsame]

theorem carried?_kept (hnodup : connection.live.Nodup) (reason : CloseReason) :
    (network.kept key connection reason).carried? = network.carried? := by
  funext id
  unfold carried?
  rw [channel?_kept hnodup, (kept_frame network key connection reason).1]
  split
  next => cases network.channel? id <;> rfl
  next => rfl

theorem cutNotices_kept (hnodup : connection.live.Nodup) (reason : CloseReason) :
    (network.kept key connection reason).cutNotices = network.cutNotices := by
  funext id
  have hthere : ∀ place, ((network.kept key connection reason).session? place).isSome =
      (network.session? place).isSome := by
    intro place
    have hsession := congrArg Option.isSome (session_announced network key connection reason place)
    rw [(kept_frame network key connection reason).2.2.1]
    simp only [Option.isSome_map] at hsession
    rw [hsession]
    split <;> simp
  unfold cutNotices
  rw [channel?_kept hnodup, carried?_kept hnodup]
  cases network.channel? id with
  | none => simp
  | some channel =>
      by_cases hmem : id ∈ connection.live
      · simp only [hmem, if_true, Option.map_some, resetNotices_congr hthere]
        rfl
      · simp only [hmem, if_false, resetNotices_congr hthere]

theorem doomed_kept (hcoherent : Coherent network)
    (hconnection : network.connection? key = some connection) (reason : CloseReason) :
    Doomed (network.kept key connection reason) connection.live where
  unlisted := by
    rintro id hmem other ⟨found, hfound, hlive⟩
    rw [(kept_frame network key connection reason).2.1, connection?_emptied hconnection] at hfound
    split at hfound
    next =>
      rw [← Option.some.inj hfound] at hlive
      simp at hlive
    next hne =>
      exact hne (hcoherent.listed_once ⟨found, hfound, hlive⟩ ⟨connection, hconnection, hmem⟩)
  kept := by
    intro id hmem
    obtain ⟨channel, target, exchange, hchannel, hworks, -⟩ := hcoherent.works hconnection hmem
    refine ⟨channel.hold, ?_, ?_, hworks.released⟩
    · rw [channel?_kept (hcoherent.nodup hconnection), if_pos hmem, hchannel, Option.map_some]
    · simp [Channel.isHeld, Channel.hold]
  waits := by
    intro id hmem target hcarried
    rw [carried?_kept (hcoherent.nodup hconnection), carried?_eq_some] at hcarried
    obtain ⟨channel, hchannel, hreleased, hslot, hheld⟩ := hcarried
    obtain ⟨same, other, exchange, hsame, hworks, hexchange, hwaits⟩ :=
      hcoherent.works hconnection hmem
    obtain rfl := Option.some.inj (hchannel.symm.trans hsame)
    obtain rfl := Option.some.inj (hslot.symm.trans hworks.exchange)
    rw [hexchange, Option.any_some] at hheld
    refine ⟨exchange, ?_, hwaits hheld, ?_⟩
    · rw [(kept_frame network key connection reason).1, hexchange]
    · exact hcoherent.carried hchannel hreleased hslot hexchange hheld (hwaits hheld)

theorem closes_of_open (hcoherent : Coherent network) (hhoused : Housed network)
    (hconnection : network.connection? key = some connection)
    (hopen : connection.isClosed = false) (reason : CloseReason) :
    ∃ second, network.close quiet key reason = (second, true) ∧
      Closes network second key connection reason := by
  have hnodup := hcoherent.nodup hconnection
  -- By now the connection lists nothing, and its channels are held until each had its turn.
  have htorn := Torn.run (doomed_kept hcoherent hconnection reason) connection.live []
    _ (torn_nil _ reason) (by simp) (by simpa using hnodup)
  rw [List.nil_append] at htorn
  refine ⟨_, close_of_open hconnection hopen reason, ?_⟩
  obtain ⟨hexchange, hconnections, hsession, hpool, htrace⟩ :=
    kept_frame network key connection reason
  exact
    { exchange? := fun target => by
        rw [liveExchanges, ← carried?_kept hnodup reason, ← hexchange]
        exact htorn.exchange? target
      channel? := fun id => by
        refine (htorn.channel? id).trans ?_
        rw [channel?_kept hnodup, carried?_kept hnodup]
        by_cases hmem : id ∈ connection.live
        · simp only [hmem, if_true, Option.map_map]
          cases network.channel? id <;> simp
        · simp only [hmem, if_false]
      connection? := fun other => by
        simp only [letGoConnection, connection?_modifyConnection]
        rw [show (Network.abortInOrder quiet (network.emptied key connection reason) reason
          connection.live).connection? = (network.emptied key connection reason).connection? from
          htorn.connection?.trans hconnections, connection?_emptied hconnection]
        split
        next => rfl
        next => rfl
      session := fun place => by
        refine (htorn.session place).trans ?_
        rw [hsession, session_announced]
      pool := fun place => by
        refine (htorn.pool place).trans ?_
        rw [hpool, pool?_announced hconnection]
        split
        next => cases network.pool? place <;> rfl
        next => rfl
      trace := by
        obtain ⟨session, hthere, -⟩ := hhoused.session hconnection
        refine ⟨network.isFresh connection.session, htorn.trace.trans ?_⟩
        rw [htrace, trace_announced hconnection hthere, closeNotices, cutNotices_kept hnodup]
        simp }

end Close

/-! ## Agreement after a close -/

section Closes

variable {key : ConnectionKey} {connection : Connection}

theorem Closes.exchange_after (hcloses : Closes first second key connection reason)
    {target : ExchangeId} {before : Exchange} (hbefore : first.exchange? target = some before) :
    second.exchange? target = some
      (if target ∈ first.liveExchanges connection then
        before.settle (.error (.aborted reason)) else before) := by
  rw [hcloses.exchange?, hbefore]
  split <;> rfl

theorem Closes.channel_after (hcloses : Closes first second key connection reason)
    {before : Channel} (hbefore : first.channel? id = some before) :
    second.channel? id = some
      (if id ∈ connection.live then before.cut (first.carried? id).isSome else before) := by
  rw [hcloses.channel?, hbefore]
  split <;> rfl

theorem Closes.later (hcloses : Closes first second key connection reason)
    (hconnection : first.connection? key = some connection) : Later first second where
  exchange hbefore := by
    refine ⟨_, hcloses.exchange_after hbefore, ?_⟩
    split
    · exact Exchange.ages_settle _ _
    · exact .refl _
  channel hbefore := by
    refine ⟨_, hcloses.channel_after hbefore, ?_⟩
    split
    · exact Channel.ages_cut _ _
    · exact .refl _
  connection := by
    intro other before hbefore
    rw [hcloses.connection?]
    split
    next heq =>
      obtain rfl := Option.some.inj (hconnection.symm.trans (heq ▸ hbefore))
      exact ⟨_, rfl, rfl, rfl, rfl, fun _ => rfl⟩
    next => exact ⟨before, hbefore, .refl before⟩
  session := by
    intro place before hbefore
    have houtline := hcloses.session place
    rw [hbefore] at houtline
    cases hafter : second.session? place with
    | none =>
        rw [hafter] at houtline
        split at houtline <;> simp at houtline
    | some after =>
        refine ⟨after, rfl, fun hclosed => ?_⟩
        rw [hafter] at houtline
        split at houtline
        · simp only [Option.map_some, Session.outline, Option.some.injEq, Prod.mk.injEq]
            at houtline
          exact houtline.2
        · simp only [Option.map_some, Session.outline, Option.some.injEq, Prod.mk.injEq]
            at houtline
          exact houtline.2.trans hclosed

private theorem mem_live_of_mem_liveExchanges (hcoherent : Coherent network) {target : ExchangeId}
    (hmem : target ∈ network.liveExchanges connection) {other : ConnectionKey}
    (hregistered : network.Registered other id) {channel : Channel}
    (hchannel : network.channel? id = some channel) (hslot : channel.exchange = some target) :
    id ∈ connection.live := by
  obtain ⟨found, hfound, hcarried⟩ := List.mem_filterMap.mp hmem
  exact hcoherent.carried_once hcarried hregistered hchannel hslot ▸ hfound

private theorem mem_liveExchanges (hcoherent : Coherent network)
    (hconnection : network.connection? key = some connection) (hlive : id ∈ connection.live)
    {channel : Channel} (hchannel : network.channel? id = some channel) {target : ExchangeId}
    (hslot : channel.exchange = some target) {exchange : Exchange}
    (hexchange : network.exchange? target = some exchange) (hheld : exchange.isHeld = true) :
    target ∈ network.liveExchanges connection := by
  obtain ⟨_, _, -, hworks⟩ :=
    hcoherent.works_of_registered ⟨connection, hconnection, hlive⟩ hchannel
  exact List.mem_filterMap.mpr ⟨id, hlive,
    Coherent.carried?_of_slot hchannel hworks.released hslot hexchange hheld⟩

/-- The channels of the connection are what a close ends. -/
theorem Closes.ends (hcloses : Closes first second key connection reason)
    (hcoherent : Coherent first) (hconnection : first.connection? key = some connection) :
    Ends first second (· ∈ connection.live) where
  toLater := hcloses.later hconnection
  newExchange hbefore hafter := by simp [hcloses.exchange?, hbefore] at hafter
  newChannel hbefore hafter := by simp [hcloses.channel?, hbefore] at hafter
  newConnection hbefore hafter := by
    rw [hcloses.connection?] at hafter
    split at hafter
    next heq => simp [heq, hconnection] at hbefore
    next => simp [hbefore] at hafter
  binding hbefore hafter := by
    obtain rfl := Option.some.inj ((hcloses.exchange_after hbefore).symm.trans hafter)
    split
    · exact .inr ⟨rfl, .inl (Exchange.isResolved_settle _ _)⟩
    · exact .inl rfl
  slot hbefore hafter := by
    obtain rfl := Option.some.inj ((hcloses.channel_after hbefore).symm.trans hafter)
    split
    · exact Channel.exchange_cut _ _
    · exact .inl rfl
  live := by
    intro other before after hbefore hafter
    rw [hcloses.connection?] at hafter
    split at hafter
    next heq =>
      obtain rfl := Option.some.inj (hconnection.symm.trans (heq ▸ hbefore))
      obtain rfl := Option.some.inj hafter
      exact ⟨List.nil_sublist _, fun id hmem => by simp [hmem]⟩
    next hne =>
      obtain rfl := Option.some.inj (hbefore.symm.trans hafter)
      refine ⟨List.Sublist.refl _, fun id hmem => iff_of_true hmem fun hlive => hne ?_⟩
      -- What another connection lists, the closed one does not.
      exact hcoherent.listed_once ⟨_, hbefore, hmem⟩ ⟨_, hconnection, hlive⟩
  kept _ hnot hbefore hafter := by
    obtain rfl := Option.some.inj ((hcloses.channel_after hbefore).symm.trans hafter)
    rw [if_neg hnot]
    exact ⟨rfl, rfl, rfl⟩
  resolved := by
    intro target before after other id channel hbefore hafter hunresolved hresolved hregistered
      hchannel hslot
    obtain rfl := Option.some.inj ((hcloses.exchange_after hbefore).symm.trans hafter)
    split at hresolved
    next hmem =>
      exact mem_live_of_mem_liveExchanges hcoherent hmem hregistered hchannel hslot
    next => simp [hunresolved] at hresolved
  settled := by
    intro target after other id channel hafter _ hchannel hslot hlive hheld
    obtain ⟨before, hbefore⟩ := hcoherent.named hchannel hslot
    have hsame := (hcloses.exchange_after hbefore).symm.trans hafter
    have hthen : before.isHeld = true := by
      rw [← Option.some.inj hsame] at hheld
      split at hheld
      · exact hheld
      · exact hheld
    rw [if_pos (mem_liveExchanges hcoherent hconnection hlive hchannel hslot hbefore hthen)]
      at hsame
    rw [← Option.some.inj hsame]
    exact Exchange.isResolved_settle _ _

/-- A pool lists the same connections after a close, except for the closed one. -/
theorem Closes.pool_after (hcloses : Closes first second key connection reason)
    {place : PoolKey} {before : Pool} (hbefore : first.pool? place = some before) :
    ∃ after, second.pool? place = some after ∧ after.opened = before.opened ∧
      after.listed = if connection.destination = .pool place then
        before.listed.filter fun entry => entry.1 != connection.id else before.listed := by
  have houtline := hcloses.pool place
  rw [hbefore] at houtline
  cases hafter : second.pool? place with
  | none =>
      rw [hafter] at houtline
      split at houtline <;> simp at houtline
  | some after =>
      refine ⟨after, rfl, ?_⟩
      rw [hafter] at houtline
      split at houtline
      next hplace =>
        simp only [Option.map_some, Pool.outline, Pool.unlist, Option.some.injEq,
          Prod.mk.injEq] at houtline
        exact ⟨houtline.1, by rw [if_pos hplace, houtline.2]⟩
      next hplace =>
        simp only [Option.map_some, Pool.outline, Option.some.injEq, Prod.mk.injEq] at houtline
        exact ⟨houtline.1, by rw [if_neg hplace, houtline.2]⟩

theorem Closes.pool_before (hcloses : Closes first second key connection reason)
    {place : PoolKey} {after : Pool} (hafter : second.pool? place = some after) :
    ∃ before, first.pool? place = some before := by
  have houtline := hcloses.pool place
  rw [hafter] at houtline
  cases hbefore : first.pool? place with
  | none =>
      rw [hbefore] at houtline
      split at houtline <;> simp at houtline
  | some before => exact ⟨before, rfl⟩

/-- The connections that a close does not concern are where they were. -/
theorem Closes.connection_before (hcloses : Closes first second key connection reason)
    (hconnection : first.connection? key = some connection) {other : ConnectionKey}
    {after : Connection} (hafter : second.connection? other = some after) :
    ∃ before, first.connection? other = some before ∧ after.id = before.id ∧
      after.session = before.session ∧ after.destination = before.destination ∧
      after.handles = before.handles ∧ (other ≠ key → after = before) := by
  rw [hcloses.connection?] at hafter
  split at hafter
  next heq =>
    obtain rfl := Option.some.inj hafter
    exact ⟨connection, heq ▸ hconnection, rfl, rfl, rfl, rfl, fun hne => absurd heq hne⟩
  next => exact ⟨after, hafter, rfl, rfl, rfl, rfl, fun _ => rfl⟩

/-- A close takes nothing away from the other connections. -/
theorem Closes.isConnectionAlive (hcloses : Closes first second key connection reason)
    (hhoused : Housed first) (hconnection : first.connection? key = some connection)
    {other : ConnectionKey} (hne : other ≠ key) (halive : first.isConnectionAlive other = true) :
    second.isConnectionAlive other = true := by
  obtain ⟨found, hfound, hcases⟩ := isConnectionAlive_iff.mp halive
  refine isConnectionAlive_iff.mpr ⟨found, by rwa [hcloses.connection?, if_neg hne], ?_⟩
  rcases hcases with hheld | ⟨place, pool, hdestination, hpool, hlists⟩
  · exact .inl hheld
  · obtain ⟨after, hafter, -, hlist⟩ := hcloses.pool_after hpool
    refine .inr ⟨place, after, hdestination, hafter, ?_⟩
    simp only [Pool.lists, List.any_eq_true, beq_iff_eq, Prod.exists] at hlists ⊢
    obtain ⟨number, place', hmem, rfl⟩ := hlists
    refine ⟨number, place', ?_, rfl⟩
    rw [hlist]
    split
    next hplace =>
      -- The closed connection has another number.
      obtain ⟨listed, hthere, hnumber, -⟩ := hhoused.listed hpool hmem
      obtain rfl := Option.some.inj (hfound.symm.trans hthere)
      refine List.mem_filter.mpr ⟨hmem, ?_⟩
      have hother : number ≠ connection.id := fun hequal =>
        hne (hhoused.unique hfound hconnection hdestination hplace (hnumber.trans hequal))
      simpa using hother
    next => exact hmem

/-- Connections stay housed when one of them is closed. -/
theorem Closes.housed (hcloses : Closes first second key connection reason)
    (hhoused : Housed first) (hconnection : first.connection? key = some connection) :
    Housed second where
  toNumbered := by
    refine hhoused.toNumbered.of_after (fun hafter => ?_) (fun hbefore => ?_) (fun hpool => ?_)
      fun hpool => ?_
    · obtain ⟨before, hbefore, hid, -, hdestination, -⟩ :=
        hcloses.connection_before hconnection hafter
      exact ⟨before, hbefore, hid, fun place => by rw [hdestination]⟩
    · obtain ⟨after, hafter, -⟩ := (hcloses.later hconnection).connection hbefore
      exact ⟨after, hafter⟩
    · obtain ⟨after, hafter, hopened, -⟩ := hcloses.pool_after hpool
      exact ⟨after, hafter, Nat.le_of_eq hopened.symm⟩
    · obtain ⟨before, hbefore⟩ := hcloses.pool_before hpool
      obtain ⟨after, hafter, -, hlist⟩ := hcloses.pool_after hbefore
      obtain rfl := Option.some.inj (hpool.symm.trans hafter)
      refine ⟨before, hbefore, ?_⟩
      rw [hlist]
      split
      · exact fun entry hmem => (List.mem_filter.mp hmem).1
      · exact List.Subset.refl _
  session := by
    intro other after hafter
    obtain ⟨before, hbefore, -, hsession, -, -, hsame⟩ :=
      hcloses.connection_before hconnection hafter
    obtain ⟨session, hthere, hclosed⟩ := hhoused.session hbefore
    obtain ⟨later, hlater, hkept⟩ := (hcloses.later hconnection).session hthere
    refine ⟨later, hsession ▸ hlater, fun hover => ?_⟩
    by_cases heq : other = key
    · obtain rfl := Option.some.inj (hconnection.symm.trans (heq ▸ hbefore))
      have houtline := hcloses.session connection.session
      rw [if_pos rfl, hthere, hlater, Option.map_some, Option.map_some] at houtline
      exact congrArg Prod.snd (Option.some.inj houtline)
    · exact hkept (hclosed (hsame heq ▸ hover))
  closed := by
    intro other after hafter hover
    rw [hcloses.connection?] at hafter
    split at hafter
    next => rw [← Option.some.inj hafter]
    next => exact hhoused.closed hafter hover
  alive := by
    intro other after hafter hopen
    rw [hcloses.connection?] at hafter
    split at hafter
    next => simp [← Option.some.inj hafter] at hopen
    next hne =>
      exact hcloses.isConnectionAlive hhoused hconnection hne (hhoused.alive hafter hopen)

end Closes

end Network

end Multiplex
