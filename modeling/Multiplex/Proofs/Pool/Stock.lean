import Multiplex.Proofs.Channel.Partings
import Multiplex.Proofs.Pool.Course

/-!
# What pools list and count

A pool lists its open connections, each under its own number and once: this is `Stocked`.
So the pool finds every connection that announces a release, and counts the release.

What becomes of a pool in an operation is read off exactly.  A send leaves all pools as they
are.  The end of a channel makes the pool count one release, if a connection of the pool
listed the channel.  A close takes the connection off the list and counts nothing.
-/

namespace Multiplex

/-- A pool that counts so many more releases. -/
def Pool.tally (count : Nat) (pool : Pool) : Pool :=
  { pool with releases := pool.releases + count }

@[simp] theorem Pool.tally_zero (pool : Pool) : pool.tally 0 = pool := rfl

namespace Network

variable {α : Type} {network first second : Network α} {key : ConnectionKey} {place : PoolKey}
  {id : ChannelId} {target : ExchangeId} {connection : Connection} {pool : Pool}

/-! ## The stock of a pool -/

/-- A connection is open and belongs to a pool. -/
def Stocks (network : Network α) (place : PoolKey) (number : ConnectionId) (key : ConnectionKey) :
    Prop :=
  ∃ connection, network.connection? key = some connection ∧ connection.id = number ∧
    connection.destination = .pool place ∧ connection.isClosed = false

/-- Pools list the open connections that they opened, under their numbers and once. -/
structure Stocked (network : Network α) : Prop where
  listed : ∀ {place pool}, network.pool? place = some pool → ∀ {number key},
    (number, key) ∈ pool.listed ↔ network.Stocks place number key
  once : ∀ {place pool}, network.pool? place = some pool → (pool.listed.map Prod.fst).Nodup

private theorem Stocked.get?_eq (hstocked : Stocked network) (hnumbered : Numbered network)
    (hpool : network.pool? place = some pool)
    (hconnection : network.connection? key = some connection)
    (hdestination : connection.destination = .pool place) (hopen : connection.isClosed = false) :
    pool.get? connection.id = some key := by
  have hlisted : (connection.id, key) ∈ pool.listed :=
    (hstocked.listed hpool).mpr ⟨connection, hconnection, rfl, hdestination, hopen⟩
  unfold Pool.get?
  cases hfound : pool.listed.find? fun entry => entry.1 == connection.id with
  | none => simpa using List.find?_eq_none.mp hfound _ hlisted
  | some entry =>
      obtain ⟨number, other⟩ := entry
      have hnumber : number = connection.id := by simpa using List.find?_some hfound
      obtain ⟨found, hthere, hid, hgoes, -⟩ :=
        (hstocked.listed hpool).mp (List.mem_of_find?_eq_some hfound)
      -- The number belongs to one connection of the pool only.
      have hkey : other = key :=
        hnumbered.unique hthere hconnection hgoes hdestination (hid.trans hnumber)
      rw [Option.map_some, hkey]

/-! ## Sends -/

section Sends

variable (network)

@[simp] theorem pool?_resetStream (session : SessionKey) (stream : StreamId) (code : ErrorCode) :
    (network.resetStream quiet session stream code).pool? = network.pool? := by
  unfold resetStream
  split
  · rfl
  · split <;> rfl

@[simp] theorem pool?_openStream (session : SessionKey) (request : Http.Request)
    (listener : Listener) :
    (network.openStream quiet session request listener).1.pool? = network.pool? := by
  unfold openStream
  split
  · rfl
  · split
    · dsimp only
      split <;> rfl
    · dsimp only [quiet]
      split
      · split <;> rfl
      · rfl

@[simp] theorem pool?_giveStream (id : ChannelId) (stream : StreamId) :
    (network.giveStream quiet id stream).pool? = network.pool? := by
  unfold giveStream
  dsimp only
  split
  · rfl
  · split
    · rw [pool?_resetStream]
      rfl
    · rfl

@[simp] theorem pool?_sendOnChannel (id : ChannelId) (target : ExchangeId) :
    (network.sendOnChannel quiet id target).1.pool? = network.pool? := by
  unfold sendOnChannel
  split
  next channel exchange hchannel hexchange =>
    split
    · rfl
    split
    · rfl
    dsimp only
    split
    · rfl
    have hopened := pool?_openStream (network.bind id target) channel.session exchange.request
      (.channel id)
    split
    next opened stream heq =>
      rw [heq] at hopened
      rw [pool?_giveStream, hopened]
      rfl
    next opened error heq =>
      rw [heq] at hopened
      exact hopened
  next => rfl

@[simp] theorem pool?_send (key : ConnectionKey) (target : ExchangeId) :
    (network.send quiet key target).1.pool? = network.pool? := by
  unfold send
  split
  next connection exchange hconnection hexchange =>
    split
    · rfl
    dsimp only
    split
    · rfl
    split
    · rfl
    let ready := network.registered key connection target exchange.request.normalize.1
    have hsent := pool?_sendOnChannel ready network.nextChannel target
    change (ready.sendRegistered quiet key network.nextChannel target).1.pool? = _
    unfold sendRegistered
    split
    next sent stream heq =>
      rw [heq] at hsent
      exact hsent
    next sent error heq =>
      rw [heq] at hsent
      exact hsent
  next => rfl

end Sends

/-! ## Endings -/

/-- Whether a connection of a pool lists a channel. -/
def listedIn (network : Network α) (place : PoolKey) (id : ChannelId) : Bool :=
  (network.channel? id).any fun channel => channel.owner.any fun key =>
    (network.connection? key).any fun connection =>
      connection.live.contains id && decide (connection.destination = .pool place)

section Endings

/-- Taking back a channel of an open connection makes the connection's pool count a release,
and changes no other pool. -/
private theorem pool?_takeBack (hstocked : Stocked network) (hnumbered : Numbered network)
    (hconnection : network.connection? key = some connection) (hlive : id ∈ connection.live)
    (hopen : connection.isClosed = false) (place : PoolKey) :
    (network.takeBack quiet key id).pool? place = (network.pool? place).map fun pool =>
      pool.tally (decide (connection.destination = .pool place)).toNat := by
  let dropped := network.modifyConnection key fun found => found.drop id
  have hdropped : dropped.connection? key = some (connection.drop id) := by
    rw [connection?_modifyConnection, if_pos rfl, hconnection, Option.map_some]
  have htake : network.takeBack quiet key id = dropped.announceRelease quiet key := by
    simp [takeBack, hconnection, hlive, hopen, dropped]
  rw [htake]
  simp only [announceRelease, hdropped]
  have hgoes : (connection.drop id).destination = connection.destination := rfl
  rw [hgoes]
  cases hdestination : connection.destination with
  | gone => simp [dropped]
  | observed => simp [dropped, quiet]
  | pool other =>
      dsimp only [countRelease]
      rw [pool?_modifyPool]
      by_cases heq : place = other
      · subst heq
        rw [if_pos rfl]
        change (network.pool? place).map _ = _
        cases hpool : network.pool? place with
        | none => rfl
        | some pool =>
            -- The pool knows the connection by its number, so it counts.
            have hget := hstocked.get?_eq hnumbered hpool hconnection hdestination hopen
            have hfinds : pool.get? (connection.drop id).id = some key := hget
            simp only [Option.map_some, hfinds, Option.bind_some]
            rw [show (dropped.note (.released key)).connection? key = some (connection.drop id)
              from hdropped]
            simp [Connection.drop, hopen, Pool.tally]
      · have hne : other ≠ place := fun hsame => heq hsame.symm
        simp [heq, hne, dropped]

/-- Stock is a matter of connections and pools alone. -/
theorem Stocked.congr (hstocked : Stocked first)
    (hconnection : second.connection? = first.connection?) (hpool : second.pool? = first.pool?) :
    Stocked second where
  listed {place pool} hfound number key := by
    rw [hpool] at hfound
    rw [hstocked.listed hfound]
    simp only [Stocks, hconnection]
  once hfound := by
    rw [hpool] at hfound
    exact hstocked.once hfound

theorem retired_frame (network : Network α) (id : ChannelId) (channel : Channel)
    (code : Option ErrorCode) :
    (network.retired id channel code).connection? = network.connection? ∧
      (network.retired id channel code).pool? = network.pool? := by
  unfold retired shed
  refine ⟨(aside_shed (network.modifyChannel id fun found => { found with released := true })
    channel code).connection?, ?_⟩
  split
  · exact pool?_resetStream ..
  · rfl

theorem listedIn_of_owner {channel : Channel} (hchannel : network.channel? id = some channel)
    (howner : channel.owner = some key) (place : PoolKey) :
    network.listedIn place id = (network.connection? key).any fun connection =>
      connection.live.contains id && decide (connection.destination = .pool place) := by
  simp only [listedIn, hchannel, Option.any_some, howner]

private theorem listedIn_of_unregistered (hnot : ∀ key, ¬ network.Registered key id)
    (place : PoolKey) :
    network.listedIn place id = false := by
  refine Bool.eq_false_iff.mpr fun hlisted => ?_
  obtain ⟨channel, -, howner⟩ := (Option.any_eq_true ..).mp hlisted
  obtain ⟨key, -, hany⟩ := (Option.any_eq_true ..).mp howner
  obtain ⟨connection, hconnection, hboth⟩ := (Option.any_eq_true ..).mp hany
  rw [Bool.and_eq_true] at hboth
  exact hnot key ⟨connection, hconnection, by simpa using hboth.1⟩

theorem pool?_releaseChannel_of_unregistered (hnot : ∀ key, ¬ network.Registered key id)
    (code : Option ErrorCode) :
    (network.releaseChannel quiet id code).pool? = network.pool? := by
  cases hchannel : network.channel? id with
  | none => simp [releaseChannel, hchannel]
  | some channel =>
      cases hreleased : channel.released with
      | true => rw [releaseChannel_of_released hchannel hreleased]
      | false =>
          obtain ⟨hconnections, hpools⟩ := network.retired_frame id channel code
          rw [releaseChannel_eq hchannel hreleased code]
          split
          · exact hpools
          next key howner =>
            split
            · refine Eq.trans ?_ hpools
              unfold takeBack
              split
              · rfl
              next connection hconnection =>
                rw [hconnections] at hconnection
                have hmem : id ∉ connection.live := fun hmem =>
                  hnot key ⟨connection, hconnection, hmem⟩
                rw [if_neg (by simpa using hmem)]
            · exact hpools

/-- The release of a channel is counted by the pool whose connection lists the channel. -/
theorem pool?_releaseChannel (hhome : network.AtHome id) (hstocked : Stocked network)
    (hnumbered : Numbered network)
    (hopen : ∀ {key connection}, network.connection? key = some connection →
      id ∈ connection.live → connection.isClosed = false)
    (code : Option ErrorCode) (place : PoolKey) :
    (network.releaseChannel quiet id code).pool? place = (network.pool? place).map fun pool =>
      pool.tally (network.listedIn place id).toNat := by
  by_cases hregistered : ∃ key, network.Registered key id
  · obtain ⟨key, hregistered⟩ := hregistered
    obtain ⟨channel, hchannel, hreleased, howner, halive⟩ := hhome key hregistered
    obtain ⟨connection, hconnection, hlive⟩ := hregistered
    obtain ⟨hconnections, hpools⟩ := network.retired_frame id channel code
    have hkept : (network.retired id channel code).isConnectionAlive key = true := by
      simpa only [isConnectionAlive, hconnections, hpools] using halive
    have hcontains : connection.live.contains id = true := by simpa using hlive
    rw [releaseChannel_eq hchannel hreleased code, howner]
    simp only [hkept, if_true]
    rw [pool?_takeBack (hstocked.congr hconnections hpools) (hnumbered.congr hconnections hpools)
      (by rwa [hconnections]) hlive (hopen hconnection hlive), hpools,
      listedIn_of_owner hchannel howner, hconnection, Option.any_some, hcontains, Bool.true_and]
  · have hnot : ∀ key, ¬ network.Registered key id := fun key hmem => hregistered ⟨key, hmem⟩
    rw [pool?_releaseChannel_of_unregistered hnot, listedIn_of_unregistered hnot]
    simp

end Endings

/-! ## Happenings -/

section Happenings

variable (hsound : Sound network) (hstocked : Stocked network)
include hsound hstocked

/-- The last event of a channel makes its pool count a release. -/
theorem pool?_channelHears (id : ChannelId) (event : StreamEvent) (place : PoolKey) :
    (network.channelHears quiet id event).pool? place = (network.pool? place).map fun pool =>
      pool.tally (event.isLast && network.listedIn place id).toNat := by
  cases hchannel : network.channel? id with
  | none => simp [channelHears_of_none hchannel, listedIn, hchannel]
  | some channel =>
      have hlast := channel.isSome_verdict? event
      cases hverdict : channel.verdict? event with
      | none =>
          rw [hverdict] at hlast
          rw [channelHears_of_open hverdict, ← hlast]
          simp
      | some outcome =>
          rw [hverdict] at hlast
          rw [channelHears_of_last hchannel hverdict, ← hlast]
          let absorbed := network.modifyChannel id (Channel.absorb event)
          obtain ⟨hchannels, hconnections, -, hpools, -⟩ := absorbed.resolveCarried_frame id outcome
          have hlisted : (absorbed.resolveCarried id outcome).listedIn place id =
              network.listedIn place id := by
            have hfound : absorbed.channel? id = (network.channel? id).map (Channel.absorb event) :=
              by rw [channel?_modifyChannel, if_pos rfl]
            simp only [listedIn, hchannels, hfound, hchannel, hconnections, Option.map_some,
              Option.any_some, (channel.absorb_frame event).2.1]
            rfl
          rw [pool?_releaseChannel ((hsound.atHome id).absorb event outcome)
            (hstocked.congr hconnections hpools)
            (hsound.housed.toNumbered.congr hconnections hpools) ?_ none place, hlisted, hpools]
          · rfl
          · rw [hconnections]
            exact hsound.open_of_live

/-- The abort of an exchange under way makes the pool of its channel count a release. -/
theorem pool?_abort (hheld : network.holds target = true) (error : ExchangeError)
    (place : PoolKey) :
    (network.abort quiet target error).1.pool? place = (network.pool? place).map fun pool =>
      pool.tally (!network.isResolved target &&
        ((network.exchange? target).bind Exchange.binding).any (network.listedIn place)).toNat := by
  obtain ⟨exchange, hexchange, hkept⟩ := holds_iff.mp hheld
  cases hresolved : exchange.isResolved with
  | true =>
      have hdecided : network.isResolved target = true := by simp [isResolved, hexchange, hresolved]
      rw [abort_of_isResolved hdecided]
      simp [hdecided]
  | false =>
      have hwaits : network.isResolved target = false := by simp [isResolved, hexchange, hresolved]
      let settled := network.modifyExchange target fun found => found.settle (.error error)
      cases hbinding : exchange.binding with
      | none =>
          rw [abort_of_unresolved hexchange hresolved]
          simp [hbinding, hexchange]
      | some id =>
          have halive := hsound.isChannelAlive hexchange hkept hresolved hbinding
          have hmarked : (settled.modifyChannel id Channel.cancel).AtHome id :=
            (hsound.atHome id : settled.AtHome id).modifyChannel id (fun _ => rfl) fun _ => rfl
          have hlisted : (settled.modifyChannel id Channel.cancel).listedIn place id =
              network.listedIn place id := by
            simp only [listedIn, channel?_modifyChannel, if_true]
            change ((network.channel? id).map Channel.cancel).any _ = _
            cases network.channel? id <;> rfl
          rw [abort_of_unresolved hexchange hresolved]
          simp only [hbinding, halive, if_true]
          change ((settled.modifyChannel id Channel.cancel).releaseChannel quiet id
            (some .cancel)).pool? place = _
          rw [pool?_releaseChannel hmarked (hstocked.congr rfl rfl)
            (hsound.housed.toNumbered.congr rfl rfl) hsound.open_of_live, hlisted]
          simp [hwaits, hexchange, hbinding, settled]

omit hstocked in
/-- A close takes a connection off the list of its pool. -/
theorem pool?_close (hconnection : network.connection? key = some connection)
    (hopen : connection.isClosed = false) (reason : CloseReason) (place : PoolKey) :
    (network.close quiet key reason).1.pool? place =
      if connection.destination = .pool place then
        (network.pool? place).map fun pool => pool.unlist connection.id
      else network.pool? place := by
  have hdoomed := doomed_kept hsound.coherent hconnection reason
  -- No channel is listed while it is cut off, so nothing is counted.
  have hcut : (connection.live.foldl (abortCarried quiet reason)
      (network.kept key connection reason)).pool? =
        (network.kept key connection reason).pool? := by
    refine Torn.cut_induction (motive := fun reached => reached.pool? =
      (network.kept key connection reason).pool?) hdoomed (hsound.coherent.nodup hconnection) rfl
      fun {done second id} htorn hsub hmem hnot hsame => ?_
    obtain ⟨channel, hchannel, hheld, -⟩ := hdoomed.kept id hmem
    unfold abortCarried
    rw [htorn.carried?_eq hnot]
    cases hcarried : (network.kept key connection reason).carried? id with
    | none => exact hsame
    | some target =>
        dsimp only
        rw [htorn.abort_eq hdoomed hsub hmem hnot hchannel hheld hcarried]
        have hnone : ∀ other, ¬ second.Registered other id := htorn.not_registered hmem hdoomed
        refine (pool?_releaseChannel_of_unregistered ?_ (some .cancel)).trans hsame
        exact hnone
  have hkept := (kept_frame network key connection reason).2.2.2.1
  rw [close_of_open hconnection hopen]
  change (connection.live.foldl (abortCarried quiet reason)
    (network.kept key connection reason)).pool? place = _
  rw [hcut, hkept, pool?_announced hconnection]

end Happenings

end Network

end Multiplex
