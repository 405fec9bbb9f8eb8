import Mathlib.Algebra.Order.Group.Multiset
import Mathlib.Tactic.Abel
import Multiplex.Proofs.Connection.Shutdown
import Multiplex.Proofs.Pool.Turns

/-!
# Closing in any order

A connection lists its channels in some order, and a pool its connections; in which order is
not for anybody to rely on.  `Alike` says that two networks are equal but for such orders: who
is listed is a matter of multisets, and so is the trace, for what is noticed of different
connections may come in either order.

## Strategy

To close a connection in two networks that are alike makes two networks that are alike: this is
the order of the channels.  To close two connections in either order makes two networks that
are alike: this is the order of the connections, and an induction over permutations does the
rest.  Both rest on `Shuts`, which says exactly what a close leaves.  Two closes meet in one
place only, where the two connections share a session; then the first of them is told that it
was the first, whichever that is.
-/

namespace Multiplex

/-- A connection with its channels in no order. -/
def Connection.contents (connection : Connection) : Connection × Multiset ChannelId :=
  (connection.shell, connection.live)

/-- A pool with its connections in no order. -/
def Pool.contents (pool : Pool) : Pool × Multiset (ConnectionId × ConnectionKey) :=
  ({ pool with listed := [] }, pool.listed)

theorem Connection.contents_eq_iff {before after : Connection} :
    after.contents = before.contents ↔
      ∃ live, List.Perm live before.live ∧ after = { before with live } := by
  constructor
  · intro hsame
    obtain ⟨hshell, hlive⟩ := Prod.mk.inj hsame
    refine ⟨after.live, Multiset.coe_eq_coe.mp hlive, ?_⟩
    cases before
    cases after
    simp_all [shell]
  · rintro ⟨live, hperm, rfl⟩
    exact Prod.ext rfl (Multiset.coe_eq_coe.mpr hperm)

theorem Pool.contents_eq_iff {before after : Pool} :
    after.contents = before.contents ↔
      ∃ listed, List.Perm listed before.listed ∧ after = { before with listed } := by
  constructor
  · intro hsame
    obtain ⟨hrest, hlisted⟩ := Prod.mk.inj hsame
    refine ⟨after.listed, Multiset.coe_eq_coe.mp hlisted, ?_⟩
    cases before
    cases after
    simp_all
  · rintro ⟨listed, hperm, rfl⟩
    exact Prod.ext rfl (Multiset.coe_eq_coe.mpr hperm)

private theorem Pool.unlist_right_comm (pool : Pool) (number other : ConnectionId) :
    (pool.unlist number).unlist other = (pool.unlist other).unlist number := by
  simp only [Pool.unlist, List.filter_filter, Bool.and_comm]

namespace Network

variable {α : Type} {network first second third left right : Network α} {key other : ConnectionKey}
  {connection : Connection} {place : PoolKey} {pool : Pool} {reason : CloseReason} {id : ChannelId}

/-! ## Networks that are alike -/

/-- Two networks that are equal but for the orders in which connections list channels and pools
list connections, and for the order of what was noticed. -/
structure Alike (first second : Network α) : Prop where
  exchange? : second.exchange? = first.exchange?
  channel? : second.channel? = first.channel?
  connection? : ∀ key, (second.connection? key).map Connection.contents =
    (first.connection? key).map Connection.contents
  session? : second.session? = first.session?
  pool? : ∀ place, (second.pool? place).map Pool.contents = (first.pool? place).map Pool.contents
  ambience : second.ambience = first.ambience
  trace : (second.trace.toList : Multiset Notice) = first.trace.toList

namespace Alike

theorem refl (network : Network α) : Alike network network :=
  ⟨rfl, rfl, fun _ => rfl, rfl, fun _ => rfl, rfl, rfl⟩

theorem symm (halike : Alike first second) : Alike second first where
  exchange? := halike.exchange?.symm
  channel? := halike.channel?.symm
  connection? key := (halike.connection? key).symm
  session? := halike.session?.symm
  pool? place := (halike.pool? place).symm
  ambience := halike.ambience.symm
  trace := halike.trace.symm

theorem trans (hleft : Alike first second) (hright : Alike second third) : Alike first third where
  exchange? := hright.exchange?.trans hleft.exchange?
  channel? := hright.channel?.trans hleft.channel?
  connection? key := (hright.connection? key).trans (hleft.connection? key)
  session? := hright.session?.trans hleft.session?
  pool? place := (hright.pool? place).trans (hleft.pool? place)
  ambience := hright.ambience.trans hleft.ambience
  trace := hright.trace.trans hleft.trace

private theorem reorder (network : Network α) {live order : List ChannelId}
    (hlive : (network.connection? key).map Connection.live = some live) (hperm : order.Perm live) :
    Alike network (network.modifyConnection key fun found => { found with live := order }) where
  exchange? := rfl
  channel? := rfl
  connection? other := by
    rw [connection?_modifyConnection]
    split
    next heq =>
      obtain ⟨connection, hconnection, rfl⟩ := Option.map_eq_some_iff.mp hlive
      rw [heq, hconnection]
      exact congrArg some (Connection.contents_eq_iff.mpr ⟨order, hperm, rfl⟩)
    next => rfl
  session? := rfl
  pool? _ := rfl
  ambience := rfl
  trace := rfl

/-- A pool that lists its connections in another order. -/
theorem rearrange (network : Network α) (place : PoolKey)
    (order : List (ConnectionId × ConnectionKey)) :
    Alike network (network.rearrange place order) where
  exchange? := rfl
  channel? := rfl
  connection? _ := rfl
  session? := rfl
  pool? other := by
    obtain ⟨listed, hperm, hpool⟩ := network.pool?_rearrange place other order
    rw [hpool, Option.map_map]
    cases network.pool? other with
    | none => rfl
    | some pool => exact congrArg some (Pool.contents_eq_iff.mpr ⟨listed pool, hperm pool, rfl⟩)
  ambience := rfl
  trace := rfl

variable (halike : Alike first second)
include halike

theorem connection_after (hconnection : first.connection? key = some connection) :
    ∃ live, List.Perm live connection.live ∧
      second.connection? key = some { connection with live } := by
  have hcontents := halike.connection? key
  rw [hconnection, Option.map_some, Option.map_eq_some_iff] at hcontents
  obtain ⟨after, hafter, hsame⟩ := hcontents
  obtain ⟨live, hperm, rfl⟩ := Connection.contents_eq_iff.mp hsame
  exact ⟨live, hperm, hafter⟩

theorem pool_after (hpool : first.pool? place = some pool) :
    ∃ listed, List.Perm listed pool.listed ∧
      second.pool? place = some { pool with listed } := by
  have hcontents := halike.pool? place
  rw [hpool, Option.map_some, Option.map_eq_some_iff] at hcontents
  obtain ⟨after, hafter, hsame⟩ := hcontents
  obtain ⟨listed, hperm, rfl⟩ := Pool.contents_eq_iff.mp hsame
  exact ⟨listed, hperm, hafter⟩

private theorem connection?_eq_none (hnone : first.connection? key = none) :
    second.connection? key = none := by
  have hcontents := halike.connection? key
  rwa [hnone, Option.map_none, Option.map_eq_none_iff] at hcontents

theorem pool?_eq_none (hnone : first.pool? place = none) : second.pool? place = none := by
  have hcontents := halike.pool? place
  rwa [hnone, Option.map_none, Option.map_eq_none_iff] at hcontents

theorem registered (hregistered : first.Registered key id) : second.Registered key id := by
  obtain ⟨connection, hconnection, hlive⟩ := hregistered
  obtain ⟨live, hperm, hafter⟩ := halike.connection_after hconnection
  exact ⟨_, hafter, hperm.mem_iff.mpr hlive⟩

theorem carried? : second.carried? = first.carried? := by
  funext id
  exact carried?_congr (congrFun halike.channel? id) fun target => by rw [halike.exchange?]

theorem cutStream? : second.cutStream? = first.cutStream? := by
  funext id
  simp only [Network.cutStream?, halike.carried?, halike.channel?]

theorem cutNotices : second.cutNotices = first.cutNotices := by
  funext id
  simp only [Network.cutNotices, Network.resetNotices, halike.carried?, halike.channel?,
    halike.session?]

/-- What holds between operations holds in whatever order things are listed. -/
theorem housed (hhoused : Housed first) : Housed second where
  toNumbered := by
    refine hhoused.toNumbered.of_after (fun hafter => ?_) (fun hbefore => ?_) (fun hbefore => ?_)
      fun hafter => ?_
    · obtain ⟨live, -, hbefore⟩ := halike.symm.connection_after hafter
      exact ⟨_, hbefore, rfl, fun _ => Iff.rfl⟩
    · obtain ⟨live, -, hafter⟩ := halike.connection_after hbefore
      exact ⟨_, hafter⟩
    · obtain ⟨listed, -, hafter⟩ := halike.pool_after hbefore
      exact ⟨_, hafter, Nat.le_refl _⟩
    · obtain ⟨listed, hperm, hbefore⟩ := halike.symm.pool_after hafter
      exact ⟨_, hbefore, hperm.symm.subset⟩
  session hafter := by
    obtain ⟨live, -, hbefore⟩ := halike.symm.connection_after hafter
    obtain ⟨session, hthere, hclosed⟩ := hhoused.session hbefore
    exact ⟨session, by rwa [halike.session?], hclosed⟩
  closed hafter hclosed := by
    obtain ⟨live, hperm, hbefore⟩ := halike.symm.connection_after hafter
    have hempty : live = [] := hhoused.closed hbefore hclosed
    exact (hempty ▸ hperm).nil_eq.symm
  alive hafter hopen := by
    obtain ⟨live, -, hbefore⟩ := halike.symm.connection_after hafter
    obtain ⟨same, hsame, hcases⟩ := isConnectionAlive_iff.mp (hhoused.alive hbefore hopen)
    obtain rfl := Option.some.inj (hbefore.symm.trans hsame)
    refine isConnectionAlive_iff.mpr ⟨_, hafter, hcases.imp_right ?_⟩
    rintro ⟨place, pool, hdestination, hpool, hlists⟩
    obtain ⟨listed, hperm, hthere⟩ := halike.pool_after hpool
    refine ⟨place, _, hdestination, hthere, ?_⟩
    simpa [Pool.lists, hperm.mem_iff] using hlists

theorem coherent (hcoherent : Coherent first) : Coherent second where
  nodup hafter := by
    obtain ⟨live, hperm, hbefore⟩ := halike.symm.connection_after hafter
    exact hperm.nodup_iff.mp (hcoherent.nodup hbefore)
  works hafter hlive := by
    obtain ⟨live, hperm, hbefore⟩ := halike.symm.connection_after hafter
    obtain ⟨channel, target, exchange, hchannel, hworks, hexchange, hwaits⟩ :=
      hcoherent.works hbefore (hperm.mem_iff.mpr hlive)
    rw [halike.channel?, halike.exchange?]
    exact ⟨channel, target, exchange, hchannel, { hworks with session := hworks.session },
      hexchange, hwaits⟩
  named hchannel hslot := by
    rw [halike.channel?] at hchannel
    rw [halike.exchange?]
    exact hcoherent.named hchannel hslot
  carried hchannel hreleased hslot hexchange := by
    rw [halike.channel?] at hchannel
    rw [halike.exchange?] at hexchange
    exact hcoherent.carried hchannel hreleased hslot hexchange
  waiting hexchange hheld hunresolved hbinding hchannel hfree := by
    rw [halike.channel?] at hchannel
    rw [halike.exchange?] at hexchange
    obtain ⟨hslot, key, hregistered⟩ :=
      hcoherent.waiting hexchange hheld hunresolved hbinding hchannel hfree
    exact ⟨hslot, key, halike.registered hregistered⟩
  bound hexchange hbinding := by
    rw [halike.exchange?] at hexchange
    rw [halike.channel?]
    obtain ⟨channel, hchannel, hcarries⟩ := hcoherent.bound hexchange hbinding
    exact ⟨channel, hchannel, fun ⟨key, hregistered⟩ =>
      hcarries ⟨key, halike.symm.registered hregistered⟩⟩

theorem sound (hsound : Sound first) : Sound second :=
  ⟨halike.housed hsound.housed, halike.coherent hsound.coherent⟩

end Alike

/-! ## The order of the channels -/

section Channels

variable (halike : Alike first second)
include halike

theorem Alike.closeNotices {live : List ChannelId} (hperm : live.Perm connection.live)
    (reason : CloseReason) (fresh : Bool) :
    (second.closeNotices key { connection with live } reason fresh).Perm
      (first.closeNotices key connection reason fresh) := by
  unfold Network.closeNotices
  rw [halike.cutNotices]
  exact ((hperm.flatMap_right _).cons _).append_left _

/-- What a close leaves does not depend on the order in which the channels are listed. -/
theorem Shuts.alike {live : List ChannelId} (hperm : live.Perm connection.live)
    (hleft : Shuts first left key connection reason)
    (hright : Shuts second right key { connection with live } reason) : Alike left right where
  exchange? := by
    funext target
    have hsame : target ∈ second.liveExchanges { connection with live } ↔
        target ∈ first.liveExchanges connection := by
      unfold liveExchanges
      rw [halike.carried?]
      exact (hperm.filterMap _).mem_iff
    simp only [hright.exchange?, hleft.exchange?, hsame, halike.exchange?]
  channel? := by
    funext other
    simp only [hright.channel?, hleft.channel?, hperm.mem_iff, halike.channel?, halike.carried?]
  connection? other := by
    rw [hright.connection?, hleft.connection?]
    split
    · rfl
    · exact halike.connection? other
  session? := by
    funext session
    simp only [hright.session?, hleft.session?, halike.session?, halike.cutStream?]
    split
    · congr 1
      funext found
      exact found.shut_perm (hperm.filterMap _)
    · rfl
  pool? other := by
    rw [hright.pool?, hleft.pool?]
    split
    · cases hpool : first.pool? other with
      | none => rw [halike.pool?_eq_none hpool, Option.map_none]
      | some pool =>
          obtain ⟨listed, hlisted, hafter⟩ := halike.pool_after hpool
          rw [hafter]
          exact congrArg some
            (Pool.contents_eq_iff.mpr ⟨_, hlisted.filter fun entry => entry.1 != _, rfl⟩)
    · exact halike.pool? other
  ambience := hright.ambience.trans (halike.ambience.trans hleft.ambience.symm)
  trace := by
    have hfresh : second.isFresh connection.session = first.isFresh connection.session := by
      simp only [isFresh, halike.session?]
    rw [hright.notices, hleft.notices, ← Multiset.coe_add, ← Multiset.coe_add, halike.trace, hfresh,
      Multiset.coe_eq_coe.mpr (halike.closeNotices hperm reason _)]

/-- To close a connection in two networks that are alike has the same result, and makes two
networks that are alike. -/
theorem Alike.close (hsound : Sound first) (key : ConnectionKey) (reason : CloseReason) :
    (second.close quiet key reason).2 = (first.close quiet key reason).2 ∧
      Alike (first.close quiet key reason).1 (second.close quiet key reason).1 := by
  cases hconnection : first.connection? key with
  | none =>
      simp only [Network.close, hconnection, halike.connection?_eq_none hconnection, true_and]
      exact halike
  | some connection =>
      obtain ⟨live, hperm, hafter⟩ := halike.connection_after hconnection
      cases hclosed : connection.isClosed with
      | true =>
          simp only [Network.close, hconnection, hafter, hclosed, if_true, true_and]
          exact halike
      | false =>
          obtain ⟨left, hleft, hshuts⟩ := shuts_of_open hsound hconnection hclosed reason
          obtain ⟨right, hright, hshuts'⟩ :=
            shuts_of_open (halike.sound hsound) hafter hclosed reason
          rw [hleft, hright]
          exact ⟨rfl, hshuts.alike halike hperm hshuts'⟩

end Channels

/-! ## The order of the connections -/

section Apart

variable {found : Connection} (hcoherent : Coherent first)
  (hcloses : Closes first second key connection reason)
  (hconnection : first.connection? key = some connection)
  (hfound : first.connection? other = some found) (hne : other ≠ key)
include hcoherent hcloses hconnection hfound hne

theorem Closes.channel?_apart (hlive : id ∈ found.live) :
    second.channel? id = first.channel? id := by
  have hnot : id ∉ connection.live := fun hmem =>
    hne (hcoherent.listed_once ⟨found, hfound, hlive⟩ ⟨connection, hconnection, hmem⟩)
  rw [hcloses.channel?, if_neg hnot]

theorem Closes.carried?_apart (hlive : id ∈ found.live) :
    second.carried? id = first.carried? id := by
  refine carried?_congr (hcloses.channel?_apart hcoherent hconnection hfound hne hlive)
    fun target => ?_
  rw [hcloses.exchange?]
  split
  · cases first.exchange? target <;> rfl
  · rfl

theorem Closes.liveExchanges_apart : second.liveExchanges found = first.liveExchanges found :=
  List.filterMap_congr fun _ hlive =>
    hcloses.carried?_apart hcoherent hconnection hfound hne hlive

theorem Closes.cutStreams_apart :
    found.live.filterMap second.cutStream? = found.live.filterMap first.cutStream? := by
  refine List.filterMap_congr fun id hlive => ?_
  rw [cutStream?, cutStream?, hcloses.carried?_apart hcoherent hconnection hfound hne hlive,
    hcloses.channel?_apart hcoherent hconnection hfound hne hlive]

/-- The close of another connection is noticed as it would have been before. -/
theorem Closes.closeNotices_apart (fresh : Bool) :
    second.closeNotices other found reason fresh = first.closeNotices other found reason fresh := by
  have hthere : ∀ place, (second.session? place).isSome = (first.session? place).isSome := by
    intro place
    have houtline := congrArg Option.isSome (hcloses.session place)
    rw [Option.isSome_map] at houtline
    rw [houtline]
    split <;> rw [Option.isSome_map]
  have hcut : found.live.flatMap second.cutNotices = found.live.flatMap first.cutNotices := by
    refine List.flatMap_congr fun id hlive => ?_
    simp only [cutNotices, hcloses.channel?_apart hcoherent hconnection hfound hne hlive,
      hcloses.carried?_apart hcoherent hconnection hfound hne hlive, resetNotices_congr hthere]
  rw [closeNotices, closeNotices, hcut]

omit hcoherent hconnection hfound hne in
/-- The session of a connection that was closed is closed too. -/
theorem Closes.isFresh (session : SessionKey) :
    second.isFresh session = (first.isFresh session && decide (session ≠ connection.session)) := by
  have hread : ∀ network : Network α, network.isFresh session =
      ((network.session? session).map Session.outline).any fun outline => !outline.2 := by
    intro network
    rw [Option.any_map]
    rfl
  rw [hread, hread, hcloses.session]
  by_cases heq : session = connection.session
  · rw [if_pos heq]
    cases first.session? session <;> simp [heq]
  · rw [if_neg heq]
    simp [heq]

end Apart

/-- Two connections are closed in either order. -/
theorem Shuts.swap {found : Connection} (hcoherent : Coherent network)
    (hconnection : network.connection? key = some connection)
    (hfound : network.connection? other = some found) (hne : other ≠ key)
    (hone : Shuts network first key connection reason)
    (htwo : Shuts first second other found reason)
    (hone' : Shuts network left other found reason)
    (htwo' : Shuts left right key connection reason) : Alike second right where
  exchange? := by
    funext target
    simp only [htwo'.exchange?, hone'.exchange?, htwo.exchange?, hone.exchange?,
      hone.liveExchanges_apart hcoherent hconnection hfound hne,
      hone'.liveExchanges_apart hcoherent hfound hconnection hne.symm]
    split_ifs <;> rfl
  channel? := by
    funext id
    rw [htwo'.channel?, htwo.channel?]
    by_cases hleft : id ∈ connection.live
    · have hright : id ∉ found.live := fun hmem =>
        hne (hcoherent.listed_once ⟨found, hfound, hmem⟩ ⟨connection, hconnection, hleft⟩)
      rw [if_pos hleft, if_neg hright, hone.channel?, if_pos hleft, hone'.channel?, if_neg hright,
        hone'.carried?_apart hcoherent hfound hconnection hne.symm hleft]
    · rw [if_neg hleft, hone'.channel?, hone.channel?, if_neg hleft]
      by_cases hright : id ∈ found.live
      · rw [if_pos hright, if_pos hright,
          hone.carried?_apart hcoherent hconnection hfound hne hright]
      · rw [if_neg hright, if_neg hright]
  connection? place := by
    rw [htwo'.connection?, htwo.connection?, hone'.connection?, hone.connection?]
    by_cases hkey : place = key
    · rw [if_pos hkey, if_neg (fun heq => hne (heq.symm.trans hkey)), if_pos hkey]
    · rw [if_neg hkey, if_neg hkey]
  session? := by
    funext place
    rw [htwo'.session?, htwo.session?, hone'.session?, hone.session?,
      hone.cutStreams_apart hcoherent hconnection hfound hne,
      hone'.cutStreams_apart hcoherent hfound hconnection hne.symm]
    by_cases hleft : place = connection.session
    · by_cases hright : place = found.session
      · -- The session was closed once, and then lost the streams of both.
        simp only [if_pos hleft, if_pos hright, Option.map_map, Function.comp_def,
          Session.shut_shut]
        congr 1
        funext session
        exact session.shut_perm List.perm_append_comm
      · rw [if_pos hleft, if_neg hright, if_neg hright, if_pos hleft]
    · rw [if_neg hleft, if_neg hleft]
  pool? place := by
    rw [htwo'.pool?, htwo.pool?, hone'.pool?, hone.pool?]
    by_cases hleft : connection.destination = .pool place
    · by_cases hright : found.destination = .pool place
      · simp only [if_pos hleft, if_pos hright, Option.map_map, Function.comp_def,
          Pool.unlist_right_comm]
      · rw [if_pos hleft, if_neg hright, if_neg hright, if_pos hleft]
    · rw [if_neg hleft, if_neg hleft]
  ambience := htwo'.ambience.trans (hone'.ambience.trans
    (hone.ambience.symm.trans htwo.ambience.symm))
  trace := by
    rw [htwo'.notices, hone'.notices, htwo.notices, hone.notices,
      hone.closeNotices_apart hcoherent hconnection hfound hne,
      hone'.closeNotices_apart hcoherent hfound hconnection hne.symm, hone.isFresh, hone'.isFresh]
    -- If the session is the same, it is told of its first close by one connection or the other.
    by_cases hsame : found.session = connection.session
    · simp only [hsame, closeNotices, ne_eq, not_true_eq_false, decide_false, Bool.and_false,
        ← Multiset.coe_add, ← Multiset.cons_coe, ← Multiset.singleton_add]
      abel
    · simp only [hsame, Ne.symm hsame, ne_eq, not_false_eq_true, decide_true, Bool.and_true,
        ← Multiset.coe_add]
      abel

/-! ## Any order of the connections -/

section Sound

theorem Sound.close (hsound : Sound network) (key : ConnectionKey) (reason : CloseReason) :
    Sound (network.close quiet key reason).1 :=
  hsound.undergo (.close key reason)

theorem isOpen_close (hsound : Sound network) (hne : other ≠ key) (reason : CloseReason) :
    (network.close quiet key reason).1.isOpen other = network.isOpen other := by
  cases hopen : network.isOpen key with
  | false => rw [close_of_not_open hopen]
  | true =>
      obtain ⟨connection, hconnection, hnot⟩ := isOpen_iff.mp hopen
      obtain ⟨after, hclose, hcloses⟩ :=
        closes_of_open hsound.coherent hsound.housed hconnection hnot reason
      rw [hclose, isOpen, hcloses.connection?, if_neg hne, isOpen]

private theorem Sound.close_swap (hsound : Sound network) (key other : ConnectionKey)
    (reason : CloseReason) :
    Alike ((network.close quiet key reason).1.close quiet other reason).1
      ((network.close quiet other reason).1.close quiet key reason).1 := by
  by_cases heq : other = key
  · rw [heq]
    exact .refl _
  have hother := isOpen_close hsound heq reason
  have hkey := isOpen_close hsound (Ne.symm heq) reason
  cases hleft : network.isOpen key with
  | false =>
      rw [hleft] at hkey
      rw [close_of_not_open hleft, close_of_not_open hkey]
      exact .refl _
  | true =>
  cases hright : network.isOpen other with
  | false =>
      rw [hright] at hother
      rw [close_of_not_open hright, close_of_not_open hother]
      exact .refl _
  | true =>
      obtain ⟨connection, hconnection, hopen⟩ := isOpen_iff.mp hleft
      obtain ⟨found, hfound, hopen'⟩ := isOpen_iff.mp hright
      obtain ⟨first, hfirst, hone⟩ := shuts_of_open hsound hconnection hopen reason
      obtain ⟨left, hleft, hone'⟩ := shuts_of_open hsound hfound hopen' reason
      have hsound' : Sound first := by simpa only [hfirst] using hsound.close key reason
      have hsound'' : Sound left := by simpa only [hleft] using hsound.close other reason
      have hstays : first.connection? other = some found := by
        rw [hone.connection?, if_neg heq, hfound]
      have hstays' : left.connection? key = some connection := by
        rw [hone'.connection?, if_neg (Ne.symm heq), hconnection]
      obtain ⟨second, hsecond, htwo⟩ := shuts_of_open hsound' hstays hopen' reason
      obtain ⟨right, hright, htwo'⟩ := shuts_of_open hsound'' hstays' hopen reason
      rw [hfirst, hleft, hsecond, hright]
      exact hone.swap hsound.coherent hconnection hfound heq htwo hone' htwo'

end Sound

/-- To close several connections in two networks that are alike makes two networks that are
alike. -/
theorem Alike.closeInOrder_same (halike : Alike first second) (hsound : Sound first)
    (order : List ConnectionKey) :
    Alike (first.closeInOrder quiet order) (second.closeInOrder quiet order) := by
  induction order generalizing first second with
  | nil => exact halike
  | cons key rest ih =>
      exact ih (halike.close hsound key .requested).2 (hsound.close key .requested)

/-- It makes no difference in which order the connections are closed. -/
theorem Alike.closeInOrder (halike : Alike first second) (hsound : Sound first)
    {order others : List ConnectionKey} (hperm : order.Perm others) :
    Alike (first.closeInOrder quiet order) (second.closeInOrder quiet others) := by
  induction hperm generalizing first second with
  | nil => exact halike
  | cons key _ ih => exact ih (halike.close hsound key .requested).2 (hsound.close key .requested)
  | swap key other rest =>
      -- First the networks may differ, then the order of the two.
      have hsame := halike.closeInOrder_same hsound (other :: key :: rest)
      have hswapped : Alike (second.closeInOrder quiet (other :: key :: rest))
          (second.closeInOrder quiet (key :: other :: rest)) :=
        ((halike.sound hsound).close_swap other key .requested).closeInOrder_same
          (((halike.sound hsound).close other .requested).close key .requested) rest
      exact hsame.trans hswapped
  | trans _ _ ihleft ihright => exact (ihleft (.refl first) hsound).trans (ihright halike hsound)

/-- To close a pool in two networks that are alike makes two networks that are alike. -/
theorem Alike.closePool (halike : Alike first second) (hsound : Sound first) (place : PoolKey) :
    Alike (first.closePool quiet place) (second.closePool quiet place) := by
  cases hpool : first.pool? place with
  | none =>
      simp only [Network.closePool, hpool, halike.pool?_eq_none hpool]
      exact halike
  | some pool =>
      obtain ⟨listed, hperm, hafter⟩ := halike.pool_after hpool
      cases hclosed : pool.isClosed with
      | true =>
          simp only [Network.closePool, hpool, hafter, hclosed, if_true]
          exact halike
      | false =>
          rw [closePool_of_open hpool hclosed, closePool_of_open hafter hclosed]
          refine Alike.closeInOrder ?_ (hsound.undergo (.shutPool place)) (hperm.symm.map Prod.snd)
          refine { halike with pool? := fun other => ?_ }
          simp only [undergo, pool?_modifyPool]
          split
          next heq =>
            rw [heq, hpool, hafter]
            exact congrArg some (Pool.contents_eq_iff.mpr ⟨listed, hperm, rfl⟩)
          next => exact halike.pool? other

/-! ## What is noticed of each connection -/

/-- What is noticed of a close: the removal of the connection, the close of its session, and
the resets of its streams, in this order. -/
def farewell (network : Network α) (reason : CloseReason) (key : ConnectionKey) (fresh : Bool) :
    List Notice :=
  match network.connection? key with
  | none => []
  | some connection => network.closeNotices key connection reason fresh

/-- Connections were closed one after the other: of each its removal is noticed first, then the
close of its session, and then the resets of its streams. -/
def Dismisses (first second : Network α) (reason : CloseReason) (order : List ConnectionKey) :
    Prop :=
  ∃ fresh : ConnectionKey → Bool, second.trace.toList =
    first.trace.toList ++ order.flatMap fun key => first.farewell reason key (fresh key)

theorem dismisses_nil (network : Network α) (reason : CloseReason) :
    Dismisses network network reason [] :=
  ⟨fun _ => false, by simp⟩

theorem Shuts.dismisses_cons (hshuts : Shuts first second key connection reason)
    (hcoherent : Coherent first) (hconnection : first.connection? key = some connection)
    {rest : List ConnectionKey} (hnot : key ∉ rest)
    (hrest : Dismisses second third reason rest) : Dismisses first third reason (key :: rest) := by
  obtain ⟨fresh, htrace⟩ := hrest
  refine ⟨fun place => if place = key then first.isFresh connection.session else fresh place, ?_⟩
  have hsame : (rest.flatMap fun place => first.farewell reason place
      (if place = key then first.isFresh connection.session else fresh place)) =
      rest.flatMap fun place => second.farewell reason place (fresh place) := by
    refine List.flatMap_congr fun place hmem => ?_
    have hne : place ≠ key := fun heq => hnot (heq ▸ hmem)
    rw [if_neg hne, farewell, farewell, hshuts.connection?, if_neg hne]
    cases hfound : first.connection? place with
    | none => rfl
    | some found => exact (hshuts.closeNotices_apart hcoherent hconnection hfound hne _).symm
  have hfirst : first.farewell reason key (first.isFresh connection.session) =
      first.closeNotices key connection reason (first.isFresh connection.session) := by
    rw [farewell, hconnection]
  simp only [htrace, hshuts.notices, List.flatMap_cons, hsame, if_true, hfirst, List.append_assoc]

theorem dismisses_close (hsound : Sound network) (key : ConnectionKey) (reason : CloseReason) :
    Dismisses network (network.close quiet key reason).1 reason
      (if network.isOpen key then [key] else []) := by
  cases hopen : network.isOpen key with
  | false =>
      rw [close_of_not_open hopen]
      exact dismisses_nil network reason
  | true =>
      obtain ⟨connection, hconnection, hnot⟩ := isOpen_iff.mp hopen
      obtain ⟨second, hclose, hshuts⟩ := shuts_of_open hsound hconnection hnot reason
      rw [hclose]
      exact hshuts.dismisses_cons hsound.coherent hconnection List.not_mem_nil
        (dismisses_nil second reason)

private theorem dismisses_closeInOrder (hsound : Sound network) {order : List ConnectionKey}
    (hnodup : order.Nodup) (hopen : ∀ key ∈ order, network.isOpen key = true) :
    Dismisses network (network.closeInOrder quiet order) .requested order := by
  induction order generalizing network with
  | nil => exact dismisses_nil network .requested
  | cons key rest ih =>
      obtain ⟨hnot, hrest⟩ := List.nodup_cons.mp hnodup
      obtain ⟨connection, hconnection, hopened⟩ := isOpen_iff.mp (hopen key List.mem_cons_self)
      obtain ⟨second, hclose, hshuts⟩ :=
        shuts_of_open hsound hconnection hopened .requested
      have hsecond : second = (network.close quiet key .requested).1 := by rw [hclose]
      refine hshuts.dismisses_cons hsound.coherent hconnection hnot ?_
      rw [hsecond]
      refine ih (hsound.close key .requested) hrest fun other hmem => ?_
      have hne : other ≠ key := fun heq => hnot (heq ▸ hmem)
      rw [isOpen_close hsound hne]
      exact hopen other (List.mem_cons_of_mem _ hmem)

/-- The connections that are closed with a pool, in the order in which the pool lists them. -/
def closedWith (network : Network α) (place : PoolKey) : List ConnectionKey :=
  match network.pool? place with
  | none => []
  | some pool => if pool.isClosed then [] else pool.listed.map Prod.snd

private theorem Stocked.nodup_keys (hstocked : Stocked network)
    (hpool : network.pool? place = some pool) :
    (pool.listed.map Prod.snd).Nodup := by
  have honce := hstocked.once hpool
  rw [List.Nodup, List.pairwise_map] at honce ⊢
  refine honce.imp_of_mem fun {entry other} hentry hother hne hsame => hne ?_
  obtain ⟨connection, hconnection, hid, -⟩ := (hstocked.listed hpool).mp hentry
  obtain ⟨found, hfound, hid', -⟩ := (hstocked.listed hpool).mp hother
  obtain rfl := Option.some.inj (hconnection.symm.trans (hsame ▸ hfound))
  exact hid.symm.trans hid'

theorem dismisses_closePool (hsound : Sound network) (hstocked : Stocked network)
    (halike : Alike network first) (place : PoolKey) :
    Dismisses first (first.closePool quiet place) .requested (first.closedWith place) := by
  unfold closedWith
  cases hthere : first.pool? place with
  | none =>
      simp only [Network.closePool, hthere]
      exact dismisses_nil first _
  | some pool =>
      cases hclosed : pool.isClosed with
      | true =>
          simp only [Network.closePool, hthere, hclosed, if_true]
          exact dismisses_nil first _
      | false =>
          obtain ⟨listed, hperm, hpool⟩ := halike.symm.pool_after hthere
          have hnodup : (pool.listed.map Prod.snd).Nodup :=
            (hperm.map Prod.snd).nodup_iff.mp (hstocked.nodup_keys hpool)
          have hdismisses := dismisses_closeInOrder
            ((halike.sound hsound).undergo (.shutPool place)) hnodup ?_
          · simp only [hclosed, Bool.false_eq_true, if_false]
            rw [closePool_of_open hthere hclosed]
            exact hdismisses
          intro key hmem
          obtain ⟨⟨number, same⟩, hentry, rfl⟩ := List.mem_map.mp hmem
          obtain ⟨connection, hconnection, -, -, hopen⟩ :=
            (hstocked.listed hpool).mp (hperm.mem_iff.mpr hentry)
          obtain ⟨live, -, hafter⟩ := halike.connection_after hconnection
          exact isOpen_iff.mpr ⟨_, hafter, hopen⟩

/-! ## Every order -/

/-- In every network that dealings lead to, it makes no difference in which order a connection
aborts its channels and in which order a pool closes its connections.  Whatever the orders are
in which things are listed, the results are alike: exchanges with their outcomes, channels,
connections, sessions and pools are the same, and the same is noticed as often.  Of each
connection its removal is noticed first, then the close of its session, and then the resets of
its streams. -/
theorem closing_ignores_order (surroundings : α) (answer : Answering α) (dealings : List Dealing)
    (hleft : Alike ((blank surroundings).deals answer dealings) left)
    (hright : Alike ((blank surroundings).deals answer dealings) right) :
    (∀ key reason, (right.close quiet key reason).2 = (left.close quiet key reason).2 ∧
      Alike (left.close quiet key reason).1 (right.close quiet key reason).1 ∧
      Dismisses left (left.close quiet key reason).1 reason
        (if left.isOpen key then [key] else []) ∧
      Dismisses right (right.close quiet key reason).1 reason
        (if right.isOpen key then [key] else [])) ∧
    ∀ place, Alike (left.closePool quiet place) (right.closePool quiet place) ∧
      Dismisses left (left.closePool quiet place) .requested (left.closedWith place) ∧
      Dismisses right (right.closePool quiet place) .requested (right.closedWith place) := by
  have hsound := (sound_blank surroundings).deals answer dealings
  have hstocked := (stocked_blank surroundings).deals (sound_blank surroundings) answer dealings
  have halike : Alike left right := hleft.symm.trans hright
  have hsound' := hleft.sound hsound
  refine ⟨fun key reason => ?_, fun place => ?_⟩
  · obtain ⟨hresult, hclosed⟩ := halike.close hsound' key reason
    exact ⟨hresult, hclosed, dismisses_close hsound' key reason,
      dismisses_close (hright.sound hsound) key reason⟩
  · exact ⟨halike.closePool hsound' place, dismisses_closePool hsound hstocked hleft place,
      dismisses_closePool hsound hstocked hright place⟩

/-- The pool and its full connection list the same in another order, and are closed. -/
theorem closed_in_two_orders :
    let network := (blank ()).deals steadfast crowdedDealings
    let other := (network.rearrange ⟨1⟩ [(⟨2⟩, ⟨2⟩), (⟨1⟩, ⟨1⟩)]).modifyConnection ⟨1⟩ fun found =>
      { found with live := [⟨2⟩, ⟨1⟩] }
    Alike network other ∧ Alike (network.closePool quiet ⟨1⟩) (other.closePool quiet ⟨1⟩) ∧
      network.closedWith ⟨1⟩ = [⟨1⟩, ⟨2⟩] ∧ other.closedWith ⟨1⟩ = [⟨2⟩, ⟨1⟩] ∧
      (network.closePool quiet ⟨1⟩).trace ≠ (other.closePool quiet ⟨1⟩).trace := by
  intro network other
  have hother : Alike network other := by
    have hlive : ((network.rearrange ⟨1⟩ [(⟨2⟩, ⟨2⟩), (⟨1⟩, ⟨1⟩)]).connection? ⟨1⟩).map
        Connection.live = some [⟨1⟩, ⟨2⟩] := by decide +kernel
    exact (Alike.rearrange network ⟨1⟩ _).trans (Alike.reorder _ hlive (List.Perm.swap _ _ _))
  obtain ⟨hclosed, -⟩ :=
    (closing_ignores_order () steadfast crowdedDealings (.refl network) hother).2 ⟨1⟩
  exact ⟨hother, hclosed, by decide +kernel, by decide +kernel, by decide +kernel⟩

end Network

end Multiplex
