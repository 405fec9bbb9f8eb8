import Mathlib.Algebra.GroupWithZero.Nat
import Mathlib.Data.List.Nodup
import Multiplex.Proofs.Pool.Shutdown

/-!
# No channel of a pool is lost or counted twice

Every exchange that a pool accepts gets a channel of its own.  At any time the channel was
released while its connection was open, and then the pool has counted it; or it is under way
on a connection that the pool lists; or it was under way when its connection was closed.
`Ledger` says that these are all channels and that none of them appears twice.

An act changes the ledger by moving channels: a send enters a new channel, the end of a
channel moves it from those under way to those that were counted, and the close of a
connection moves everything under way on it to what is cut off.  The number of channels that
are entered is the number of exchanges that the pool accepts.
-/

namespace Multiplex

namespace Network

variable {α : Type} {network first second : Network α} {key : ConnectionKey} {place : PoolKey}
  {id : ChannelId} {target : ExchangeId} {connection : Connection} {pool : Pool}
  {answer : Answering α} {released cut : List ChannelId} {count : Nat}

/-! ## Where the channels of a pool are -/

/-- The channels under way on a connection. -/
def liveOn (network : Network α) (key : ConnectionKey) : List ChannelId :=
  (network.connection? key).elim [] Connection.live

/-- The channels under way on the connections that a pool lists. -/
def underWay (network : Network α) (place : PoolKey) : List ChannelId :=
  (network.pool? place).elim [] fun pool => pool.listed.flatMap fun entry => network.liveOn entry.2

/-- So many releases a pool has counted. -/
def releases (network : Network α) (place : PoolKey) : Nat :=
  (network.pool? place).elim 0 Pool.releases

/-- What an act does to the channels of a pool: some are entered, some of those under way are
released and counted, and some are cut off. -/
structure Moves (first second : Network α) (place : PoolKey)
    (entered ended gone : List ChannelId) : Prop where
  releases : second.releases place = first.releases place + ended.length
  live : (ended ++ gone ++ second.underWay place).Perm (entered ++ first.underWay place)
  nodup : entered.Nodup
  fresh : ∀ id ∈ entered, first.channel? id = none
  done : ∀ id ∈ ended, id ∈ first.underWay place ∧
    ∃ channel, second.channel? id = some channel ∧ channel.released = true
  cut : ∀ id ∈ gone, id ∈ first.underWay place

/-- The channels of a pool, so many of them: those that were released, those that are under
way, and those that were cut off. -/
structure Ledger (network : Network α) (place : PoolKey) (released cut : List ChannelId)
    (count : Nat) : Prop where
  releases : network.releases place = released.length
  nodup : (released ++ network.underWay place ++ cut).Nodup
  count : (released ++ network.underWay place ++ cut).length = count
  done : ∀ id ∈ released, ∃ channel, network.channel? id = some channel ∧ channel.released = true
  there : ∀ id ∈ cut, (network.channel? id).isSome = true

end Network

/-- Whether a dealing is with a pool itself. -/
def Dealing.isPooled : Dealing → Bool
  | .send .. | .acquire .. | .close .. => true
  | _ => false

/-- The channels of a pool that are cut off by an act, because it closes their connection. -/
def Act.cutOff {α : Type} (place : PoolKey) (act : Act α) : List ChannelId :=
  match act.network.happening act.operation with
  | .closed key _ =>
    (act.network.connection? key).elim [] fun connection =>
      if connection.destination = .pool place then connection.live else []
  | _ => []

namespace Network

variable {α : Type} {network first second : Network α} {key : ConnectionKey} {place : PoolKey}
  {id : ChannelId} {target : ExchangeId} {connection : Connection} {pool : Pool}
  {answer : Answering α} {released cut : List ChannelId} {count : Nat} {operation : Operation}

/-! ## Bookkeeping -/

theorem Ledger.step {entered ended gone : List ChannelId}
    (hledger : Ledger first place released cut count) (hlater : Later first second)
    (hthere : ∀ id ∈ first.underWay place, (first.channel? id).isSome = true)
    (hmoves : Moves first second place entered ended gone) :
    Ledger second place (released ++ ended) (cut ++ gone) (count + entered.length) := by
  -- Both sides have the same channels, each as often.
  have hperm : (released ++ ended ++ second.underWay place ++ (cut ++ gone)).Perm
      (entered ++ (released ++ first.underWay place ++ cut)) := by
    rw [List.perm_iff_count]
    intro id
    have hcount := List.perm_iff_count.mp hmoves.live id
    simp only [List.count_append] at hcount ⊢
    omega
  have hnew : ∀ id ∈ entered, id ∉ released ++ first.underWay place ++ cut := by
    intro id hmem hold
    have hnone := hmoves.fresh id hmem
    rcases List.mem_append.mp hold with hold | hold
    · rcases List.mem_append.mp hold with hold | hold
      · obtain ⟨channel, hchannel, -⟩ := hledger.done id hold
        simp [hnone] at hchannel
      · have hsome := hthere id hold
        simp [hnone] at hsome
    · have hsome := hledger.there id hold
      simp [hnone] at hsome
  have hstays : ∀ {id}, (first.channel? id).isSome = true →
      (second.channel? id).isSome = true := by
    intro id hsome
    obtain ⟨before, hbefore⟩ := Option.isSome_iff_exists.mp hsome
    obtain ⟨after, hafter, -⟩ := hlater.channel hbefore
    rw [hafter, Option.isSome_some]
  refine ⟨?_, ?_, ?_, fun id hmem => ?_, fun id hmem => ?_⟩
  · rw [hmoves.releases, hledger.releases, List.length_append]
  · rw [hperm.nodup_iff, List.nodup_append]
    refine ⟨hmoves.nodup, hledger.nodup, fun id hmem other hold heq => ?_⟩
    exact hnew id hmem (heq ▸ hold)
  · rw [hperm.length_eq, List.length_append, hledger.count, Nat.add_comm]
  · rcases List.mem_append.mp hmem with hold | hnow
    · obtain ⟨before, hbefore, hover⟩ := hledger.done id hold
      obtain ⟨after, hafter, hages⟩ := hlater.channel hbefore
      exact ⟨after, hafter, hages.released hover⟩
    · exact (hmoves.done id hnow).2
  · rcases List.mem_append.mp hmem with hold | hnow
    · exact hstays (hledger.there id hold)
    · exact hstays (hthere id (hmoves.cut id hnow))

theorem Moves.still (hreleases : second.releases place = first.releases place)
    (hlive : second.underWay place = first.underWay place) : Moves first second place [] [] [] where
  releases := hreleases
  live := .of_eq hlive
  nodup := .nil
  fresh := by simp
  done := by simp
  cut := by simp

/-! ## What a connection carries -/

theorem liveOn_of_some (hconnection : network.connection? key = some connection) :
    network.liveOn key = connection.live := by
  rw [liveOn, hconnection, Option.elim_some]

theorem underWay_of_some (hpool : network.pool? place = some pool) :
    network.underWay place = pool.listed.flatMap fun entry => network.liveOn entry.2 := by
  rw [underWay, hpool, Option.elim_some]

theorem releases_of_some (hpool : network.pool? place = some pool) :
    network.releases place = pool.releases := by
  rw [releases, hpool, Option.elim_some]

theorem releases_congr (hpool : (second.pool? place).map Pool.releases =
      (first.pool? place).map Pool.releases) : second.releases place = first.releases place := by
  have hmap : ∀ reached : Network α, reached.releases place =
      ((reached.pool? place).map Pool.releases).elim 0 id := fun reached => by
    rw [releases]
    cases reached.pool? place <;> rfl
  rw [hmap, hmap, hpool]

/-- What is under way for a pool is listed by a connection. -/
theorem Stocked.registered (hstocked : Stocked network) (hmem : id ∈ network.underWay place) :
    ∃ key, network.Registered key id ∧ ∃ pool number, network.pool? place = some pool ∧
      (number, key) ∈ pool.listed := by
  cases hpool : network.pool? place with
  | none => simp [underWay, hpool] at hmem
  | some pool =>
      rw [underWay_of_some hpool] at hmem
      obtain ⟨⟨number, key⟩, hlisted, hlive⟩ := List.mem_flatMap.mp hmem
      obtain ⟨connection, hconnection, -⟩ := (hstocked.listed hpool).mp hlisted
      rw [liveOn_of_some hconnection] at hlive
      exact ⟨key, ⟨connection, hconnection, hlive⟩, pool, number, rfl, hlisted⟩

/-- Where pools list the same and the listed connections carry the same, the same is under
way. -/
theorem underWay_congr (hpool : (second.pool? place).map Pool.listed =
      (first.pool? place).map Pool.listed)
    (hlive : ∀ {pool number key}, first.pool? place = some pool → (number, key) ∈ pool.listed →
      second.liveOn key = first.liveOn key) :
    second.underWay place = first.underWay place := by
  cases hbefore : first.pool? place with
  | none =>
      rw [hbefore, Option.map_none, Option.map_eq_none_iff] at hpool
      rw [underWay, underWay, hpool, hbefore]
      rfl
  | some before =>
      rw [hbefore, Option.map_some] at hpool
      obtain ⟨after, hafter, hlisted⟩ := Option.map_eq_some_iff.mp hpool
      rw [underWay_of_some hafter, underWay_of_some hbefore, hlisted]
      exact List.flatMap_congr fun entry hmem => hlive hbefore hmem

/-- One connection of a pool may be taken apart from the others. -/
theorem underWay_perm (hpool : network.pool? place = some pool)
    (hconnection : network.connection? key = some connection)
    (hlisted : (connection.id, key) ∈ pool.listed) :
    (network.underWay place).Perm (connection.live ++
      (pool.listed.erase (connection.id, key)).flatMap fun entry => network.liveOn entry.2) := by
  have hapart := (List.perm_cons_erase hlisted).flatMap_right fun entry => network.liveOn entry.2
  rw [List.flatMap_cons, liveOn_of_some hconnection] at hapart
  rwa [underWay_of_some hpool]

theorem Stocked.ne_of_mem_erase (hstocked : Stocked network)
    (hpool : network.pool? place = some pool)
    (hconnection : network.connection? key = some connection)
    {entry : ConnectionId × ConnectionKey}
    (hmem : entry ∈ pool.listed.erase (connection.id, key)) : entry.2 ≠ key := by
  rintro rfl
  have hnodup : pool.listed.Nodup := List.Nodup.of_map _ (hstocked.once hpool)
  obtain ⟨hne, hlisted⟩ := hnodup.mem_erase_iff.mp hmem
  obtain ⟨same, hsame, hid, -⟩ := (hstocked.listed hpool).mp hlisted
  obtain rfl := Option.some.inj (hconnection.symm.trans hsame)
  exact hne (Prod.ext hid.symm rfl)

/-! ## What an act moves -/

theorem cutOff_of_idle (hidle : Act.Idle ⟨first, operation⟩) (place : PoolKey) :
    Act.cutOff place ⟨first, operation⟩ = [] := by
  unfold Act.cutOff
  split
  next key reason hclosed => exact absurd hclosed (hidle.2 key reason)
  next => rfl

theorem Rests.conserves (hrests : Rests first second) (hsound : Sound first) (place : PoolKey) :
    second.releases place = first.releases place ∧
      second.underWay place = first.underWay place := by
  cases hbefore : first.pool? place with
  | none =>
      cases hafter : second.pool? place with
      | none => simp [releases, underWay, hbefore, hafter]
      | some after =>
          have hnew := (hrests.pool place).fresh_of_none hbefore hafter
          simp [releases, underWay, hbefore, hafter, hnew.1, hnew.2.1]
  | some before =>
      obtain ⟨after, hafter, rfl⟩ := (hrests.pool place).exists_after hbefore
      refine ⟨by rw [releases_of_some hafter, releases_of_some hbefore], ?_⟩
      refine underWay_congr (by rw [hafter, hbefore]) fun hpool hlisted => ?_
      obtain ⟨connection, hconnection, -⟩ := hsound.housed.listed hpool hlisted
      obtain ⟨kept, hkept, hstays⟩ := (hrests.connection _).exists_after hconnection
      rw [liveOn_of_some hconnection, liveOn_of_some hkept, hstays.live]

theorem Opens.conserves {transport : Transport} {opener : PoolKey} (hsound : Sound first)
    (hstocked : Stocked first) (hopener : first.pool? opener = some pool)
    (hopens : Opens first second opener pool transport) (place : PoolKey) :
    second.releases place = first.releases place ∧
      second.underWay place = first.underWay place := by
  have hlive : ∀ {found : Pool} {number key}, first.pool? place = some found →
      (number, key) ∈ found.listed → second.liveOn key = first.liveOn key := by
    intro found number key hfound hlisted
    obtain ⟨connection, hconnection, -⟩ := hsound.housed.listed hfound hlisted
    have hne : key ≠ first.nextConnection := by
      rintro rfl
      simp at hconnection
    rw [liveOn, liveOn, hopens.connection?, if_neg hne]
  by_cases heq : place = opener
  · subst heq
    have hafter := (hopens.pool? place).trans (if_pos rfl)
    have hnew : second.liveOn first.nextConnection = [] := by
      rw [liveOn_of_some ((hopens.connection? _).trans (if_pos rfl))]
      rfl
    refine ⟨by rw [releases_of_some hafter, releases_of_some hopener]; rfl, ?_⟩
    rw [underWay_of_some hafter, hstocked.listed_list hsound.housed hopener, List.flatMap_append,
      underWay_of_some hopener]
    simp only [List.flatMap_cons, List.flatMap_nil, hnew, List.append_nil]
    exact List.flatMap_congr fun entry hmem => hlive hopener hmem
  · have hafter := (hopens.pool? place).trans (if_neg heq)
    refine ⟨by rw [releases, releases, hafter], ?_⟩
    exact underWay_congr (by rw [hafter]) hlive

section Moves

variable (hsound : Sound first) (hstocked : Stocked first)
include hsound hstocked

theorem listed_of_listedIn (hlisted : first.listedIn place id = true) :
    ∃ key connection pool, first.connection? key = some connection ∧ id ∈ connection.live ∧
      first.pool? place = some pool ∧ (connection.id, key) ∈ pool.listed := by
  obtain ⟨channel, -, hany⟩ := (Option.any_eq_true ..).mp hlisted
  obtain ⟨key, -, hany⟩ := (Option.any_eq_true ..).mp hany
  obtain ⟨connection, hconnection, hboth⟩ := (Option.any_eq_true ..).mp hany
  simp only [Bool.and_eq_true, List.contains_iff_mem, decide_eq_true_eq] at hboth
  obtain ⟨hlive, hdestination⟩ := hboth
  obtain ⟨pool, hpool, -⟩ := hsound.housed.numbered hconnection hdestination
  exact ⟨key, connection, pool, hconnection, hlive, hpool, (hstocked.listed hpool).mpr
    ⟨connection, hconnection, rfl, hdestination, hsound.open_of_live hconnection hlive⟩⟩

private theorem underWay_of_ends (hlisted : first.listedIn place id = true)
    (hconnection : ∀ key, second.connection? key =
      (first.connection? key).map fun found => found.drop id)
    (hpool : (second.pool? place).map Pool.listed = (first.pool? place).map Pool.listed) :
    ([id] ++ second.underWay place).Perm (first.underWay place) := by
  obtain ⟨key, connection, pool, hthere, hlive, hfound, hentry⟩ :=
    listed_of_listedIn hsound hstocked hlisted
  have hafter : second.connection? key = some (connection.drop id) := by
    rw [hconnection, hthere, Option.map_some]
  rw [hfound, Option.map_some] at hpool
  obtain ⟨later, hlater, hsame⟩ := Option.map_eq_some_iff.mp hpool
  have hentry' : ((connection.drop id).id, key) ∈ later.listed := hsame ▸ hentry
  have hothers : ((later.listed.erase (connection.id, key)).flatMap fun entry =>
      second.liveOn entry.2) = (pool.listed.erase (connection.id, key)).flatMap fun entry =>
        first.liveOn entry.2 := by
    rw [hsame]
    refine List.flatMap_congr fun entry hmem => ?_
    have hne := hstocked.ne_of_mem_erase hfound hthere hmem
    -- No other connection lists the channel.
    cases hother : first.connection? entry.2 with
    | none => simp [liveOn, hconnection, hother]
    | some found =>
        have hnot : id ∉ found.live := fun hmem =>
          hne (hsound.coherent.listed_once ⟨found, hother, hmem⟩ ⟨connection, hthere, hlive⟩)
        rw [liveOn, hconnection, hother, Option.map_some, Option.elim_some,
          Connection.drop_of_notMem hnot, liveOn_of_some hother]
  have htaken : ([id] ++ (connection.drop id).live).Perm connection.live := by
    have hnodup := hsound.coherent.nodup hthere
    have herase : (connection.drop id).live = connection.live.erase id :=
      (hnodup.erase_eq_filter id).symm
    rw [herase]
    exact (List.perm_cons_erase hlive).symm
  let others := (pool.listed.erase (connection.id, key)).flatMap fun entry => first.liveOn entry.2
  have hsecond : (second.underWay place).Perm ((connection.drop id).live ++ others) := by
    have hperm := underWay_perm hlater hafter hentry'
    rwa [show (connection.drop id).id = connection.id from rfl, hothers] at hperm
  have hfirst : (first.underWay place).Perm (connection.live ++ others) :=
    underWay_perm hfound hthere hentry
  calc
    List.Perm ([id] ++ second.underWay place) ([id] ++ ((connection.drop id).live ++ others)) :=
      hsecond.append_left [id]
    List.Perm _ (([id] ++ (connection.drop id).live) ++ others) := by rw [List.append_assoc]
    List.Perm _ (connection.live ++ others) := htaken.append_right others
    List.Perm _ (first.underWay place) := hfirst.symm

private theorem underWay_of_ends_elsewhere (hlisted : first.listedIn place id = false)
    (hconnection : ∀ key, second.connection? key =
      (first.connection? key).map fun found => found.drop id)
    (hpool : (second.pool? place).map Pool.listed = (first.pool? place).map Pool.listed) :
    second.underWay place = first.underWay place := by
  refine underWay_congr hpool fun {pool number key} hfound hentry => ?_
  obtain ⟨connection, hthere, -, hdestination, -⟩ := (hstocked.listed hfound).mp hentry
  have hnot : id ∉ connection.live := by
    intro hlive
    obtain ⟨channel, hchannel, -, howner, -⟩ := hsound.atHome id key ⟨connection, hthere, hlive⟩
    rw [listedIn_of_owner hchannel howner, hthere] at hlisted
    simp [hlive, hdestination] at hlisted
  rw [liveOn, hconnection, hthere, Option.map_some, Option.elim_some,
    Connection.drop_of_notMem hnot, liveOn_of_some hthere]

private theorem underWay_of_closes (hconnection : first.connection? key = some connection)
    (hopen : connection.isClosed = false) (hdestination : connection.destination = .pool place)
    (hothers : ∀ other, other ≠ key → second.connection? other = first.connection? other)
    (hpool : second.pool? place = (first.pool? place).map fun pool => pool.unlist connection.id) :
    (connection.live ++ second.underWay place).Perm (first.underWay place) := by
  obtain ⟨pool, hfound, -⟩ := hsound.housed.numbered hconnection hdestination
  have hentry : (connection.id, key) ∈ pool.listed :=
    (hstocked.listed hfound).mpr ⟨connection, hconnection, rfl, hdestination, hopen⟩
  have hnodup : pool.listed.Nodup := List.Nodup.of_map _ (hstocked.once hfound)
  -- Only the closed connection has its number.
  have hunlist : (pool.unlist connection.id).listed = pool.listed.erase (connection.id, key) := by
    rw [hnodup.erase_eq_filter]
    refine List.filter_congr fun entry hmem => ?_
    obtain ⟨number, other⟩ := entry
    obtain ⟨found, hthere, hid, hgoes, -⟩ := (hstocked.listed hfound).mp hmem
    by_cases hsame : number = connection.id
    · have hkey : other = key := hsound.housed.unique hthere hconnection hgoes hdestination
        (hid.trans hsame)
      simp [hsame, hkey]
    · have hne : (number, other) ≠ (connection.id, key) := fun heq => hsame (congrArg Prod.fst heq)
      rw [bne_iff_ne.mpr hsame, bne_iff_ne.mpr hne]
  have hrest : second.underWay place =
      (pool.listed.erase (connection.id, key)).flatMap fun entry => first.liveOn entry.2 := by
    rw [hfound, Option.map_some] at hpool
    rw [underWay_of_some hpool, hunlist]
    refine List.flatMap_congr fun entry hmem => ?_
    have hne := hstocked.ne_of_mem_erase hfound hconnection hmem
    rw [liveOn, liveOn, hothers _ hne]
  rw [hrest]
  exact (underWay_perm hfound hconnection hentry).symm

private theorem underWay_of_dispatches (hconnection : first.connection? key = some connection)
    (hopen : connection.isClosed = false) (hdestination : connection.destination = .pool place)
    (hafter : ∀ other, second.connection? other =
      if other = key then some (connection.register id) else first.connection? other)
    (hpool : second.pool? place = first.pool? place) :
    (second.underWay place).Perm ([id] ++ first.underWay place) := by
  obtain ⟨pool, hfound, -⟩ := hsound.housed.numbered hconnection hdestination
  have hentry : (connection.id, key) ∈ pool.listed :=
    (hstocked.listed hfound).mpr ⟨connection, hconnection, rfl, hdestination, hopen⟩
  have hthere : second.connection? key = some (connection.register id) :=
    (hafter key).trans (if_pos rfl)
  let others := (pool.listed.erase (connection.id, key)).flatMap fun entry => first.liveOn entry.2
  have hsecond : (second.underWay place).Perm ((connection.register id).live ++ others) := by
    have hperm := underWay_perm (hpool.trans hfound) hthere hentry
    have hothers : ((pool.listed.erase ((connection.register id).id, key)).flatMap fun entry =>
        second.liveOn entry.2) = others := by
      refine List.flatMap_congr fun entry hmem => ?_
      have hne := hstocked.ne_of_mem_erase hfound hconnection hmem
      rw [liveOn, liveOn, hafter, if_neg hne]
    rwa [hothers] at hperm
  have hfirst : (first.underWay place).Perm (connection.live ++ others) :=
    underWay_perm hfound hconnection hentry
  calc
    List.Perm (second.underWay place) (connection.live ++ [id] ++ others) := hsecond
    List.Perm _ ([id] ++ connection.live ++ others) :=
      List.perm_append_comm.append_right others
    List.Perm _ ([id] ++ (connection.live ++ others)) := by rw [List.append_assoc]
    List.Perm _ ([id] ++ first.underWay place) := hfirst.symm.append_left [id]

omit hsound in
theorem underWay_of_elsewhere (hconnection : first.connection? key = some connection)
    (hdestination : connection.destination ≠ .pool place)
    (hothers : ∀ other, other ≠ key → second.connection? other = first.connection? other)
    (hpool : second.pool? place = first.pool? place) :
    second.underWay place = first.underWay place := by
  refine underWay_congr (by rw [hpool]) fun {pool number other} hfound hentry => ?_
  obtain ⟨found, hthere, -, hgoes, -⟩ := (hstocked.listed hfound).mp hentry
  have hne : other ≠ key := by
    rintro rfl
    obtain rfl := Option.some.inj (hconnection.symm.trans hthere)
    exact hdestination hgoes
  rw [liveOn, liveOn, hothers other hne]

/-- The channel that an act enters for a pool, if it dispatches an exchange on one of its
connections. -/
def enteredBy (first : Network α) (place : PoolKey) (operation : Operation) : List ChannelId :=
  if Act.dispatches place ⟨first, operation⟩ then [first.nextChannel] else []

private theorem moves_of_ends (hlater : Later first second)
    (hconnection : ∀ key, second.connection? key =
      (first.connection? key).map fun found => found.drop id)
    (hpool : ∀ place, second.pool? place = (first.pool? place).map fun pool =>
      pool.tally (first.listedIn place id).toNat)
    (hover : ∀ after, second.channel? id = some after → after.released = true)
    (place : PoolKey) : ∃ ended, Moves first second place [] ended [] := by
  have hlisted : (second.pool? place).map Pool.listed = (first.pool? place).map Pool.listed := by
    rw [hpool, Option.map_map]
    rfl
  cases hmine : first.listedIn place id with
  | false =>
      refine ⟨[], .still (releases_congr ?_) ?_⟩
      · rw [hpool, hmine, Option.map_map]
        rfl
      · exact underWay_of_ends_elsewhere hsound hstocked hmine hconnection hlisted
  | true =>
      obtain ⟨key, connection, pool, hfound, hlive, hthis, -⟩ :=
        listed_of_listedIn hsound hstocked hmine
      obtain ⟨channel, hchannel, -⟩ := hsound.atHome id key ⟨connection, hfound, hlive⟩
      obtain ⟨after, hafter, -⟩ := hlater.channel hchannel
      have hmoved := underWay_of_ends hsound hstocked hmine hconnection hlisted
      refine ⟨[id], ?_, by simpa using hmoved, .nil, by simp, fun other hmem => ?_, by simp⟩
      · rw [releases_of_some hthis, releases, hpool, hthis, hmine]
        rfl
      · obtain rfl := List.mem_singleton.mp hmem
        exact ⟨hmoved.subset (by simp), after, hafter, hover after hafter⟩

private theorem moves_of_closes (hconnection : first.connection? key = some connection)
    (hopen : connection.isClosed = false) (hothers : ∀ other, second.connection? other =
      if other = key then some { connection with isClosed := true, live := [] }
      else first.connection? other)
    (hpool : ∀ place, second.pool? place = if connection.destination = .pool place then
        (first.pool? place).map fun pool => pool.unlist connection.id
      else first.pool? place) (place : PoolKey) :
    Moves first second place [] []
      (if connection.destination = .pool place then connection.live else []) := by
  have helse : ∀ other, other ≠ key → second.connection? other = first.connection? other :=
    fun other hne => (hothers other).trans (if_neg hne)
  split
  next hdestination =>
    have hunlisted := (hpool place).trans (if_pos hdestination)
    have hmoved := underWay_of_closes hsound hstocked hconnection hopen hdestination helse hunlisted
    refine ⟨releases_congr ?_, by simpa using hmoved, .nil, by simp, by simp,
      fun id hlive => hmoved.subset (List.mem_append_left _ hlive)⟩
    rw [hunlisted, Option.map_map]
    rfl
  next hdestination =>
    have hsame := (hpool place).trans (if_neg hdestination)
    have hlive := underWay_of_elsewhere hstocked hconnection hdestination helse hsame
    exact .still (releases_congr (by rw [hsame])) hlive

private theorem moves_of_dispatches (hconnection : first.connection? key = some connection)
    (hopen : connection.isClosed = false) (hothers : ∀ other, second.connection? other =
      if other = key then some (connection.register first.nextChannel)
      else first.connection? other)
    (hpool : second.pool? = first.pool?) (place : PoolKey) :
    Moves first second place
      (if connection.destination = .pool place then [first.nextChannel] else []) [] [] := by
  have hplace : second.pool? place = first.pool? place := congrFun hpool place
  split
  next hdestination =>
    have hmoved := underWay_of_dispatches hsound hstocked hconnection hopen hdestination hothers
      hplace
    exact ⟨releases_congr (by rw [hplace]), by simpa using hmoved, by simp, by simp, by simp,
      by simp⟩
  next hdestination =>
    have helse : ∀ other, other ≠ key → second.connection? other = first.connection? other :=
      fun other hne => (hothers other).trans (if_neg hne)
    have hlive := underWay_of_elsewhere hstocked hconnection hdestination helse hplace
    exact .still (releases_congr (by rw [hplace])) hlive

/-- What an act does to the channels of a pool: a dispatch enters one, the end of one under way
is counted, and a close cuts off what its connection carries. -/
theorem moves_of_turns (hlater : Later first second) (hturns : Turns first operation second)
    (place : PoolKey) : ∃ ended, Moves first second place (first.enteredBy place operation) ended
      (Act.cutOff place ⟨first, operation⟩) := by
  -- An act that neither dispatches nor closes enters nothing and cuts nothing off.
  have hidle : ∀ {operation : Operation}, Act.cutOff place ⟨first, operation⟩ = [] →
      Act.dispatches place ⟨first, operation⟩ = false →
      (∃ ended, Moves first second place [] ended []) →
      ∃ ended, Moves first second place (first.enteredBy place operation) ended
        (Act.cutOff place ⟨first, operation⟩) := by
    intro operation hcut hnot hmoves
    rwa [hcut, enteredBy, hnot, if_neg Bool.false_ne_true]
  cases hturns with
  | rests hnone hrests =>
      obtain ⟨hreleases, hlive⟩ := hrests.conserves hsound place
      exact hidle (cutOff_of_idle hnone place) (hnone.1 place) ⟨[], .still hreleases hlive⟩
  | @shuts other =>
      refine hidle rfl rfl ⟨[], .still (releases_congr ?_) (underWay_congr ?_ fun _ _ => rfl)⟩
      all_goals
        rw [pool?_modifyPool]
        split
        · rw [Option.map_map]
          rfl
        · rfl
  | opens hpool hopens =>
      obtain ⟨hreleases, hlive⟩ := hopens.conserves hsound hstocked hpool place
      exact hidle rfl rfl ⟨[], .still hreleases hlive⟩
  | @misses other pool _ hpool hmisses =>
      have hlive : second.liveOn = first.liveOn := by
        funext key
        rw [liveOn, liveOn, hmisses.connection?]
      refine hidle rfl rfl
        ⟨[], .still (releases_congr ?_) (underWay_congr ?_ fun _ _ => congrFun hlive _)⟩
      all_goals
        rw [hmisses.pool? place]
        split
        next heq =>
          rw [heq, hpool]
          rfl
        next => rfl
  | ends hnone hconnection hpool hover =>
      exact hidle (cutOff_of_idle hnone place) (hnone.1 place)
        (moves_of_ends hsound hstocked hlater hconnection hpool hover place)
  | closes hnone hhappening hconnection hopen hothers hpool =>
      have hmoves := moves_of_closes hsound hstocked hconnection hopen hothers hpool place
      simp only [enteredBy, hnone, Bool.false_eq_true, if_false, Act.cutOff, hhappening,
        hconnection, Option.elim_some]
      exact ⟨[], hmoves⟩
  | @dispatches key connection target _ hheld hok hconnection hopen hothers hpool =>
      have hmoves := moves_of_dispatches hsound hstocked hconnection hopen hothers hpool place
      have hcut : Act.cutOff place ⟨first, .send key target⟩ = [] := by
        simp [Act.cutOff, happening, hheld]
      have hentered : first.enteredBy place (.send key target) =
          if connection.destination = .pool place then [first.nextChannel] else [] := by
        simp [enteredBy, Act.dispatches, hheld, hok, hconnection, Except.isOk, Except.toBool]
      rw [hcut, hentered]
      exact ⟨[], hmoves⟩

theorem Ledger.turns (hledger : Ledger first place released cut count) (hlater : Later first second)
    (hturns : Turns first operation second) :
    ∃ ended, Ledger second place (released ++ ended)
      (cut ++ Act.cutOff place ⟨first, operation⟩)
      (count + (Act.dispatches place ⟨first, operation⟩).toNat) := by
  have hthere : ∀ id ∈ first.underWay place, (first.channel? id).isSome = true := by
    intro id hmem
    obtain ⟨key, hregistered, -⟩ := hstocked.registered hmem
    obtain ⟨channel, hchannel⟩ := hsound.coherent.exists_channel hregistered
    rw [hchannel, Option.isSome_some]
  have hlength : (first.enteredBy place operation).length =
      (Act.dispatches place ⟨first, operation⟩).toNat := by
    unfold enteredBy
    cases Act.dispatches place ⟨first, operation⟩ <;> rfl
  obtain ⟨ended, hmoves⟩ := moves_of_turns hsound hstocked hlater hturns place
  rw [← hlength]
  exact ⟨ended, hledger.step hlater hthere hmoves⟩

end Moves

/-! ## The ledger of a course -/

/-- The channels of a pool that the acts of a log cut off. -/
def cutOffs (place : PoolKey) (acts : List (Act α)) : List ChannelId :=
  acts.flatMap (Act.cutOff place)

theorem Ledger.rearrange (hledger : Ledger network place released cut count) (other : PoolKey)
    (order : List (ConnectionId × ConnectionKey)) :
    Ledger (network.rearrange other order) place released cut count := by
  obtain ⟨listed, hperm, hpool⟩ := network.pool?_rearrange other place order
  have hreleases : (network.rearrange other order).releases place = network.releases place := by
    refine releases_congr ?_
    rw [hpool, Option.map_map]
    rfl
  have hlive : ((network.rearrange other order).underWay place).Perm (network.underWay place) := by
    cases hfound : network.pool? place with
    | none =>
        rw [hfound, Option.map_none] at hpool
        simp [underWay, hpool, hfound]
    | some pool =>
        rw [hfound, Option.map_some] at hpool
        rw [underWay_of_some hpool, underWay_of_some hfound]
        exact (hperm pool).flatMap_right _
  have hall : (released ++ (network.rearrange other order).underWay place ++ cut).Perm
      (released ++ network.underWay place ++ cut) := (hlive.append_left _).append_right _
  exact
    { releases := hreleases.trans hledger.releases
      nodup := hall.nodup_iff.mpr hledger.nodup
      count := hall.length_eq.trans hledger.count
      done := hledger.done
      there := hledger.there }

/-- The acts of a course keep the ledger one after the other. -/
theorem Ledger.course {acts : List (Act α)} (hledger : Ledger first place released cut count)
    (hsound : Sound first) (hstocked : Stocked first) (hcourse : Course first acts second) :
    ∃ ended, Ledger second place (released ++ ended) (cut ++ cutOffs place acts)
      (count + acts.countP (Act.dispatches place)) := by
  induction hcourse with
  | start => exact ⟨[], by simpa [cutOffs] using hledger⟩
  | @act middle acts operation hcourse ih =>
      obtain ⟨ended, hthen⟩ := ih
      have hready : Sound middle := hcourse.sound hsound
      have hstock : Stocked middle := hcourse.stocked hsound hstocked
      obtain ⟨more, hnow⟩ := hthen.turns hready hstock (later_undergo hready operation)
        (turns_undergo hready hstock operation)
      refine ⟨ended ++ more, ?_⟩
      have hcuts : cutOffs place (acts ++ [(⟨middle, operation⟩ : Act α)]) =
          cutOffs place acts ++ Act.cutOff place ⟨middle, operation⟩ := by
        simp [cutOffs]
      have hcount : (acts ++ [(⟨middle, operation⟩ : Act α)]).countP (Act.dispatches place) =
          acts.countP (Act.dispatches place) +
            (Act.dispatches place ⟨middle, operation⟩).toNat := by
        rw [List.countP_append, List.countP_singleton]
        cases Act.dispatches place ⟨middle, operation⟩ <;> rfl
      rw [hcuts, hcount, ← List.append_assoc, ← List.append_assoc, ← Nat.add_assoc]
      exact hnow
  | remember surroundings _ ih =>
      obtain ⟨ended, hthen⟩ := ih
      refine ⟨ended, ?_⟩
      exact
        { releases := hthen.releases
          nodup := hthen.nodup
          count := hthen.count
          done := hthen.done
          there := hthen.there }
  | rearrange other order _ ih =>
      obtain ⟨ended, hthen⟩ := ih
      exact ⟨ended, hthen.rearrange other order⟩

/-! ## The ledger of dealings -/

/-- The closes that a dealing may come to, each with the network in which it happens: those
of the connections that a pool lists when the pool is closed, and any operation from
outside. -/
def closings (network : Network α) : Dealing → List (Act α)
  | .close place =>
    match network.pool? place with
    | none => []
    | some pool =>
      if pool.isClosed then []
      else (network.undergo (.shutPool place)).closeActs (pool.listed.map Prod.snd)
  | .outside operation _ => [⟨network, operation⟩]
  | _ => []

/-- So many exchanges a pool accepts in some dealings. -/
def acceptances (answer : Answering α) (network : Network α) (place : PoolKey) :
    List Dealing → Nat
  | [] => 0
  | dealing :: rest =>
    (network.accepts answer place dealing).toNat +
      (network.deal answer dealing).acceptances answer place rest

/-- The channels that were under way on a connection of a pool when it was closed in some
dealings. -/
def cutDuring (answer : Answering α) (network : Network α) (place : PoolKey) :
    List Dealing → List ChannelId
  | [] => []
  | dealing :: rest =>
    cutOffs place (network.closings dealing) ++
      (network.deal answer dealing).cutDuring answer place rest

private theorem cutOff_of_does {dealing : Dealing} (hdoes : network.Does dealing operation)
    (hclose : ∀ place, dealing ≠ .close place)
    (houtside : ∀ operation hoperation, dealing ≠ .outside operation hoperation)
    (place : PoolKey) : Act.cutOff place ⟨network, operation⟩ = [] := by
  have hnot : ∀ key reason, network.happening operation ≠ .closed key reason := by
    intro key reason hclosed
    cases hdoes with
    | sends =>
        simp only [happening] at hclosed
        split at hclosed <;> exact Happening.noConfusion hclosed
    | hears listener event => cases listener <;> exact Happening.noConfusion hclosed
    | closes place => exact hclose place rfl
    | acts operation hoperation => exact houtside operation hoperation rfl
    | _ => exact Happening.noConfusion hclosed
  unfold Act.cutOff
  split
  next key reason hclosed => exact absurd hclosed (hnot key reason)
  next => rfl

theorem Ledger.logs {dealing : Dealing} {acts : List (Act α)} {dispatched : PoolKey → Nat}
    (hledger : Ledger first place released cut count) (hsound : Sound first)
    (hstocked : Stocked first) (hlogs : Logs first dealing acts second dispatched) :
    ∃ ended, Ledger second place (released ++ ended) (cut ++ cutOffs place acts)
      (count + dispatched place) := by
  rw [← hlogs.dispatches place]
  exact hledger.course hsound hstocked hlogs.course

private theorem Ledger.undisturbed {dealing : Dealing} {acts : List (Act α)}
    {dispatched : PoolKey → Nat}
    (hledger : Ledger first place released cut count) (hsound : Sound first)
    (hstocked : Stocked first) (hlogs : Logs first dealing acts second dispatched)
    (hclose : ∀ place, dealing ≠ .close place)
    (houtside : ∀ operation hoperation, dealing ≠ .outside operation hoperation) :
    ∃ ended, Ledger second place (released ++ ended) (cut ++ []) (count + dispatched place) := by
  have hcuts : cutOffs place acts = [] := by
    refine List.flatMap_eq_nil_iff.mpr fun act hmem => ?_
    exact cutOff_of_does (hlogs.fits act hmem) hclose houtside place
  rw [← hcuts]
  exact hledger.logs hsound hstocked hlogs

/-- The close of a pool cuts off what is under way on the connections that it closes. -/
theorem Ledger.close (hledger : Ledger network place released cut count) (hsound : Sound network)
    (hstocked : Stocked network) (closed : PoolKey) :
    ∃ ended, Ledger (network.closePool quiet closed) place (released ++ ended)
      (cut ++ cutOffs place (network.closings (.close closed))) count := by
  cases hpool : network.pool? closed with
  | none =>
      have hsame : network.closePool quiet closed = network := by simp [closePool, hpool]
      have hnone : network.closings (.close closed) = [] := by simp [closings, hpool]
      rw [hsame, hnone]
      exact ⟨[], by simpa [cutOffs] using hledger⟩
  | some pool =>
      cases hopen : pool.isClosed with
      | true =>
          have hsame : network.closePool quiet closed = network := by
            simp [closePool, hpool, hopen]
          have hnone : network.closings (.close closed) = [] := by simp [closings, hpool, hopen]
          rw [hsame, hnone]
          exact ⟨[], by simpa [cutOffs] using hledger⟩
      | false =>
          have hshut := Logs.idle network (Does.shuts closed) fun _ => rfl
          have hlogs := hshut.trans (logs_closeInOrder _ closed (pool.listed.map Prod.snd))
          have hcloses : network.closings (.close closed) =
              (network.undergo (.shutPool closed)).closeActs (pool.listed.map Prod.snd) := by
            simp [closings, hpool, hopen]
          rw [closePool_of_open hpool hopen, hcloses]
          exact hledger.logs hsound hstocked hlogs

theorem Ledger.deal (hledger : Ledger network place released cut count) (hsound : Sound network)
    (hstocked : Stocked network) (answer : Answering α) {dealing : Dealing}
    (hdealing : dealing.isDispatch = false) :
    ∃ ended, Ledger (network.deal answer dealing) place (released ++ ended)
      (cut ++ cutOffs place (network.closings dealing))
      (count + (network.accepts answer place dealing).toNat) := by
  obtain ⟨acts, hlogs⟩ := logs_deal hsound answer hdealing
  cases dealing with
  | close closed => exact hledger.close hsound hstocked closed
  | outside operation hoperation =>
      have hcourse := hledger.course hsound hstocked (Course.single network operation)
      have hnone : Act.dispatches place ⟨network, operation⟩ = false := by
        cases operation with
        | send => exact Bool.noConfusion hdealing
        | _ => rfl
      rw [List.countP_singleton, hnone] at hcourse
      exact hcourse
  | _ => exact hledger.undisturbed hsound hstocked hlogs (by simp) (by simp)

/-- The ledger of a pool is kept in all dealings. -/
theorem Ledger.deals (hledger : Ledger network place released cut count) (hsound : Sound network)
    (hstocked : Stocked network) (answer : Answering α) {dealings : List Dealing}
    (hdealings : ∀ dealing ∈ dealings, dealing.isDispatch = false) :
    ∃ ended, Ledger (network.deals answer dealings) place (released ++ ended)
      (cut ++ network.cutDuring answer place dealings)
      (count + network.acceptances answer place dealings) := by
  induction dealings generalizing network released cut count with
  | nil => exact ⟨[], by simpa [cutDuring, acceptances] using hledger⟩
  | cons dealing rest ih =>
      obtain ⟨hfirst, hrest⟩ := List.forall_mem_cons.mp hdealings
      obtain ⟨ended, hthen⟩ := hledger.deal hsound hstocked answer hfirst
      obtain ⟨more, hnow⟩ := ih hthen (hsound.deal answer dealing)
        (hstocked.deals hsound answer [dealing]) hrest
      refine ⟨ended ++ more, ?_⟩
      rw [cutDuring, acceptances, ← List.append_assoc, ← List.append_assoc, ← Nat.add_assoc]
      exact hnow

private theorem ledger_blank (surroundings : α) (place : PoolKey) :
    Ledger (blank surroundings) place [] [] 0 where
  releases := by simp [releases]
  nodup := by simp [underWay]
  count := by simp [underWay]
  done id hmem := by simp at hmem
  there id hmem := by simp at hmem

/-! ## What counts as a release -/

/-- Nothing that is done when a pool provides a connection, sends or is closed counts as a
release. -/
private theorem releases_of_does (hsound : Sound network) {dealing : Dealing}
    (hdoes : network.Does dealing operation) (hpooled : dealing.isPooled = true)
    (place : PoolKey) : (network.undergo operation).releases place = network.releases place := by
  refine releases_congr ?_
  cases hdoes with
  | takes key =>
      simp only [undergo]
      split <;> rfl
  | @opens other pool _ _ hpool =>
      simp only [undergo, hpool]
      rcases openConnection_cases hpool with
        ⟨error, final, heq, hmisses⟩ | ⟨transport, final, heq, hopens⟩
      · rw [heq]
        simp only [hmisses.pool? place]
        split
        next hsame => rw [hsame, hpool]; rfl
        next => rfl
      · rw [heq]
        simp only [hopens.pool? place]
        split
        next hsame => rw [hsame, hpool]; rfl
        next => rfl
  | @tunes _ _ session _ _ _ recording =>
      obtain ⟨-, -, hpool, -⟩ := network.moveSession_frame session (.recording recording)
      exact congrArg (Option.map Pool.releases) (congrFun hpool place)
  | @sends _ target key =>
      simp only [undergo]
      split
      · rw [pool?_send]
      · rfl
  | letsGo _ _ key =>
      simp only [undergo, release]
      split <;> rfl
  | shuts other =>
      show ((network.modifyPool other _).pool? place).map _ = _
      rw [pool?_modifyPool]
      split
      · rw [Option.map_map]
        rfl
      · rfl
  | closes other key =>
      show ((network.close quiet key .requested).1.pool? place).map _ = _
      cases hopen : network.isOpen key with
      | false => rw [close_of_not_open hopen]
      | true =>
          obtain ⟨connection, hconnection, hstill⟩ := isOpen_iff.mp hopen
          rw [pool?_close hsound hconnection hstill]
          split
          · rw [Option.map_map]
            rfl
          · rfl
  | passes | acts => exact Bool.noConfusion hpooled
  | moves _ _ hdelivery | hears _ _ hdelivery =>
      cases dealing with
      | advance | deliver => exact Bool.noConfusion hpooled
      | _ => exact Bool.noConfusion hdelivery

/-- Providing a connection, sending and closing count no release, whatever comes of it. -/
theorem releases_of_pooled (hsound : Sound network) (hstocked : Stocked network)
    (answer : Answering α) {dealing : Dealing} (hpooled : dealing.isPooled = true)
    (place : PoolKey) :
    (network.deal answer dealing).releases place = network.releases place := by
  obtain ⟨acts, hcourse, hfits⟩ := course_deal hsound answer dealing
  refine hcourse.induction (motive := fun reached => reached.releases place =
    network.releases place) hsound hstocked (fun _ _ hsame => hsame) ?_ rfl ?_
  · intro reached other order hsame
    obtain ⟨listed, -, hpool⟩ := reached.pool?_rearrange other place order
    refine (releases_congr ?_).trans hsame
    rw [hpool, Option.map_map]
    rfl
  · intro reached operation hsound _ hmem hsame
    exact (releases_of_does hsound (hfits _ hmem) hpooled place).trans hsame

/-- A pool that is emptied counts no release any more. -/
theorem releases_of_emptied (hemptied : Emptied network place) (hsound : Sound network)
    (hstocked : Stocked network) (answer : Answering α) (dealings : List Dealing) :
    (network.deals answer dealings).releases place = network.releases place := by
  refine (deals_induction (motive := fun reached => Emptied reached place ∧
      reached.releases place = network.releases place) hsound hstocked (fun _ _ hkept => hkept) ?_
    answer dealings ⟨hemptied, rfl⟩ ?_).2
  · rintro reached other order ⟨⟨pool, hpool, hclosed, hlisted⟩, hsame⟩
    obtain ⟨listed, hperm, hfound⟩ := reached.pool?_rearrange other place order
    have hempty : listed pool = [] := List.perm_nil.mp (hlisted ▸ hperm pool)
    refine ⟨⟨{ pool with listed := listed pool }, by rw [hfound, hpool]; rfl, hclosed, hempty⟩, ?_⟩
    refine (releases_congr ?_).trans hsame
    rw [hfound, Option.map_map]
    rfl
  · rintro dealing - reached operation hsound hstocked hdoes ⟨hemptied, hsame⟩
    have hturns := turns_undergo hsound hstocked operation
    refine ⟨hemptied.turns hdoes hturns, ?_⟩
    obtain ⟨ended, hmoves⟩ :=
      moves_of_turns hsound hstocked (later_undergo hsound operation) hturns place
    obtain ⟨pool, hpool, -, hlisted⟩ := hemptied
    -- Nothing is under way, so nothing ends.
    have hnone : ended = [] := by
      refine List.eq_nil_iff_forall_not_mem.mpr fun id hmem => ?_
      have hlive := (hmoves.done id hmem).1
      rw [underWay_of_some hpool, hlisted] at hlive
      exact List.not_mem_nil hlive
    rw [hmoves.releases, hnone]
    exact hsame

/-! ## Conservation -/

/-- So many channels the connections that a pool lists carry together. -/
def load (network : Network α) (pool : Pool) : Nat :=
  (pool.listed.map fun entry =>
    (network.connection? entry.2).elim 0 Connection.channelCount).sum

theorem length_underWay (hpool : network.pool? place = some pool) :
    (network.underWay place).length = network.load pool := by
  have hlength : ∀ key, (network.liveOn key).length =
      (network.connection? key).elim 0 Connection.channelCount := fun key => by
    rw [liveOn]
    cases network.connection? key <;> rfl
  rw [underWay_of_some hpool, List.length_flatMap, load]
  simp only [hlength]

/-- In dealings in which nothing is dispatched past the pools, every exchange that a pool
accepted is accounted for once: as a release that the pool counted, as a channel under way on
a connection that the pool lists, or as a channel that was under way on one when it was closed.
Every release is that of another channel, which is neither under way nor cut off.  Sending,
whatever comes of it, providing a connection, and closing count no release, and nothing does
once the pool was closed. -/
theorem conservation (surroundings : α) (answer : Answering α) (dealings : List Dealing)
    (hdealings : ∀ dealing ∈ dealings, dealing.isDispatch = false)
    (hpool : ((blank surroundings).deals answer dealings).pool? place = some pool) :
    let final := (blank surroundings).deals answer dealings
    let cut := (blank surroundings).cutDuring answer place dealings
    (blank surroundings).acceptances answer place dealings =
        pool.releases + final.load pool + cut.length ∧
      (∃ released : List ChannelId, released.length = pool.releases ∧
        (released ++ final.underWay place ++ cut).Nodup ∧
        ∀ id ∈ released, ∃ channel, final.channel? id = some channel ∧ channel.released = true) ∧
      (∀ dealing, dealing.isPooled = true →
        (final.deal answer dealing).releases place = pool.releases) ∧
      ∀ before after, dealings = before ++ .close place :: after →
        (((blank surroundings).deals answer before).pool? place).isSome = true →
          pool.releases = ((blank surroundings).deals answer before).releases place := by
  intro final cut
  have hblank : Sound (blank surroundings) := sound_blank surroundings
  have hempty : Stocked (blank surroundings) := stocked_blank surroundings
  have hsound : Sound final := hblank.deals answer dealings
  have hstocked : Stocked final := hempty.deals hblank answer dealings
  obtain ⟨released, hledger⟩ :=
    (ledger_blank surroundings place).deals hblank hempty answer hdealings
  have hreleases : final.releases place = pool.releases := releases_of_some hpool
  rw [List.nil_append, List.nil_append, Nat.zero_add] at hledger
  refine ⟨?_, ⟨released, ?_, hledger.nodup, hledger.done⟩, fun dealing hpooled => ?_, ?_⟩
  · have hcount := hledger.count
    rw [List.length_append, List.length_append, length_underWay hpool, ← hledger.releases,
      hreleases] at hcount
    exact hcount.symm
  · rw [← hledger.releases, hreleases]
  · exact (releases_of_pooled hsound hstocked answer hpooled place).trans hreleases
  · rintro before after rfl hthere
    have hready : Sound ((blank surroundings).deals answer before) := hblank.deals answer before
    have hstock := hempty.deals hblank answer before
    have hcleared : Cleared ((blank surroundings).deals answer before) place := by
      refine Cleared.deals ?_ hblank hempty answer before
      intro found hfound
      simp at hfound
    have hemptied := emptied_of_close hready hstock hcleared hthere
    have hstays := releases_of_emptied hemptied (hready.deal answer (.close place))
      (hstock.deals hready answer [.close place]) answer after
    have hpooled : (Dealing.close place).isPooled = true := rfl
    have hclose := releases_of_pooled hready hstock answer hpooled place
    rw [← hreleases]
    have hsplit : final = (((blank surroundings).deals answer before).deal answer
        (.close place)).deals answer after := deals_append answer _ before (.close place :: after)
    rw [hsplit]
    exact hstays.trans hclose

/-- Of two exchanges one has its answer and the other is cut off. -/
theorem conservation_of_two :
    let dealings := firstDealings ++
      [.outside (.makeExchange ⟨.connect, .absolute .https ⟨"b"⟩ .slash, .http2, ⟨[]⟩, []⟩) rfl,
        .send ⟨1⟩ ⟨1⟩, .send ⟨1⟩ ⟨2⟩,
        .outside (.hears (.channel ⟨1⟩) (.reset .cancel)) rfl, .close ⟨1⟩]
    let final := (blank ()).deals steadfast dealings
    ∃ pool, (∀ dealing ∈ dealings, dealing.isDispatch = false) ∧
      final.pool? ⟨1⟩ = some pool ∧ pool.releases = 1 ∧
      (blank ()).acceptances steadfast ⟨1⟩ dealings = 1 + final.load pool +
        ((blank ()).cutDuring steadfast ⟨1⟩ dealings).length := by
  intro dealings final
  have hpool : final.pool? ⟨1⟩ = some
      { name := "p", maxConnections := 2, maxStreams := 2, factory := .recording [],
        opened := 1, releases := 1, isClosed := true } := rfl
  have hdealings : ∀ dealing ∈ dealings, dealing.isDispatch = false := by
    simp [dealings, firstDealings, Dealing.isDispatch]
  exact ⟨_, hdealings, hpool, rfl, (conservation () steadfast dealings hdealings hpool).1⟩

end Network

end Multiplex
