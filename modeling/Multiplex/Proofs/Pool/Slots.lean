import Multiplex.Proofs.Pool.Reactions

/-!
# The slots of a pool

A pool has as many slots as it may have connections, and a connection that it lists takes one
of them.  `Tidy` says that the connections listed are those that are open, each once.

A connection that hears of its end before its pool has listed it comes *early*: nothing is taken
off the list, and the pool lists the connection all the same.  The surroundings carry a record
of those connections, and `Tidy` lets them stand on the list.  The record is kept for the
theorems: no operation reads it.

The invariant is stated with what is *pending*: a number that a pool has given out while its
factory is at work, or the slot of a connection that is there and not listed yet.  So the
invariant holds also in the middle of an opening.  What keeps it is one lemma each for what does
not concern pools (`Tidy.evolves`), for a close (`Tidy.vacates`) and for the three steps of an
opening (`Tidy.promises`, `Tidy.reserves`, `Tidy.lists`).
-/

namespace Multiplex

/-- A place on the list of a pool, with the number and the connection that stand there. -/
structure Slot where
  pool : PoolKey
  number : ConnectionId
  key : ConnectionKey
  deriving DecidableEq

/-- What a pool has begun to open: nothing, a number without a connection, or a connection that
it does not list yet. -/
inductive Pending
  | nothing
  | promised (pool : PoolKey) (number : ConnectionId)
  | made (slot : Slot)

namespace Pending

/-- Whether something is pending for a pool. -/
def isFor (place : PoolKey) : Pending → Bool
  | .nothing => false
  | .promised pool _ => pool == place
  | .made slot => slot.pool == place

/-- Whether a connection is pending. -/
def isMade (key : ConnectionKey) : Pending → Bool
  | .made slot => slot.key == key
  | _ => false

theorem isMade_iff {pending : Pending} {key : ConnectionKey} :
    pending.isMade key = true ↔ ∃ slot, pending = .made slot ∧ slot.key = key := by
  cases pending <;> simp [isMade]

end Pending

namespace Network

variable {α : Type}

/-- The connections that were told of their end before their pool listed them. -/
def early (network : Network (α × List ConnectionKey)) : List ConnectionKey :=
  network.surroundings.2

/-- Whether a connection belongs to a pool that does not list it, and is open. -/
def isUnlisted (network : Network α) (key : ConnectionKey) : Bool :=
  (network.connection? key).any fun connection =>
    !connection.isClosed &&
      match connection.destination with
      | .pool place => !(network.pool? place).any fun pool => pool.lists key
      | _ => false

/-- The connection was opened by the pool under the number. -/
def Allots (network : Network α) (slot : Slot) : Prop :=
  ∃ connection, network.connection? slot.key = some connection ∧ connection.id = slot.number ∧
    connection.destination = .pool slot.pool

/-- The pool lists the connection under the number. -/
def Lists (network : Network α) (slot : Slot) : Prop :=
  ∃ pool, network.pool? slot.pool = some pool ∧ (slot.number, slot.key) ∈ pool.listed

/-- The connection was opened by the pool under the number, and is open or was told early. -/
def Occupies (network : Network (α × List ConnectionKey)) (slot : Slot) : Prop :=
  ∃ connection, network.connection? slot.key = some connection ∧ connection.id = slot.number ∧
    connection.destination = .pool slot.pool ∧
    (connection.isClosed = true → slot.key ∈ network.early)

/-- Pools list the connections that occupy a slot, each once, and no more than they may.  A
slot may be pending, and some slots are settled for ever. -/
structure Tidy (settled : Slot → Prop) (pending : Pending)
    (network : Network (α × List ConnectionKey)) : Prop where
  numbered : ∀ {slot}, network.Allots slot →
    ∃ pool, network.pool? slot.pool = some pool ∧ slot.number.number ≤ pool.opened
  promised : ∀ {place number}, pending = .promised place number →
    (∃ pool, network.pool? place = some pool ∧ number.number ≤ pool.opened) ∧
      ∀ {slot}, network.Allots slot → slot.pool = place → slot.number ≠ number
  unique : ∀ {slot other}, network.Allots slot → network.Allots other →
    slot.pool = other.pool → slot.number = other.number → slot.key = other.key
  occupied : ∀ slot, network.Lists slot ∨ pending = .made slot ↔ network.Occupies slot
  apart : ∀ {slot}, pending = .made slot → ¬ network.Lists slot
  once : ∀ {place pool}, network.pool? place = some pool → (pool.listed.map Prod.fst).Nodup
  room : ∀ {place pool}, network.pool? place = some pool →
    pool.size + (pending.isFor place).toNat ≤ pool.maxConnections
  early : ∀ {key}, key ∈ network.early →
    ∃ connection, network.connection? key = some connection ∧ connection.isClosed = true
  settled : ∀ {slot}, settled slot → network.Allots slot ∧ slot.key ∈ network.early

section Slots

variable {network : Network (α × List ConnectionKey)} {slot other : Slot}

theorem Occupies.allots (hoccupies : network.Occupies slot) : network.Allots slot := by
  obtain ⟨connection, hconnection, hid, hdestination, -⟩ := hoccupies
  exact ⟨connection, hconnection, hid, hdestination⟩

theorem Allots.eq_of_key (hallots : network.Allots slot) (hother : network.Allots other)
    (hkey : slot.key = other.key) : slot = other := by
  obtain ⟨connection, hconnection, hid, hdestination⟩ := hallots
  obtain ⟨found, hfound, hnumber, hgoes⟩ := hother
  rw [hkey, hfound] at hconnection
  obtain rfl := Option.some.inj hconnection
  obtain ⟨pool, number, key⟩ := slot
  obtain ⟨place, id, same⟩ := other
  obtain rfl := Destination.pool.inj (hdestination.symm.trans hgoes)
  obtain rfl := hid.symm.trans hnumber
  obtain rfl : key = same := hkey
  rfl

end Slots

/-! ## What keeps the slots tidy -/

variable {settled : Slot → Prop} {pending : Pending}
  {first second network : Network (α × List ConnectionKey)} {key : ConnectionKey}
  {connection : Connection} {place : PoolKey} {pool : Pool}

theorem Tidy.allots_of_pending (htidy : Tidy settled pending network) {slot : Slot}
    (hpending : pending = .made slot) : network.Allots slot :=
  ((htidy.occupied slot).mp (.inr hpending)).allots

private theorem Tidy.pool_of_isFor (htidy : Tidy settled pending network)
    (hfor : pending.isFor place = true) : ∃ pool, network.pool? place = some pool := by
  cases pending with
  | nothing => cases hfor
  | promised other number =>
      obtain ⟨⟨pool, hpool, -⟩, -⟩ := htidy.promised rfl
      exact ⟨pool, eq_of_beq hfor ▸ hpool⟩
  | made slot =>
      obtain ⟨pool, hpool, -⟩ := htidy.numbered (htidy.allots_of_pending rfl)
      exact ⟨pool, eq_of_beq hfor ▸ hpool⟩

theorem Tidy.allots_of_lists (htidy : Tidy settled pending network) {slot : Slot}
    (hlists : network.Lists slot) : network.Allots slot :=
  ((htidy.occupied slot).mp (.inl hlists)).allots

section Evolving

variable (hconnection : ∀ key, Evolves Connection.Berths
    (fun after => ∀ place, after.destination ≠ .pool place)
    (first.connection? key) (second.connection? key))
include hconnection

theorem allots_iff (slot : Slot) : second.Allots slot ↔ first.Allots slot := by
  constructor
  · rintro ⟨after, hafter, hid, hdestination⟩
    cases hbefore : first.connection? slot.key with
    | none =>
        exact absurd hdestination ((hconnection slot.key).fresh_of_none hbefore hafter slot.pool)
    | some before =>
        have hkept := (hconnection slot.key).change_of_some hbefore hafter
        exact ⟨before, hbefore, hkept.id ▸ hid, (hkept.destination _).mp hdestination⟩
  · rintro ⟨before, hbefore, hid, hdestination⟩
    obtain ⟨after, hafter, hkept⟩ := (hconnection slot.key).exists_after hbefore
    exact ⟨after, hafter, hkept.id.trans hid, (hkept.destination _).mpr hdestination⟩

theorem occupies_iff (hearly : second.early = first.early) (slot : Slot) :
    second.Occupies slot ↔ first.Occupies slot := by
  constructor
  · rintro ⟨after, hafter, hid, hdestination, hclosed⟩
    cases hbefore : first.connection? slot.key with
    | none =>
        exact absurd hdestination ((hconnection slot.key).fresh_of_none hbefore hafter slot.pool)
    | some before =>
        have hkept := (hconnection slot.key).change_of_some hbefore hafter
        rw [hearly, hkept.closed] at hclosed
        exact ⟨before, hbefore, hkept.id ▸ hid, (hkept.destination _).mp hdestination, hclosed⟩
  · rintro ⟨before, hbefore, hid, hdestination, hclosed⟩
    obtain ⟨after, hafter, hkept⟩ := (hconnection slot.key).exists_after hbefore
    refine ⟨after, hafter, hkept.id.trans hid, (hkept.destination _).mpr hdestination, ?_⟩
    rwa [hearly, hkept.closed]

/-- Connections may change where their pools do not care, and there may be new connections that
belong to no pool, and new pools. -/
theorem Tidy.evolves (htidy : Tidy settled pending first)
    (hpool : ∀ place, Evolves Pool.Stays Pool.IsNew (first.pool? place) (second.pool? place))
    (hearly : second.early = first.early) : Tidy settled pending second := by
  have hallots := allots_iff hconnection
  have hlists : ∀ slot, second.Lists slot ↔ first.Lists slot := by
    intro slot
    constructor
    · rintro ⟨after, hafter, hmem⟩
      cases hbefore : first.pool? slot.pool with
      | none => simp [((hpool slot.pool).fresh_of_none hbefore hafter).1] at hmem
      | some before =>
          have hkept := (hpool slot.pool).change_of_some hbefore hafter
          exact ⟨before, hbefore, hkept.listed.mem_iff.mp hmem⟩
    · rintro ⟨before, hbefore, hmem⟩
      obtain ⟨after, hafter, hkept⟩ := (hpool slot.pool).exists_after hbefore
      exact ⟨after, hafter, hkept.listed.mem_iff.mpr hmem⟩
  exact
    { numbered := by
        intro slot hslot
        obtain ⟨before, hbefore, hle⟩ := htidy.numbered ((hallots slot).mp hslot)
        obtain ⟨after, hafter, hkept⟩ := (hpool slot.pool).exists_after hbefore
        exact ⟨after, hafter, Nat.le_trans hle hkept.opened⟩
      promised := by
        intro place number hpending
        obtain ⟨⟨before, hbefore, hle⟩, hfree⟩ := htidy.promised hpending
        obtain ⟨after, hafter, hkept⟩ := (hpool place).exists_after hbefore
        exact ⟨⟨after, hafter, Nat.le_trans hle hkept.opened⟩,
          fun hslot => hfree ((hallots _).mp hslot)⟩
      unique := fun hslot hother => htidy.unique ((hallots _).mp hslot) ((hallots _).mp hother)
      occupied := fun slot => by
        rw [hlists, occupies_iff hconnection hearly]
        exact htidy.occupied slot
      apart := fun hpending => by
        rw [hlists]
        exact htidy.apart hpending
      once := by
        intro place after hafter
        cases hbefore : first.pool? place with
        | none => simp [((hpool place).fresh_of_none hbefore hafter).1]
        | some before =>
            have hkept := (hpool place).change_of_some hbefore hafter
            exact (hkept.listed.map Prod.fst).nodup_iff.mpr (htidy.once hbefore)
      room := by
        intro place after hafter
        cases hbefore : first.pool? place with
        | none =>
            have hnone : pending.isFor place = false := by
              refine Bool.eq_false_iff.mpr fun hfor => ?_
              obtain ⟨pool, hpool⟩ := htidy.pool_of_isFor hfor
              rw [hbefore] at hpool
              cases hpool
            rw [hnone, Pool.size, ((hpool place).fresh_of_none hbefore hafter).1]
            exact Nat.zero_le _
        | some before =>
            have hkept := (hpool place).change_of_some hbefore hafter
            rw [Pool.size, hkept.listed.length_eq, hkept.maxConnections]
            exact htidy.room hbefore
      early := by
        intro key hmem
        rw [hearly] at hmem
        obtain ⟨before, hbefore, hclosed⟩ := htidy.early hmem
        obtain ⟨after, hafter, hkept⟩ := (hconnection key).exists_after hbefore
        exact ⟨after, hafter, hkept.closed.trans hclosed⟩
      settled := fun hslot => by
        rw [hallots, hearly]
        exact htidy.settled hslot }

end Evolving

/-- Slots are a matter of connections, pools and the record alone. -/
theorem Tidy.congr (htidy : Tidy settled pending first)
    (hconnection : second.connection? = first.connection?) (hpool : second.pool? = first.pool?)
    (hearly : second.early = first.early) : Tidy settled pending second :=
  htidy.evolves
    (fun key => .of_eq Connection.Berths.refl (congrFun hconnection key))
    (fun place => .of_eq Pool.Stays.refl (congrFun hpool place)) hearly

/-! ## What is listed and what is not -/

theorem tidy_blank (surroundings : α) :
    Tidy (fun _ => False) .nothing (blank (surroundings, ([] : List ConnectionKey))) where
  numbered := by
    rintro slot ⟨found, hfound, -⟩
    simp at hfound
  promised hpending := by cases hpending
  unique := by
    rintro slot other ⟨found, hfound, -⟩
    simp at hfound
  occupied slot := by
    refine iff_of_false ?_ ?_
    · rintro (⟨pool, hpool, -⟩ | hpending)
      · simp at hpool
      · cases hpending
    · rintro ⟨found, hfound, -⟩
      simp at hfound
  apart hpending := by cases hpending
  once hpool := by simp at hpool
  room hpool := by simp at hpool
  early hmem := by cases hmem
  settled hslot := hslot.elim

/-- Where nothing is pending, pools list the connections that occupy a slot. -/
theorem Tidy.lists_iff (htidy : Tidy settled .nothing network) (slot : Slot) :
    network.Lists slot ↔ network.Occupies slot := by
  simpa using htidy.occupied slot

theorem Tidy.size_le (htidy : Tidy settled pending network)
    (hpool : network.pool? place = some pool) : pool.size ≤ pool.maxConnections :=
  Nat.le_trans (Nat.le_add_right _ _) (htidy.room hpool)

/-- A connection that came early and is listed is settled. -/
theorem Tidy.settle (htidy : Tidy settled .nothing network) {slot : Slot}
    (hlists : network.Lists slot) (hearly : slot.key ∈ network.early) :
    Tidy (fun other => other = slot) .nothing network :=
  { htidy with
    settled := by
      rintro other rfl
      exact ⟨htidy.allots_of_lists hlists, hearly⟩ }

theorem Tidy.lists_of_settled (htidy : Tidy settled .nothing network) {slot : Slot}
    (hsettled : settled slot) : network.Lists slot := by
  obtain ⟨⟨connection, hconnection, hid, hdestination⟩, hearly⟩ := htidy.settled hsettled
  exact (htidy.lists_iff slot).mpr ⟨connection, hconnection, hid, hdestination, fun _ => hearly⟩

/-- An open connection of a pool is unlisted if it is pending, and only then. -/
theorem Tidy.isUnlisted_eq (htidy : Tidy settled pending network)
    (hconnection : network.connection? key = some connection)
    (hopen : connection.isClosed = false) :
    network.isUnlisted key = pending.isMade key := by
  rw [Bool.eq_iff_iff, Pending.isMade_iff]
  simp only [isUnlisted, hconnection, Option.any_some, hopen, Bool.not_false, Bool.true_and]
  constructor
  · intro hunlisted
    split at hunlisted
    next place hdestination =>
      let slot : Slot := ⟨place, connection.id, key⟩
      have hoccupies : network.Occupies slot :=
        ⟨connection, hconnection, rfl, hdestination, fun hclosed =>
          absurd (hopen.symm.trans hclosed) Bool.false_ne_true⟩
      refine ((htidy.occupied slot).mpr hoccupies).elim (fun hlists => ?_) fun hpending =>
        ⟨slot, hpending, rfl⟩
      obtain ⟨pool, hpool, hmem⟩ := hlists
      have hthere : network.pool? place = some pool := hpool
      rw [hthere, Option.any_some, Bool.not_eq_true', Pool.lists, List.any_eq_false] at hunlisted
      exact absurd (beq_self_eq_true key) (hunlisted _ hmem)
    next => cases hunlisted
  · rintro ⟨slot, hslot, rfl⟩
    obtain ⟨found, hfound, -, hdestination⟩ := htidy.allots_of_pending hslot
    obtain rfl := Option.some.inj (hconnection.symm.trans hfound)
    rw [hdestination]
    cases hpool : network.pool? slot.pool with
    | none => simp [hpool]
    | some pool =>
        simp only [hpool, Option.any_some, Bool.not_eq_true']
        refine Bool.eq_false_iff.mpr fun hlists => htidy.apart hslot ?_
        obtain ⟨entry, hmem, hsame⟩ := List.any_eq_true.mp hlists
        have hlisted : network.Lists ⟨slot.pool, entry.1, entry.2⟩ := ⟨pool, hpool, hmem⟩
        have hslots := (htidy.allots_of_lists hlisted).eq_of_key (htidy.allots_of_pending hslot)
          (eq_of_beq hsame)
        rwa [hslots] at hlisted

/-! ## A connection is closed -/

/-- An open connection is closed.  Its pool takes it off the list, and if it is pending, it is
taken down as early. -/
structure Vacates (pending : Pending) (first second : Network (α × List ConnectionKey))
    (key : ConnectionKey) (connection closed : Connection) : Prop where
  found : first.connection? key = some connection
  isOpen : connection.isClosed = false
  id : closed.id = connection.id
  destination : closed.destination = connection.destination
  isClosed : closed.isClosed = true
  connection? : ∀ other, second.connection? other =
    if other = key then some closed else first.connection? other
  pool? : ∀ place, second.pool? place = if connection.destination = .pool place then
      (first.pool? place).map fun pool => pool.unlist connection.id
    else first.pool? place
  early : second.early = if pending.isMade key then key :: first.early else first.early

namespace Vacates

variable {closed : Connection} (hvacates : Vacates pending first second key connection closed)
include hvacates

theorem allots_iff (slot : Slot) : second.Allots slot ↔ first.Allots slot := by
  unfold Allots
  rw [hvacates.connection? slot.key]
  split
  next heq => simp [heq, hvacates.found, hvacates.id, hvacates.destination]
  next => rfl

theorem mem_early_iff {other : ConnectionKey} (hne : other ≠ key) :
    other ∈ second.early ↔ other ∈ first.early := by
  rw [hvacates.early]
  split <;> simp [hne]

private theorem mem_early_of_pending {slot : Slot} (hpending : pending = .made slot)
    (hkey : slot.key = key) : key ∈ second.early := by
  rw [hvacates.early, if_pos (Pending.isMade_iff.mpr ⟨slot, hpending, hkey⟩)]
  exact List.mem_cons_self

variable (htidy : Tidy settled pending first)
include htidy

theorem not_mem_early : key ∉ first.early := by
  intro hmem
  obtain ⟨found, hfound, hshut⟩ := htidy.early hmem
  obtain rfl := Option.some.inj (hvacates.found.symm.trans hfound)
  exact Bool.false_ne_true (hvacates.isOpen.symm.trans hshut)

/-- The list loses the entry of the connection and no other. -/
theorem lists_iff (slot : Slot) : second.Lists slot ↔ first.Lists slot ∧ slot.key ≠ key := by
  unfold Lists
  rw [hvacates.pool? slot.pool]
  split
  next hgoes =>
    have hown : first.Allots ⟨slot.pool, connection.id, key⟩ :=
      ⟨connection, hvacates.found, rfl, hgoes⟩
    constructor
    · rintro ⟨after, hunlisted, hmem⟩
      obtain ⟨pool, hfound, rfl⟩ := Option.map_eq_some_iff.mp hunlisted
      obtain ⟨hlisted, hnumber⟩ := List.mem_filter.mp hmem
      refine ⟨⟨pool, hfound, hlisted⟩, fun hkey => ?_⟩
      have hslot := (htidy.allots_of_lists ⟨pool, hfound, hlisted⟩).eq_of_key hown hkey
      rw [hslot] at hnumber
      simp at hnumber
    · rintro ⟨⟨pool, hfound, hlisted⟩, hne⟩
      refine ⟨pool.unlist connection.id, by rw [hfound, Option.map_some], ?_⟩
      refine List.mem_filter.mpr ⟨hlisted, ?_⟩
      -- No other connection of the pool has the number.
      simpa using fun hnumber =>
        hne (htidy.unique (htidy.allots_of_lists ⟨pool, hfound, hlisted⟩) hown rfl hnumber)
  next helsewhere =>
    refine ⟨fun hlisted => ⟨hlisted, fun hkey => helsewhere ?_⟩, fun hboth => hboth.1⟩
    obtain ⟨found, hfound, -, hgoes⟩ := htidy.allots_of_lists hlisted
    rw [hkey, hvacates.found] at hfound
    rwa [Option.some.inj hfound]

private theorem occupies_iff_of_key {slot : Slot} (hkey : slot.key = key) :
    second.Occupies slot ↔ pending = .made slot := by
  constructor
  · intro hoccupies
    have hallotted := (hvacates.allots_iff slot).mp hoccupies.allots
    obtain ⟨found, hfound, -, -, hmem⟩ := hoccupies
    rw [hvacates.connection?, if_pos hkey] at hfound
    obtain rfl := Option.some.inj hfound
    have hmem := hmem hvacates.isClosed
    rw [hkey, hvacates.early] at hmem
    split at hmem
    next hthere =>
      obtain ⟨other, hpending, hsame⟩ := Pending.isMade_iff.mp hthere
      have hslots := (htidy.allots_of_pending hpending).eq_of_key hallotted
        (hsame.trans hkey.symm)
      exact hslots ▸ hpending
    next => exact absurd hmem (hvacates.not_mem_early htidy)
  · intro hpending
    obtain ⟨found, hfound, hnumber, hgoes⟩ :=
      (hvacates.allots_iff slot).mpr (htidy.allots_of_pending hpending)
    exact ⟨found, hfound, hnumber, hgoes, fun _ =>
      hkey.symm ▸ hvacates.mem_early_of_pending hpending hkey⟩

theorem occupied (slot : Slot) :
    second.Lists slot ∨ pending = .made slot ↔ second.Occupies slot := by
  rw [hvacates.lists_iff htidy]
  by_cases hkey : slot.key = key
  · rw [hvacates.occupies_iff_of_key htidy hkey]
    exact or_iff_right fun hboth => hboth.2 hkey
  · rw [and_iff_left hkey, htidy.occupied]
    unfold Occupies
    rw [hvacates.connection?, if_neg hkey, hvacates.mem_early_iff hkey]

end Vacates

theorem Tidy.vacates (htidy : Tidy settled pending first) {closed : Connection}
    (hvacates : Vacates pending first second key connection closed) :
    Tidy settled pending second where
  numbered := by
    intro slot hslot
    obtain ⟨pool, hfound, hle⟩ := htidy.numbered ((hvacates.allots_iff slot).mp hslot)
    rw [hvacates.pool?]
    split
    · exact ⟨pool.unlist connection.id, by rw [hfound, Option.map_some], hle⟩
    · exact ⟨pool, hfound, hle⟩
  promised := by
    intro place number hpending
    obtain ⟨⟨pool, hfound, hle⟩, hfree⟩ := htidy.promised hpending
    refine ⟨?_, fun hslot => hfree ((hvacates.allots_iff _).mp hslot)⟩
    rw [hvacates.pool?]
    split
    · exact ⟨pool.unlist connection.id, by rw [hfound, Option.map_some], hle⟩
    · exact ⟨pool, hfound, hle⟩
  unique hslot hother :=
    htidy.unique ((hvacates.allots_iff _).mp hslot) ((hvacates.allots_iff _).mp hother)
  occupied := hvacates.occupied htidy
  apart hpending hlisted := htidy.apart hpending ((hvacates.lists_iff htidy _).mp hlisted).1
  once := by
    intro place after hfound
    rw [hvacates.pool?] at hfound
    split at hfound
    · obtain ⟨pool, hbefore, rfl⟩ := Option.map_eq_some_iff.mp hfound
      exact (htidy.once hbefore).sublist (List.filter_sublist.map _)
    · exact htidy.once hfound
  room := by
    intro place after hfound
    rw [hvacates.pool?] at hfound
    split at hfound
    · obtain ⟨pool, hbefore, rfl⟩ := Option.map_eq_some_iff.mp hfound
      have hfewer : (pool.unlist connection.id).size ≤ pool.size := List.length_filter_le _ _
      have hroom := htidy.room hbefore
      exact Nat.le_trans (Nat.add_le_add_right hfewer _) hroom
    · exact htidy.room hfound
  early := by
    intro other hmem
    by_cases hkey : other = key
    · exact ⟨closed, by rw [hvacates.connection?, if_pos hkey], hvacates.isClosed⟩
    · rw [hvacates.connection?, if_neg hkey]
      exact htidy.early ((hvacates.mem_early_iff hkey).mp hmem)
  settled := by
    intro slot hslot
    obtain ⟨hallotted, hmem⟩ := htidy.settled hslot
    have hkey : slot.key ≠ key := fun hsame => hvacates.not_mem_early htidy (hsame ▸ hmem)
    exact ⟨(hvacates.allots_iff slot).mpr hallotted, (hvacates.mem_early_iff hkey).mpr hmem⟩

/-! ## A connection is opened -/

/-- A pool that has a slot left gives out the next number. -/
theorem Tidy.promises (htidy : Tidy settled .nothing first) (hpool : first.pool? place = some pool)
    (hroom : pool.size < pool.maxConnections)
    (hconnection : second.connection? = first.connection?)
    (hpools : ∀ other, second.pool? other = if other = place then some pool.tried
      else first.pool? other) (hearly : second.early = first.early) :
    Tidy settled (.promised place ⟨pool.opened + 1⟩) second := by
  have hevolves : Tidy settled .nothing second := by
    refine htidy.evolves
      (fun key => .of_eq Connection.Berths.refl (congrFun hconnection key)) (fun other => ?_) hearly
    rw [hpools]
    split
    next heq =>
      rw [heq, hpool]
      exact .old ⟨.refl _, Nat.le_succ _, rfl⟩
    next => exact .of_eq Pool.Stays.refl rfl
  have hallots : ∀ slot, second.Allots slot ↔ first.Allots slot := fun slot => by
    rw [Allots, Allots, hconnection]
  exact
    { hevolves with
      promised := by
        intro place number hpending
        obtain ⟨rfl, rfl⟩ := Pending.promised.inj hpending
        refine ⟨⟨pool.tried, by rw [hpools, if_pos rfl], Nat.le_refl _⟩, ?_⟩
        rintro slot hslot rfl heq
        -- The pool has given out smaller numbers only.
        obtain ⟨found, hfound, hle⟩ := htidy.numbered ((hallots slot).mp hslot)
        obtain rfl := Option.some.inj (hpool.symm.trans hfound)
        rw [heq] at hle
        exact absurd hle (Nat.not_succ_le_self _)
      occupied := fun slot => by simpa using hevolves.occupied slot
      apart := fun hpending => by cases hpending
      room := by
        intro other after hafter
        cases hsame : place == other with
        | false => simpa [Pending.isFor, hsame] using hevolves.room hafter
        | true =>
            rw [← eq_of_beq hsame, hpools, if_pos rfl] at hafter
            obtain rfl := Option.some.inj hafter
            rw [Pending.isFor, hsame]
            exact hroom }

theorem Tidy.forgets {number : ConnectionId}
    (htidy : Tidy settled (.promised place number) network) : Tidy settled .nothing network :=
  { htidy with
    promised := fun hpending => by cases hpending
    occupied := fun slot => by simpa using htidy.occupied slot
    apart := fun hpending => by cases hpending
    room := fun hpool => htidy.size_le hpool }

/-- There is a connection more, to the pool and with the number that were promised. -/
structure Reserves (first second : Network (α × List ConnectionKey)) (place : PoolKey)
    (opened : Connection) : Prop where
  destination : opened.destination = .pool place
  isOpen : opened.isClosed = false
  connection? : ∀ key, second.connection? key =
    if key = first.nextConnection then some opened else first.connection? key
  pool? : second.pool? = first.pool?
  early : second.early = first.early

namespace Reserves

variable {opened : Connection} (hreserves : Reserves first second place opened)
include hreserves

theorem exists_iff (extra : ConnectionKey → Connection → Prop)
    (hextra : extra first.nextConnection opened) (slot : Slot) :
    (∃ found, second.connection? slot.key = some found ∧ found.id = slot.number ∧
      found.destination = .pool slot.pool ∧ extra slot.key found) ↔
    (∃ found, first.connection? slot.key = some found ∧ found.id = slot.number ∧
      found.destination = .pool slot.pool ∧ extra slot.key found) ∨
      slot = ⟨place, opened.id, first.nextConnection⟩ := by
  obtain ⟨other, number, key⟩ := slot
  simp only [hreserves.connection?, Slot.mk.injEq]
  by_cases hkey : key = first.nextConnection
  · subst hkey
    rw [if_pos rfl]
    constructor
    · rintro ⟨found, hfound, hid, hdestination, -⟩
      obtain rfl := Option.some.inj hfound
      rw [hreserves.destination] at hdestination
      exact .inr ⟨(Destination.pool.inj hdestination).symm, hid.symm, rfl⟩
    · rintro (⟨found, hfound, -⟩ | ⟨rfl, rfl, -⟩)
      · simp at hfound
      · exact ⟨_, rfl, rfl, hreserves.destination, hextra⟩
  · simp [hkey]

theorem allots_iff (slot : Slot) : second.Allots slot ↔
    first.Allots slot ∨ slot = ⟨place, opened.id, first.nextConnection⟩ := by
  simpa [Allots] using hreserves.exists_iff (fun _ _ => True) trivial slot

theorem occupies_iff (slot : Slot) : second.Occupies slot ↔
    first.Occupies slot ∨ slot = ⟨place, opened.id, first.nextConnection⟩ := by
  unfold Occupies
  rw [hreserves.early]
  exact hreserves.exists_iff (fun key found => found.isClosed = true → key ∈ first.early)
    (fun hclosed => absurd (hreserves.isOpen.symm.trans hclosed) Bool.false_ne_true) slot

theorem lists_iff (slot : Slot) : second.Lists slot ↔ first.Lists slot := by
  rw [Lists, Lists, hreserves.pool?]

end Reserves

/-- A connection that a pool opens is pending until the pool lists it. -/
theorem Tidy.reserves {opened : Connection}
    (htidy : Tidy settled (.promised place opened.id) first)
    (hreserves : Reserves first second place opened) :
    Tidy settled (.made ⟨place, opened.id, first.nextConnection⟩) second where
  numbered := by
    intro slot hslot
    rw [hreserves.pool?]
    rcases (hreserves.allots_iff slot).mp hslot with hold | rfl
    · exact htidy.numbered hold
    · exact (htidy.promised rfl).1
  promised hpending := by cases hpending
  unique := by
    obtain ⟨-, hfree⟩ := htidy.promised rfl
    intro slot other hslot hother hplace hsame
    rcases (hreserves.allots_iff slot).mp hslot with hold | rfl <;>
      rcases (hreserves.allots_iff other).mp hother with hold' | rfl
    · exact htidy.unique hold hold' hplace hsame
    · exact absurd hsame (hfree hold hplace)
    · exact absurd hsame.symm (hfree hold' hplace.symm)
    · rfl
  occupied := by
    intro slot
    rw [hreserves.lists_iff, hreserves.occupies_iff, Pending.made.injEq, eq_comm (b := slot)]
    refine or_congr_left ?_
    simpa using htidy.occupied slot
  apart := by
    intro slot hpending hlisted
    obtain rfl := Pending.made.inj hpending
    obtain ⟨found, hfound, -⟩ := htidy.allots_of_lists ((hreserves.lists_iff _).mp hlisted)
    simp at hfound
  once hafter := htidy.once (hreserves.pool? ▸ hafter)
  room hafter := htidy.room (hreserves.pool? ▸ hafter)
  early := by
    intro key hmem
    rw [hreserves.early] at hmem
    obtain ⟨found, hfound, hclosed⟩ := htidy.early hmem
    have hne : key ≠ first.nextConnection := by
      rintro rfl
      simp at hfound
    exact ⟨found, by rw [hreserves.connection?, if_neg hne, hfound], hclosed⟩
  settled := by
    intro slot hslot
    obtain ⟨hallotted, hmem⟩ := htidy.settled hslot
    exact ⟨(hreserves.allots_iff slot).mpr (.inl hallotted), hreserves.early ▸ hmem⟩

theorem Tidy.number_ne_of_mem {slot : Slot} (htidy : Tidy settled (.made slot) network)
    (hpool : network.pool? slot.pool = some pool) {entry : ConnectionId × ConnectionKey}
    (hmem : entry ∈ pool.listed) : entry.1 ≠ slot.number := by
  obtain ⟨number, key⟩ := entry
  rintro rfl
  have hlisted : network.Lists ⟨slot.pool, slot.number, key⟩ := ⟨pool, hpool, hmem⟩
  have hkey : key = slot.key :=
    htidy.unique (htidy.allots_of_lists hlisted) (htidy.allots_of_pending rfl) rfl rfl
  exact htidy.apart rfl ⟨pool, hpool, hkey ▸ hmem⟩

private theorem Tidy.listed_of_pending {slot : Slot} (htidy : Tidy settled (.made slot) network)
    (hpool : network.pool? slot.pool = some pool) :
    (pool.list slot.number slot.key).listed = pool.listed ++ [(slot.number, slot.key)] := by
  have hkeep : (pool.listed.filter fun entry => entry.1 != slot.number) = pool.listed :=
    List.filter_eq_self.mpr fun entry hmem => by simpa using htidy.number_ne_of_mem hpool hmem
  rw [Pool.list, hkeep]

/-- What is pending goes to the end of the list. -/
theorem Tidy.lists {slot : Slot} (htidy : Tidy settled (.made slot) network) :
    Tidy settled .nothing
      (network.modifyPool slot.pool fun found => found.list slot.number slot.key) := by
  obtain ⟨pool, hpool, -⟩ := htidy.numbered (htidy.allots_of_pending rfl)
  have hlisted := htidy.listed_of_pending hpool
  let final := network.modifyPool slot.pool fun found => found.list slot.number slot.key
  have hpools : ∀ other, final.pool? other =
      if other = slot.pool then some (pool.list slot.number slot.key)
      else network.pool? other := by
    intro other
    rw [pool?_modifyPool]
    split
    next heq => rw [heq, hpool, Option.map_some]
    next => rfl
  have hlists : ∀ other, final.Lists other ↔ network.Lists other ∨ slot = other := by
    rintro ⟨place, number, key⟩
    unfold Lists
    rw [hpools]
    split
    next heq =>
      obtain rfl : place = slot.pool := heq
      simp only [Option.some.injEq, exists_eq_left', hlisted, List.mem_append, List.mem_singleton,
        Prod.mk.injEq, hpool]
      refine or_congr_right ⟨?_, ?_⟩
      · rintro ⟨rfl, rfl⟩
        rfl
      · intro heq
        exact ⟨(congrArg Slot.number heq).symm, (congrArg Slot.key heq).symm⟩
    next hne =>
      refine (or_iff_left ?_).symm
      rintro rfl
      exact hne rfl
  exact
    { numbered := by
        intro other hother
        obtain ⟨found, hfound, hle⟩ := htidy.numbered hother
        rw [hpools]
        split
        next heq =>
          rw [heq, hpool] at hfound
          obtain rfl := Option.some.inj hfound
          exact ⟨_, rfl, hle⟩
        next => exact ⟨found, hfound, hle⟩
      promised := fun hpending => by cases hpending
      unique := htidy.unique
      occupied := by
        intro other
        have hsame := htidy.occupied other
        rw [Pending.made.injEq] at hsame
        rw [hlists, or_iff_left Pending.noConfusion]
        exact hsame
      apart := fun hpending => by cases hpending
      once := by
        intro place after hafter
        rw [hpools] at hafter
        split at hafter
        next heq =>
          obtain rfl := Option.some.inj hafter
          rw [hlisted, List.map_append, List.map_singleton, List.nodup_append]
          refine ⟨htidy.once hpool, by simp, fun number hmem other hother heq => ?_⟩
          obtain ⟨entry, hentry, rfl⟩ := List.mem_map.mp hmem
          exact htidy.number_ne_of_mem hpool hentry (heq.trans (List.mem_singleton.mp hother))
        next => exact htidy.once hafter
      room := by
        intro place after hafter
        have hroom := htidy.room hpool
        rw [hpools] at hafter
        split at hafter
        next heq =>
          obtain rfl := Option.some.inj hafter
          have hmax : (pool.list slot.number slot.key).maxConnections = pool.maxConnections := rfl
          rw [Pool.size, hlisted, hmax]
          simpa [Pool.size, Pending.isFor] using hroom
        next hne =>
          have helsewhere : (slot.pool == place) = false := beq_false_of_ne (Ne.symm hne)
          simpa [Pending.isFor, helsewhere] using htidy.room hafter
      early := htidy.early
      settled := htidy.settled }

end Network

end Multiplex
