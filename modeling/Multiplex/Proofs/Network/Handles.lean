import Multiplex.Proofs.Network.Release

/-!
# Where connections are housed

A connection has a session.  While it is open it is there: somebody holds it, or its
pool lists it.  Once it is closed it lists no channel any more, and its session is
closed too.

Pools number the connections that they open, and list each of them under its number.
So no two connections of a pool are confused when one of them goes away.
-/

namespace Multiplex

/-- A connection without regard to the channels that it lists. -/
def Connection.shell (connection : Connection) : Connection := { connection with live := [] }

namespace Network

variable {α : Type} {first second network : Network α} {key : ConnectionKey} {id : ChannelId}

/-- A connection is there if somebody holds it or its pool lists it. -/
theorem isConnectionAlive_iff :
    network.isConnectionAlive key = true ↔ ∃ connection, network.connection? key = some connection ∧
      (connection.isHeld = true ∨ ∃ place pool, connection.destination = .pool place ∧
        network.pool? place = some pool ∧ pool.lists key = true) := by
  unfold isConnectionAlive
  cases network.connection? key with
  | none => simp
  | some connection =>
      simp only [Bool.or_eq_true, Option.some.injEq, exists_eq_left']
      refine or_congr Iff.rfl ?_
      cases connection.destination with
      | gone => simp
      | observed => simp
      | pool place => simp [Option.any_eq_true]

/-- Connections and pools agree. -/
structure Numbered (network : Network α) : Prop where
  /-- What a pool lists is a connection of the pool, under its own number. -/
  listed : ∀ {place pool number key}, network.pool? place = some pool →
    (number, key) ∈ pool.listed → ∃ connection, network.connection? key = some connection ∧
      connection.id = number ∧ connection.destination = .pool place
  /-- The connections of a pool have the numbers that the pool gave out. -/
  numbered : ∀ {key connection place}, network.connection? key = some connection →
    connection.destination = .pool place →
    ∃ pool, network.pool? place = some pool ∧ connection.id.number ≤ pool.opened
  unique : ∀ {key other connection found place}, network.connection? key = some connection →
    network.connection? other = some found → connection.destination = .pool place →
    found.destination = .pool place → connection.id = found.id → key = other

/-- Connections, sessions and pools agree. -/
structure Housed (network : Network α) : Prop extends Numbered network where
  session : ∀ {key connection}, network.connection? key = some connection →
    ∃ session, network.session? connection.session = some session ∧
      (connection.isClosed = true → session.transport.isClosed = true)
  closed : ∀ {key connection}, network.connection? key = some connection →
    connection.isClosed = true → connection.live = []
  alive : ∀ {key connection}, network.connection? key = some connection →
    connection.isClosed = false → network.isConnectionAlive key = true

/-- Whether connections and pools agree is a matter of these alone. -/
theorem Numbered.congr (hnumbered : Numbered first)
    (hconnection : second.connection? = first.connection?) (hpool : second.pool? = first.pool?) :
    Numbered second where
  listed hfound hmem := by
    rw [hpool] at hfound
    rw [hconnection]
    exact hnumbered.listed hfound hmem
  numbered hthere hdestination := by
    rw [hconnection] at hthere
    rw [hpool]
    exact hnumbered.numbered hthere hdestination
  unique hthere hother := by
    rw [hconnection] at hthere hother
    exact hnumbered.unique hthere hother

/-- Connections and pools agree as long as no connection comes to a pool and no pool lists
more than it did. -/
theorem Numbered.of_after (hnumbered : Numbered first)
    (hbefore : ∀ {key after}, second.connection? key = some after →
      ∃ before, first.connection? key = some before ∧ after.id = before.id ∧
        ∀ place, after.destination = .pool place ↔ before.destination = .pool place)
    (hafter : ∀ {key before}, first.connection? key = some before →
      ∃ after, second.connection? key = some after)
    (hpool : ∀ {place before}, first.pool? place = some before →
      ∃ after, second.pool? place = some after ∧ before.opened ≤ after.opened)
    (hlisted : ∀ {place after}, second.pool? place = some after →
      ∃ before, first.pool? place = some before ∧ after.listed ⊆ before.listed) :
    Numbered second where
  listed hfound hmem := by
    obtain ⟨pool, hplace, hsubset⟩ := hlisted hfound
    obtain ⟨connection, hconnection, hid, hdestination⟩ :=
      hnumbered.listed hplace (hsubset hmem)
    obtain ⟨after, hthere⟩ := hafter hconnection
    obtain ⟨before, hsame, hnumber, hgoes⟩ := hbefore hthere
    obtain rfl := Option.some.inj (hconnection.symm.trans hsame)
    exact ⟨after, hthere, hnumber.trans hid, (hgoes _).mpr hdestination⟩
  numbered hthere hdestination := by
    obtain ⟨before, hconnection, hnumber, hgoes⟩ := hbefore hthere
    obtain ⟨pool, hplace, hle⟩ := hnumbered.numbered hconnection ((hgoes _).mp hdestination)
    obtain ⟨found, hfound, hopened⟩ := hpool hplace
    exact ⟨found, hfound, hnumber ▸ Nat.le_trans hle hopened⟩
  unique hleft hright hplace hsame hid := by
    obtain ⟨before, hconnection, hnumber, hgoes⟩ := hbefore hleft
    obtain ⟨other, hother, hnumber', hgoes'⟩ := hbefore hright
    exact hnumbered.unique hconnection hother ((hgoes _).mp hplace) ((hgoes' _).mp hsame)
      (hnumber.symm.trans (hid.trans hnumber'))

namespace Housed

variable (hhoused : Housed network)
include hhoused

/-- A connection that lists a channel is open, and it is there. -/
theorem of_registered (hregistered : network.Registered key id) :
    network.isConnectionAlive key = true ∧ ∃ connection,
      network.connection? key = some connection ∧ id ∈ connection.live ∧
        connection.isClosed = false := by
  obtain ⟨connection, hconnection, hlive⟩ := hregistered
  have hopen : connection.isClosed = false := by
    cases hclosed : connection.isClosed with
    | false => rfl
    | true => simp [hhoused.closed hconnection hclosed] at hlive
  exact ⟨hhoused.alive hconnection hopen, connection, hconnection, hlive, hopen⟩

end Housed

/-! ## What leaves connections where they are -/

/-- A session that looks the same from outside is there, and stays closed. -/
theorem exists_session_after (hsession : ∀ place, (second.session? place).map Session.outline =
      (first.session? place).map Session.outline) {place : SessionKey} {before : Session}
    (hbefore : first.session? place = some before) :
    ∃ after, second.session? place = some after ∧
      (before.transport.isClosed = true → after.transport.isClosed = true) := by
  have houtline := hsession place
  rw [hbefore] at houtline
  cases hafter : second.session? place with
  | none => simp [hafter] at houtline
  | some after =>
      simp only [hafter, Option.map_some, Session.outline, Option.some.injEq,
        Prod.mk.injEq] at houtline
      exact ⟨after, rfl, fun hclosed => houtline.2.trans hclosed⟩

/-- Nothing changes about connections but the channels that they list, and nothing about
sessions and pools but what they keep for themselves. -/
structure Houses (first second : Network α) : Prop where
  connection : ∀ key, (second.connection? key).map Connection.shell =
    (first.connection? key).map Connection.shell
  closed : ∀ {key connection}, second.connection? key = some connection →
    connection.isClosed = true → connection.live = []
  session : ∀ key, (second.session? key).map Session.outline =
    (first.session? key).map Session.outline
  pool : ∀ key, (second.pool? key).map Pool.outline = (first.pool? key).map Pool.outline

namespace Houses

variable (hhouses : Houses first second)
include hhouses

theorem connection_before {after : Connection} (hafter : second.connection? key = some after) :
    ∃ before, first.connection? key = some before ∧
      after = { before with live := after.live } := by
  have hshell := hhouses.connection key
  rw [hafter] at hshell
  cases hbefore : first.connection? key with
  | none => simp [hbefore] at hshell
  | some before =>
      refine ⟨before, rfl, ?_⟩
      simp only [hbefore, Option.map_some, Option.some.injEq, Connection.shell,
        Connection.mk.injEq] at hshell
      obtain ⟨hid, hdestination, hsession, hlimit, -, hclosed, hhandles⟩ := hshell
      cases after
      simp_all

theorem connection_after {before : Connection} (hbefore : first.connection? key = some before) :
    ∃ after, second.connection? key = some after ∧
      after = { before with live := after.live } := by
  have hshell := hhouses.connection key
  rw [hbefore] at hshell
  cases hafter : second.connection? key with
  | none => simp [hafter] at hshell
  | some after =>
      obtain ⟨found, hfound, heq⟩ := hhouses.connection_before hafter
      rw [hbefore] at hfound
      exact ⟨after, rfl, Option.some.inj hfound ▸ heq⟩

theorem pool_after {place : PoolKey} {before : Pool} (hbefore : first.pool? place = some before) :
    ∃ after, second.pool? place = some after ∧ after.opened = before.opened ∧
      after.listed = before.listed := by
  have houtline := hhouses.pool place
  rw [hbefore] at houtline
  cases hafter : second.pool? place with
  | none => simp [hafter] at houtline
  | some after =>
      simp only [hafter, Option.map_some, Pool.outline, Option.some.injEq,
        Prod.mk.injEq] at houtline
      exact ⟨after, rfl, houtline.1, houtline.2⟩

theorem pool_before {place : PoolKey} {after : Pool} (hafter : second.pool? place = some after) :
    ∃ before, first.pool? place = some before ∧ after.listed = before.listed := by
  have houtline := hhouses.pool place
  rw [hafter] at houtline
  cases hbefore : first.pool? place with
  | none => simp [hbefore] at houtline
  | some before =>
      simp only [hbefore, Option.map_some, Pool.outline, Option.some.injEq,
        Prod.mk.injEq] at houtline
      exact ⟨before, rfl, houtline.2⟩

theorem isConnectionAlive (halive : first.isConnectionAlive key = true) :
    second.isConnectionAlive key = true := by
  obtain ⟨before, hbefore, hcases⟩ := isConnectionAlive_iff.mp halive
  obtain ⟨after, hafter, heq⟩ := hhouses.connection_after hbefore
  refine isConnectionAlive_iff.mpr ⟨after, hafter, ?_⟩
  rw [heq]
  rcases hcases with hheld | ⟨place, pool, hdestination, hpool, hlists⟩
  · exact .inl hheld
  · obtain ⟨found, hfound, -, hlist⟩ := hhouses.pool_after hpool
    exact .inr ⟨place, found, hdestination, hfound, by rwa [Pool.lists, hlist]⟩

/-- Connections stay housed where they are left alone. -/
theorem housed (hhoused : Housed first) : Housed second where
  toNumbered := by
    refine hhoused.toNumbered.of_after (fun hafter => ?_) (fun hbefore => ?_) (fun hpool => ?_)
      fun hpool => ?_
    · obtain ⟨before, hbefore, heq⟩ := hhouses.connection_before hafter
      rw [heq]
      exact ⟨before, hbefore, rfl, fun _ => Iff.rfl⟩
    · obtain ⟨after, hafter, -⟩ := hhouses.connection_after hbefore
      exact ⟨after, hafter⟩
    · obtain ⟨found, hfound, hopened, -⟩ := hhouses.pool_after hpool
      exact ⟨found, hfound, Nat.le_of_eq hopened.symm⟩
    · obtain ⟨before, hbefore, hlist⟩ := hhouses.pool_before hpool
      exact ⟨before, hbefore, hlist ▸ List.Subset.refl _⟩
  session hafter := by
    obtain ⟨before, hbefore, heq⟩ := hhouses.connection_before hafter
    obtain ⟨session, hsession, hclosed⟩ := hhoused.session hbefore
    obtain ⟨found, hfound, hstays⟩ := exists_session_after hhouses.session hsession
    rw [heq]
    exact ⟨found, hfound, fun hbefore => hstays (hclosed hbefore)⟩
  closed := hhouses.closed
  alive hafter hopen := by
    obtain ⟨before, hbefore, heq⟩ := hhouses.connection_before hafter
    rw [heq] at hopen
    exact hhouses.isConnectionAlive (hhoused.alive hbefore hopen)

end Houses

/-! ## What changes around connections -/

/-- Connections stay housed while no session opens again and no pool unlists anything. -/
theorem Housed.of_surroundings (hhoused : Housed first)
    (hconnection : second.connection? = first.connection?)
    (hsession : ∀ {place before}, first.session? place = some before →
      ∃ after, second.session? place = some after ∧
        (before.transport.isClosed = true → after.transport.isClosed = true))
    (hpool : ∀ {place before}, first.pool? place = some before →
      ∃ after, second.pool? place = some after ∧ before.opened ≤ after.opened ∧
        after.listed = before.listed)
    (hfresh : ∀ {place after}, first.pool? place = none → second.pool? place = some after →
      after.listed = []) : Housed second where
  listed := by
    intro place after number key hafter hmem
    rw [hconnection]
    cases hbefore : first.pool? place with
    | none => simp [hfresh hbefore hafter] at hmem
    | some before =>
        obtain ⟨found, hfound, -, hlist⟩ := hpool hbefore
        obtain rfl := Option.some.inj (hafter.symm.trans hfound)
        exact hhoused.listed hbefore (hlist ▸ hmem)
  numbered := by
    intro key connection place hthere hdestination
    rw [hconnection] at hthere
    obtain ⟨before, hbefore, hle⟩ := hhoused.numbered hthere hdestination
    obtain ⟨after, hafter, hopened, -⟩ := hpool hbefore
    exact ⟨after, hafter, Nat.le_trans hle hopened⟩
  unique := by
    rw [hconnection]
    exact hhoused.unique
  session := by
    intro key connection hthere
    rw [hconnection] at hthere
    obtain ⟨before, hbefore, hclosed⟩ := hhoused.session hthere
    obtain ⟨after, hafter, hstays⟩ := hsession hbefore
    exact ⟨after, hafter, fun hover => hstays (hclosed hover)⟩
  closed := by
    rw [hconnection]
    exact hhoused.closed
  alive := by
    intro key connection hthere hopen
    rw [hconnection] at hthere
    obtain ⟨same, hsame, hcases⟩ := isConnectionAlive_iff.mp (hhoused.alive hthere hopen)
    refine isConnectionAlive_iff.mpr ⟨same, by rwa [hconnection], ?_⟩
    rcases hcases with hheld | ⟨place, before, hdestination, hbefore, hlists⟩
    · exact .inl hheld
    · obtain ⟨after, hafter, -, hlist⟩ := hpool hbefore
      exact .inr ⟨place, after, hdestination, hafter, by rwa [Pool.lists, hlist]⟩

/-- Connections stay housed while nothing changes about one of them but its handles, or
that it loses a destination which is no pool. -/
theorem Housed.modifyConnection (hhoused : Housed network) {change : Connection → Connection}
    (hchange : ∀ connection, (change connection).id = connection.id ∧
      (change connection).session = connection.session ∧
      (change connection).live = connection.live ∧
      (change connection).isClosed = connection.isClosed ∧
      ∀ place, (change connection).destination = .pool place ↔
        connection.destination = .pool place)
    (halive : ∀ connection, network.connection? key = some connection →
      connection.isClosed = false →
      (network.modifyConnection key change).isConnectionAlive key = true) :
    Housed (network.modifyConnection key change) := by
  have hbefore : ∀ {other after}, (network.modifyConnection key change).connection? other =
      some after → ∃ before, network.connection? other = some before ∧
        (after = before ∨ other = key ∧ after = change before) := by
    intro other after hafter
    rw [connection?_modifyConnection] at hafter
    split at hafter
    next heq =>
      obtain ⟨before, hbefore, rfl⟩ := Option.map_eq_some_iff.mp hafter
      exact ⟨before, hbefore, .inr ⟨heq, rfl⟩⟩
    next => exact ⟨after, hafter, .inl rfl⟩
  exact
    { toNumbered := by
        refine hhoused.toNumbered.of_after (fun hafter => ?_) (fun hfound => ?_)
          (fun hpool => ⟨_, hpool, Nat.le_refl _⟩) fun hpool => ⟨_, hpool, List.Subset.refl _⟩
        · obtain ⟨before, hfound, rfl | ⟨-, rfl⟩⟩ := hbefore hafter
          · exact ⟨_, hfound, rfl, fun _ => Iff.rfl⟩
          · exact ⟨before, hfound, (hchange before).1, (hchange before).2.2.2.2⟩
        · rw [connection?_modifyConnection, hfound]
          split
          · exact ⟨_, rfl⟩
          · exact ⟨_, rfl⟩
      session := by
        intro other after hafter
        obtain ⟨before, hfound, rfl | ⟨-, rfl⟩⟩ := hbefore hafter
        · exact hhoused.session hfound
        · rw [(hchange before).2.1, (hchange before).2.2.2.1]
          exact hhoused.session hfound
      closed := by
        intro other after hafter
        obtain ⟨before, hfound, rfl | ⟨-, rfl⟩⟩ := hbefore hafter
        · exact hhoused.closed hfound
        · rw [(hchange before).2.2.1, (hchange before).2.2.2.1]
          exact hhoused.closed hfound
      alive := by
        intro other after hafter hopen
        obtain ⟨before, hfound, hcases⟩ := hbefore hafter
        -- Whether a connection is there depends on its own handles and on its pool alone.
        by_cases heq : other = key
        · subst heq
          refine halive before hfound ?_
          rcases hcases with rfl | ⟨-, rfl⟩
          · exact hopen
          · rwa [(hchange before).2.2.2.1] at hopen
        · obtain rfl := hcases.resolve_right fun hand => heq hand.1
          obtain ⟨same, hsame, hthere⟩ := isConnectionAlive_iff.mp (hhoused.alive hfound hopen)
          refine isConnectionAlive_iff.mpr ⟨same, ?_, hthere⟩
          rw [connection?_modifyConnection, if_neg heq, hsame] }

/-! ## New connections -/

/-- A new connection is housed if it has a session, somebody holds it, and its number is new
in its pool. -/
theorem Housed.addConnection (hhoused : Housed network) {connection : Connection}
    (hlive : connection.live = []) (hopen : connection.isClosed = false)
    (hheld : connection.isHeld = true)
    (hsession : ∃ session, network.session? connection.session = some session)
    (hnumber : ∀ place, connection.destination = .pool place →
      ∃ pool, network.pool? place = some pool ∧ connection.id.number ≤ pool.opened)
    (hfresh : ∀ place, connection.destination = .pool place → ∀ other found,
      network.connection? other = some found → found.destination = .pool place →
        found.id ≠ connection.id) :
    Housed (network.addConnection connection).1 := by
  -- Either the connection was there before, or it is the new one.
  have hcases : ∀ {key after}, (network.addConnection connection).1.connection? key = some after →
      network.connection? key = some after ∨ key = network.nextConnection ∧ after = connection := by
    intro key after hafter
    rw [connection?_addConnection] at hafter
    split at hafter
    next heq => exact .inr ⟨heq, (Option.some.inj hafter).symm⟩
    next => exact .inl hafter
  have hold : ∀ {key before}, network.connection? key = some before →
      (network.addConnection connection).1.connection? key = some before := by
    intro key before hbefore
    rw [connection?_addConnection, if_neg, hbefore]
    intro heq
    simp [heq] at hbefore
  exact
    { listed := by
        intro place pool number key hpool hmem
        obtain ⟨before, hbefore, hplace⟩ := hhoused.listed hpool hmem
        exact ⟨before, hold hbefore, hplace⟩
      numbered := by
        intro key after place hafter hdestination
        rcases hcases hafter with hbefore | ⟨-, rfl⟩
        · exact hhoused.numbered hbefore hdestination
        · exact hnumber place hdestination
      unique := by
        intro key other after found place hafter hfound hplace hsame hid
        rcases hcases hafter with hbefore | ⟨heq, rfl⟩
        · rcases hcases hfound with hother | ⟨-, rfl⟩
          · exact hhoused.unique hbefore hother hplace hsame hid
          · exact absurd hid (hfresh place hsame key after hbefore hplace)
        · rcases hcases hfound with hother | ⟨heq', -⟩
          · exact absurd hid.symm (hfresh place hplace other found hother hsame)
          · rw [heq, heq']
      session := by
        intro key after hafter
        rcases hcases hafter with hbefore | ⟨-, rfl⟩
        · exact hhoused.session hbefore
        · obtain ⟨session, hfound⟩ := hsession
          exact ⟨session, hfound, fun hclosed => by simp [hopen] at hclosed⟩
      closed := by
        intro key after hafter hclosed
        rcases hcases hafter with hbefore | ⟨-, rfl⟩
        · exact hhoused.closed hbefore hclosed
        · exact hlive
      alive := by
        intro key after hafter hthere
        rcases hcases hafter with hbefore | ⟨-, rfl⟩
        · obtain ⟨same, hsame, hkept⟩ := isConnectionAlive_iff.mp (hhoused.alive hbefore hthere)
          exact isConnectionAlive_iff.mpr ⟨same, hold hsame, hkept⟩
        · exact isConnectionAlive_iff.mpr ⟨after, hafter, .inl hheld⟩ }

/-- A pool may list a connection that is numbered for it. -/
theorem Housed.list (hhoused : Housed network) {place : PoolKey} {connection : Connection}
    (hconnection : network.connection? key = some connection)
    (hdestination : connection.destination = .pool place) :
    Housed (network.modifyPool place fun found => found.list connection.id key) := by
  have hpool : ∀ {other before}, network.pool? other = some before →
      ∃ after, (network.modifyPool place fun found => found.list connection.id key).pool? other =
        some after ∧ after.opened = before.opened ∧
        (after = before ∨ other = place ∧ after = before.list connection.id key) := by
    intro other before hbefore
    rw [pool?_modifyPool, hbefore]
    split
    next heq => exact ⟨_, rfl, rfl, .inr ⟨heq, rfl⟩⟩
    next => exact ⟨before, rfl, rfl, .inl rfl⟩
  have hbefore : ∀ {other after}, (network.modifyPool place fun found =>
      found.list connection.id key).pool? other = some after →
        ∃ before, network.pool? other = some before := by
    intro other after hafter
    rw [pool?_modifyPool] at hafter
    cases hthere : network.pool? other with
    | none => simp [hthere] at hafter
    | some before => exact ⟨before, rfl⟩
  exact
    { listed := by
        intro other after number found hafter hmem
        obtain ⟨before, hthere⟩ := hbefore hafter
        obtain ⟨same, hsame, -, hcases⟩ := hpool hthere
        obtain rfl := Option.some.inj (hafter.symm.trans hsame)
        rcases hcases with rfl | ⟨heq, rfl⟩
        · exact hhoused.listed hthere hmem
        · rcases List.mem_append.mp hmem with hmem | hmem
          · exact hhoused.listed hthere (List.mem_filter.mp hmem).1
          · obtain ⟨rfl, rfl⟩ := Prod.mk.inj (List.mem_singleton.mp hmem)
            exact ⟨connection, hconnection, rfl, heq ▸ hdestination⟩
      numbered := by
        intro other found target hfound hgoes
        obtain ⟨before, hthere, hle⟩ := hhoused.numbered hfound hgoes
        obtain ⟨after, hafter, hopened, -⟩ := hpool hthere
        exact ⟨after, hafter, hopened ▸ hle⟩
      unique := hhoused.unique
      session := hhoused.session
      closed := hhoused.closed
      alive := by
        intro other found hfound hopen
        obtain ⟨same, hsame, hcases⟩ := isConnectionAlive_iff.mp (hhoused.alive hfound hopen)
        refine isConnectionAlive_iff.mpr ⟨same, hsame, ?_⟩
        rcases hcases with hheld | ⟨target, before, hgoes, hthere, hlists⟩
        · exact .inl hheld
        · obtain ⟨after, hafter, -, rfl | ⟨heq, rfl⟩⟩ := hpool hthere
          · exact .inr ⟨target, after, hgoes, hafter, hlists⟩
          · refine .inr ⟨target, _, hgoes, hafter, ?_⟩
            simp only [Pool.lists, List.any_eq_true, beq_iff_eq, Prod.exists, Pool.list] at hlists ⊢
            obtain ⟨number, found', hmem, rfl⟩ := hlists
            by_cases hnumber : number = connection.id
            · -- Only the connection itself can have been listed under its number before.
              obtain ⟨listed, hlisted, hid, hplace⟩ := hhoused.listed hthere hmem
              have hkey : found' = key := hhoused.unique hlisted hconnection hplace
                (heq ▸ hdestination) (hid.trans hnumber)
              exact ⟨connection.id, key, by simp, hkey.symm⟩
            · exact ⟨number, found', List.mem_append_left _
                (List.mem_filter.mpr ⟨hmem, by simpa using hnumber⟩), rfl⟩ }

end Network

end Multiplex
