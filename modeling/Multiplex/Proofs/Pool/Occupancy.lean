import Multiplex.Proofs.Pool.Slots

/-!
# Which connections occupy the slots of a pool

A session may report its end at any moment at which it is called, also while the connection
over it is being made.  The report closes the connection, and the close takes the connection
off the list of its pool.  If the pool has listed the connection, its slot is free again.

A report that is made while the session is attached comes early: the pool does not list the
connection yet, and afterwards it lists the connection all the same.  Nobody takes it off any
more, since a connection is closed only once.  These are the only closed connections that a
pool ever lists, and it lists them for ever (`closed_connections_came_early`,
`early_report_occupies_a_slot`).

The slots stay tidy whatever sessions report and whenever they are called
(`endures_conducting`), so they do in the middle of any dealing, and afterwards
(`Tidy.dealsAmid`).
-/

namespace Multiplex

/-! ## What sessions do when they are called -/

/-- What a session reports of its end. -/
inductive News
  | goneAway (code : ErrorCode) (reason : String)
  | failed (error : SessionError)

/-- Why a connection is closed that hears such a report. -/
def News.reason : News → CloseReason
  | .goneAway code reason => .byPeer code reason
  | .failed error => .ofSessionError error

/-- What the surroundings do when they are called: a session reports its end to whoever listens
to it, or becomes another. -/
inductive Deed
  | reports (session : SessionKey) (news : News)
  | becomes (session : SessionKey) (transport : Transport)

/-- A rule by which surroundings act at each moment: what they do, and what they remember. -/
abbrev Conduct (α : Type) := Moment → Network (α × List ConnectionKey) → List Deed × α

namespace Network

variable {α : Type}

/-- Takes down who is told too early, if a session reports its end now. -/
def noteEarly (network : Network (α × List ConnectionKey)) (session : SessionKey) :
    Network (α × List ConnectionKey) :=
  match (network.sessionListener? session).filter network.isUnlisted with
  | none => network
  | some key =>
    { network with surroundings := (network.surroundings.1, key :: network.surroundings.2) }

/-- The connection that listens to a session hears of its end. -/
def hearsNews (react : Reaction α) (network : Network α) (session : SessionKey) : News → Network α
  | .goneAway code reason => network.goAway react session code reason
  | .failed error => network.failSession react session error

/-- Does a deed. -/
def obey (react : Reaction (α × List ConnectionKey)) (network : Network (α × List ConnectionKey)) :
    Deed → Network (α × List ConnectionKey)
  | .reports session news => (network.noteEarly session).hearsNews react session news
  | .becomes session transport => network.moveSession session transport

/-- Surroundings that act by a rule.  They are called again in the course of what they do, and
act again, so many times deep. -/
def conducting (conduct : Conduct α) : Nat → Reaction (α × List ConnectionKey)
  | 0 => quiet
  | depth + 1 => fun moment network =>
    let (deeds, memory) := conduct moment network
    deeds.foldl (obey (conducting conduct depth))
      { network with surroundings := (memory, network.surroundings.2) }

end Network

/-! ## Dealings amid such surroundings -/

/-- Whether an operation dispatches an exchange. -/
def Operation.isDispatch : Operation → Bool
  | .send .. | .sendOnChannel .. => true
  | _ => false

namespace Network

variable {α : Type} (react : Reaction α)

/-- Performs an operation amid surroundings that react. -/
def performs (network : Network α) : Operation → Network α
  | .makeConnection id observed session limit =>
    if (network.session? session).isSome then
      (network.connect react
        { id, destination := Connection.watchedBy observed, session, limit }).1
    else network
  | .send connection exchange =>
    if network.holds exchange then (network.send react connection exchange).1 else network
  | .sendOnChannel channel exchange =>
    if (network.channel? channel).any Channel.isHeld && network.holds exchange then
      (network.sendOnChannel react channel exchange).1
    else network
  | .hears listener event => network.hears react listener event
  | .abort exchange error =>
    if network.holds exchange then (network.abort react exchange error).1 else network
  | .close connection reason => (network.close react connection reason).1
  | .goAway session code reason => network.goAway react session code reason
  | .failSession session error => network.failSession react session error
  | operation => network.undergo operation

private theorem performs_quiet (network : Network α) (operation : Operation) :
    network.performs quiet operation = network.undergo operation := by
  cases operation <;> rfl

/-- Takes part in a dealing amid surroundings that react. -/
def dealAmid (network : Network α) : Dealing → Network α
  | .send pool exchange =>
    if network.holds exchange then (network.sendPooled react pool exchange).1 else network
  | .acquire pool => (network.acquire react pool).1
  | .close pool => network.closePool react pool
  | .rearrange pool order => network.rearrange pool order
  | .advance milliseconds => (network.elapse milliseconds).deliverDue react
  | .deliver session reply => network.deliverOne react session reply
  | .outside operation _ => network.performs react operation

/-- Amid sessions that make up their minds this is what was called to take part in a dealing,
unless an exchange is dispatched past the pools, where sessions were not asked. -/
theorem dealAmid_answering (network : Network α) (answer : Answering α) (dealing : Dealing)
    (hpast : ∀ operation hoperation, dealing = .outside operation hoperation →
      operation.isDispatch = false) :
    network.dealAmid (answering answer) dealing = network.deal answer dealing := by
  cases dealing with
  | outside operation hoperation =>
      have hquiet : network.performs (answering answer) operation =
          network.performs quiet operation := by
        have hother := hpast operation hoperation rfl
        cases operation <;> first | rfl | cases hother
      exact hquiet.trans (network.performs_quiet operation)
  | _ => rfl

/-- Takes part in several dealings one after the other. -/
def dealsAmid (network : Network α) (dealings : List Dealing) : Network α :=
  dealings.foldl (dealAmid react) network

end Network

/-! ## Slots amid such surroundings -/

namespace Network

variable {α : Type} {settled : Slot → Prop} {pending : Pending}
  {first second network : Network (α × List ConnectionKey)} {key : ConnectionKey}
  {connection : Connection} {place : PoolKey} {pool : Pool}

theorem endures_tidy {react : Reaction (α × List ConnectionKey)}
    (hreact : ∀ {network} (moment : Moment), Tidy settled pending network →
      Tidy settled pending (react moment network)) : Endures react (Tidy settled pending) where
  congr htidy hconnection hpool hsurroundings :=
    htidy.congr hconnection hpool (congrArg Prod.snd hsurroundings)
  modifyConnection {network} key change hchange htidy := by
    refine htidy.evolves (fun other => ?_) (fun _ => .of_eq Pool.Stays.refl rfl) rfl
    rw [connection?_modifyConnection]
    split
    next => exact .of_map hchange
    next => exact .of_eq Connection.Berths.refl rfl
  modifyPool {network} place change hchange htidy := by
    have hpool : ∀ other, Evolves Pool.Stays Pool.IsNew (network.pool? other)
        ((network.modifyPool place change).pool? other) := by
      intro other
      rw [pool?_modifyPool]
      split
      next => exact .of_map hchange
      next => exact .of_eq Pool.Stays.refl rfl
    have hconnection : (network.modifyPool place change).connection? = network.connection? := rfl
    exact htidy.evolves
      (fun key => .of_eq Connection.Berths.refl (congrFun hconnection key)) hpool rfl
  react := hreact

/-- To shut an open connection keeps the slots tidy, if the record is kept. -/
theorem Tidy.shut {react : Reaction (α × List ConnectionKey)}
    (hendures : Endures react (Tidy settled pending)) (htidy : Tidy settled pending first)
    (hconnection : first.connection? key = some connection) (hopen : connection.isClosed = false)
    (hthere : second.connection? = first.connection?) (hpools : second.pool? = first.pool?)
    (hearly : second.early = if pending.isMade key then key :: first.early else first.early) :
    Tidy settled pending (second.shut react key) := by
  let closed : Connection :=
    { connection with isClosed := true, handles := connection.handles + 1 }
  let closing := (second.modifyConnection key fun found =>
    { found with isClosed := true }).retainConnection key
  have hafter : ∀ other, closing.connection? other =
      if other = key then some closed else first.connection? other := by
    intro other
    simp only [closing, retainConnection, connection?_modifyConnection, hthere]
    split
    next heq =>
      rw [heq, hconnection]
      rfl
    next => rfl
  have hclosing : closing.connection? key = some closed := by rw [hafter, if_pos rfl]
  -- Whatever the destination is, the pool is as it should be once it has been told.
  have hshuts : ∀ third : Network (α × List ConnectionKey),
      third.connection? = closing.connection? → third.early = closing.early →
      (∀ place, third.pool? place = if connection.destination = .pool place then
          (first.pool? place).map fun pool => pool.unlist connection.id
        else first.pool? place) → Tidy settled pending third := by
    intro third hsame hrecord hpool
    have hvacates : Vacates pending first third key connection closed :=
      { found := hconnection
        isOpen := hopen
        id := rfl
        destination := rfl
        isClosed := rfl
        connection? := by rwa [hsame]
        pool? := hpool
        early := hrecord.trans hearly }
    exact htidy.vacates hvacates
  change Tidy settled pending (closing.announceRemoval react key)
  unfold announceRemoval
  simp only [hclosing]
  split
  next hgone =>
    have hgoes : connection.destination = .gone := hgone
    exact hshuts closing rfl rfl fun place => by
      rw [hgoes, if_neg (by simp)]
      exact congrFun hpools place
  next hobserved =>
    have hgoes : connection.destination = .observed := hobserved
    refine hendures.react _ (hshuts _ rfl rfl fun place => ?_)
    rw [hgoes, if_neg (by simp)]
    exact congrFun hpools place
  next place hpooled =>
    have hgoes : connection.destination = .pool place := hpooled
    refine hshuts _ rfl rfl fun other => ?_
    rw [pool?_modifyPool, hgoes]
    change (if other = place then (second.pool? other).map _ else second.pool? other) = _
    rw [hpools]
    by_cases heq : other = place
    · rw [if_pos heq, if_pos (by rw [heq])]
    · rw [if_neg heq, if_neg fun hsame => heq (Destination.pool.inj hsame).symm]

/-! ## Surroundings that act -/

theorem hearsNews_eq (react : Reaction α) (network : Network α) (session : SessionKey)
    (news : News) : network.hearsNews react session news =
      match network.sessionListener? session with
      | none => network
      | some key => (network.close react key news.reason).1 := by
  cases news <;> rfl

/-- A connection that hears of the end of its session leaves the slots tidy, whether it is
listed, or pending, or belongs to no pool. -/
theorem Tidy.reports {react : Reaction (α × List ConnectionKey)}
    (hendures : Endures react (Tidy settled pending)) (htidy : Tidy settled pending network)
    (session : SessionKey) (news : News) :
    Tidy settled pending ((network.noteEarly session).hearsNews react session news) := by
  rw [hearsNews_eq]
  cases hlistener : network.sessionListener? session with
  | none =>
      have hsilent : network.noteEarly session = network := by simp [noteEarly, hlistener]
      rw [hsilent, hlistener]
      exact htidy
  | some key =>
  cases hunlisted : network.isUnlisted key with
  | false =>
      have hlate : network.noteEarly session = network := by
        simp [noteEarly, hlistener, Option.filter, hunlisted]
      rw [hlate, hlistener]
      refine hendures.close key news.reason htidy fun hconnection hopen => ?_
      refine htidy.shut hendures hconnection hopen rfl rfl ?_
      rw [← htidy.isUnlisted_eq hconnection hopen, hunlisted, if_neg Bool.false_ne_true]
  | true =>
      let told : Network (α × List ConnectionKey) :=
        { network with surroundings := (network.surroundings.1, key :: network.surroundings.2) }
      have hearly : network.noteEarly session = told := by
        simp [noteEarly, hlistener, Option.filter, hunlisted, told]
      have hlistens : told.sessionListener? session = some key := hlistener
      obtain ⟨connection, hconnection, hopen⟩ : ∃ connection,
          network.connection? key = some connection ∧ connection.isClosed = false := by
        obtain ⟨connection, hconnection, hboth⟩ := (Option.any_eq_true ..).mp hunlisted
        exact ⟨connection, hconnection, by simpa using (Bool.and_eq_true_iff.mp hboth).1⟩
      have hthere : told.connection? key = some connection := hconnection
      rw [hearly, hlistens]
      refine hendures.close_of_open hthere hopen news.reason ?_
      refine htidy.shut hendures hconnection hopen rfl rfl ?_
      rw [← htidy.isUnlisted_eq hconnection hopen, hunlisted, if_pos rfl]
      rfl

theorem early_moveSession (network : Network (α × List ConnectionKey)) (session : SessionKey)
    (transport : Transport) : (network.moveSession session transport).early = network.early := by
  unfold moveSession
  split
  · rfl
  · split <;> rfl

private theorem endures_conducting (conduct : Conduct α) (depth : Nat) (settled : Slot → Prop)
    (pending : Pending) : Endures (conducting conduct depth) (Tidy settled pending) := by
  induction depth with
  | zero => exact endures_tidy fun _ htidy => htidy
  | succ depth ih =>
      refine endures_tidy fun {network} moment htidy => ?_
      have hready : Tidy settled pending
          { network with surroundings := ((conduct moment network).2, network.surroundings.2) } :=
        htidy.congr rfl rfl rfl
      change Tidy settled pending ((conduct moment network).1.foldl _ _)
      revert hready
      generalize { network with
        surroundings := ((conduct moment network).2, network.surroundings.2) } = reached
      intro hready
      induction (conduct moment network).1 generalizing reached with
      | nil => exact hready
      | cons deed rest hrest =>
          refine hrest _ ?_
          cases deed with
          | reports session news => exact hready.reports ih session news
          | becomes session transport =>
              obtain ⟨-, hconnection, hpool, -⟩ := reached.moveSession_frame session transport
              exact hready.congr hconnection hpool (early_moveSession reached session transport)

/-! ## Dealings -/

section Dealings

variable {react : Reaction (α × List ConnectionKey)}
  (hreact : ∀ pending, Endures react (Tidy settled pending))
  (htidy : Tidy settled .nothing network)
include hreact htidy

theorem Tidy.close (key : ConnectionKey) (reason : CloseReason) :
    Tidy settled .nothing (network.close react key reason).1 :=
  (hreact .nothing).close key reason htidy fun hconnection hopen =>
    htidy.shut (hreact .nothing) hconnection hopen rfl rfl rfl

theorem Tidy.hearsNews (session : SessionKey) (news : News) :
    Tidy settled .nothing (network.hearsNews react session news) := by
  rw [hearsNews_eq]
  split
  · exact htidy
  · exact htidy.close hreact _ _

theorem Tidy.closeInOrder (order : List ConnectionKey) :
    Tidy settled .nothing (network.closeInOrder react order) := by
  unfold Network.closeInOrder
  induction order generalizing network with
  | nil => exact htidy
  | cons key rest ih => exact ih (htidy.close hreact key .requested)

theorem Tidy.closePool (place : PoolKey) :
    Tidy settled .nothing (network.closePool react place) := by
  unfold Network.closePool
  split
  · exact htidy
  · split
    · exact htidy
    · have hshut : Tidy settled .nothing (network.modifyPool place fun found =>
          { found with isClosed := true }) :=
        (hreact .nothing).modifyPool place (fun _ => ⟨.refl _, Nat.le_refl _, rfl⟩) htidy
      exact hshut.closeInOrder hreact _

theorem Tidy.openConnection (hpool : network.pool? place = some pool)
    (hroom : pool.size < pool.maxConnections) :
    Tidy settled .nothing (network.openConnection react place pool).1 := by
  have hmisses := misses_asked hpool
  let asked := network.asked place pool
  have hpromised : Tidy settled (.promised place ⟨pool.opened + 1⟩) asked :=
    htidy.promises hpool hroom hmisses.connection? hmisses.pool? rfl
  -- The factory is at work, and may call back.
  have hreached : Tidy settled (.promised place ⟨pool.opened + 1⟩)
      (react (.openingSession place) asked) := (hreact _).react _ hpromised
  unfold Network.openConnection
  dsimp only
  split
  next => exact hreached.forgets
  next transport hprovided =>
    let ready := ((react (.openingSession place) asked).addSession
      { name := pool.label (pool.opened + 1), transport }).1
    let opened := pool.nextConnection place (react (.openingSession place) asked).nextSession
    -- The connection is there, and its session is about to be attached.
    have hreserves : Reserves (react (.openingSession place) asked)
        (ready.addConnection opened).1 place opened :=
      { destination := rfl
        isOpen := rfl
        connection? := fun key => connection?_addConnection ready opened key
        pool? := rfl
        early := rfl }
    exact ((hreact _).attach _ _ (hreached.reserves hreserves)).lists

theorem Tidy.acquire (place : PoolKey) : Tidy settled .nothing (network.acquire react place).1 := by
  unfold Network.acquire
  split
  next => exact htidy
  next pool hpool =>
    split
    next =>
      exact (hreact .nothing).modifyConnection _ (fun _ => ⟨rfl, rfl, fun _ => Iff.rfl⟩) htidy
    next =>
      split
      next => exact htidy
      next =>
        split
        next => exact htidy
        next hroom => exact htidy.openConnection hreact hpool (Nat.lt_of_not_le hroom)

theorem Tidy.attempt (place : PoolKey) (target : ExchangeId) (attempts : Nat)
    (last : Option DispatchError) :
    Tidy settled .nothing (network.attempt react place target attempts last).1 := by
  induction attempts generalizing network last with
  | zero =>
      unfold Network.attempt
      split <;> exact htidy
  | succ attempts ih =>
      have hacquired := htidy.acquire hreact place
      unfold Network.attempt
      split
      next => exact htidy
      next =>
        cases hresult : network.acquire react place with
        | mk acquired result =>
        rw [hresult] at hacquired
        cases result with
        | error error => exact hacquired
        | ok key =>
            have hsent := (hreact .nothing).send key target hacquired
            dsimp only
            cases hverdict : acquired.send react key target with
            | mk sent verdict =>
            rw [hverdict] at hsent
            cases verdict with
            | ok accepted => exact hsent
            | error error =>
                have hletGo : Tidy settled .nothing (sent.letGoConnection key) :=
                  (hreact .nothing).modifyConnection key
                    (fun _ => ⟨rfl, rfl, fun _ => Iff.rfl⟩) hsent
                dsimp only
                split
                next => exact ih hletGo (some error)
                next => exact hletGo

omit hreact in
theorem Tidy.rests {second : Network (α × List ConnectionKey)} (hrests : Rests network second)
    (hearly : second.early = network.early) : Tidy settled .nothing second :=
  htidy.evolves (fun key => (hrests.connection key).imp Connection.Stays.berths fun hnew => hnew)
    (fun place => (hrests.pool place).imp (fun hsame => hsame ▸ .refl _)
      fun hnew => hnew) hearly

theorem Tidy.connect (hdestination : ∀ place, connection.destination ≠ .pool place) :
    Tidy settled .nothing (network.connect react connection).1 := by
  have hadded : ∀ key, Evolves Connection.Berths
      (fun after => ∀ place, after.destination ≠ .pool place) (network.connection? key)
      ((network.addConnection connection).1.connection? key) := by
    intro key
    rw [connection?_addConnection]
    split
    next heq =>
      rw [heq, connection?_nextConnection]
      exact .new hdestination
    next => exact .of_eq Connection.Berths.refl rfl
  have hthere : Tidy settled .nothing (network.addConnection connection).1 :=
    htidy.evolves hadded (fun _ => .of_eq Pool.Stays.refl rfl) rfl
  exact (hreact .nothing).attach connection.session network.nextConnection hthere

theorem Tidy.performs {operation : Operation} (hoperation : operation.isInternal = false) :
    Tidy settled .nothing (network.performs react operation) := by
  cases operation with
  | shutPool place => exact Bool.noConfusion hoperation
  | openConnection place => exact Bool.noConfusion hoperation
  | makeConnection id observed session limit =>
      simp only [Network.performs]
      split
      · exact htidy.connect hreact (by cases observed <;> simp [Connection.watchedBy])
      · exact htidy
  | send key target =>
      simp only [Network.performs]
      split
      · exact (hreact .nothing).send key target htidy
      · exact htidy
  | sendOnChannel id target =>
      simp only [Network.performs]
      split
      · exact (hreact .nothing).sendOnChannel id target htidy
      · exact htidy
  | hears listener event => exact (hreact .nothing).hears listener event htidy
  | abort target error =>
      simp only [Network.performs]
      split
      · exact (hreact .nothing).abort target error htidy
      · exact htidy
  | close key reason => exact htidy.close hreact key reason
  | goAway session code reason => exact htidy.hearsNews hreact session (.goneAway code reason)
  | failSession session error => exact htidy.hearsNews hreact session (.failed error)
  | makeSession name transport => exact htidy.congr rfl rfl rfl
  | moveSession session transport =>
      obtain ⟨-, hconnection, hpool, -⟩ := network.moveSession_frame session transport
      exact htidy.congr hconnection hpool (early_moveSession network session transport)
  | makePool name maxConnections maxStreams factory =>
      exact htidy.rests (.addPool network ⟨rfl, rfl, rfl, rfl⟩) rfl
  | retainConnection key =>
      simp only [Network.performs, undergo]
      split
      · exact (hreact .nothing).modifyConnection key (fun _ => ⟨rfl, rfl, fun _ => Iff.rfl⟩) htidy
      · exact htidy
  | letGoConnection key =>
      have hearly : (network.release key).early = network.early := by
        unfold release
        dsimp only
        split <;> rfl
      exact htidy.rests (.release network key) hearly
  | loseDestination key => exact htidy.rests (.unwatched network key) rfl
  | makeExchange request => exact htidy.congr rfl rfl rfl
  | retain target =>
      simp only [Network.performs, undergo]
      split <;> exact htidy.congr rfl rfl rfl
  | letGo target => exact htidy.congr rfl rfl rfl
  | claim target =>
      simp only [Network.performs, undergo, Network.claim]
      split
      · split
        · exact htidy
        · split <;> exact htidy.congr rfl rfl rfl
      · exact htidy
  | makeChannel id owner session =>
      simp only [Network.performs, undergo]
      split <;> exact htidy.congr rfl rfl rfl
  | elapse milliseconds => exact htidy.congr rfl rfl rfl

theorem Tidy.dealAmid (dealing : Dealing) :
    Tidy settled .nothing (network.dealAmid react dealing) := by
  cases dealing with
  | send place target =>
      simp only [Network.dealAmid]
      split
      · rcases sendPooled_cases react network place target with ⟨hsame, -⟩ | ⟨attempts, hsent⟩
        · rwa [hsame]
        · rw [hsent]
          exact htidy.attempt hreact place target attempts none
      · exact htidy
  | acquire place => exact htidy.acquire hreact place
  | close place => exact htidy.closePool hreact place
  | rearrange place order =>
      refine (hreact .nothing).modifyPool place (fun pool => ?_) htidy
      split
      next hperm => exact ⟨List.isPerm_iff.mp hperm, Nat.le_refl _, rfl⟩
      next => exact .refl pool
  | advance milliseconds =>
      have helapsed : Tidy settled .nothing (network.elapse milliseconds) := htidy.congr rfl rfl rfl
      exact (hreact .nothing).deliverDue helapsed
  | deliver session reply =>
      simp only [Network.dealAmid, deliverOne]
      split
      next => exact htidy
      next loopback _ =>
        split
        next =>
          have herased : Tidy settled .nothing (network.setTransport session (.loopback
              { loopback with replies := loopback.replies.erase reply })) :=
            htidy.congr rfl rfl rfl
          exact (hreact .nothing).deliver session reply herased
        next => exact htidy
  | outside operation hoperation => exact htidy.performs hreact hoperation

theorem Tidy.dealsAmid (dealings : List Dealing) :
    Tidy settled .nothing (network.dealsAmid react dealings) := by
  unfold Network.dealsAmid
  induction dealings generalizing network with
  | nil => exact htidy
  | cons dealing rest ih => exact ih (htidy.dealAmid hreact dealing)

end Dealings

/-! ## What occupies a slot -/

/-- A pool that has no slot left lists connections that are full, and ones that came early. -/
theorem Tidy.exhausted (htidy : Tidy settled .nothing network)
    {react : Reaction (α × List ConnectionKey)} {bound : Nat}
    (hexhausted : (network.acquire react place).2 = .error (.exhausted bound)) :
    ∃ pool, network.pool? place = some pool ∧ pool.size = bound ∧
      ∀ {number key}, (number, key) ∈ pool.listed → key ∈ network.early ∨
        ∃ connection, network.connection? key = some connection ∧ connection.isClosed = false ∧
          connection.limit ≤ connection.live.length := by
  unfold Network.acquire at hexhausted
  split at hexhausted
  next => cases hexhausted
  next pool hpool =>
  split at hexhausted
  next => cases hexhausted
  next hunavailable =>
  split at hexhausted
  next => cases hexhausted
  next =>
  split at hexhausted
  next hfull =>
    cases hexhausted
    refine ⟨pool, hpool, Nat.le_antisymm (htidy.size_le hpool) hfull, fun {number key} hmem => ?_⟩
    obtain ⟨connection, hconnection, -, -, hclosed⟩ :=
      (htidy.lists_iff ⟨place, number, key⟩).mp ⟨pool, hpool, hmem⟩
    cases hopen : connection.isClosed with
    | true => exact .inl (hclosed hopen)
    | false =>
        have hnone := List.find?_eq_none.mp hunavailable key (List.mem_map.mpr ⟨_, hmem, rfl⟩)
        rw [hconnection, Option.any_some, Connection.hasCapacity, hopen, Bool.not_false,
          Bool.true_and, decide_eq_true_iff] at hnone
        exact .inr ⟨connection, hconnection, hopen, Nat.le_of_not_lt hnone⟩
  next =>
    unfold Network.openConnection at hexhausted
    dsimp only at hexhausted
    split at hexhausted <;> cases hexhausted

/-- How the slots of the pools are taken.  `listed`: a pool lists the connections that it opened
and that are open, and besides only those that came early, which are closed.  `exhausted`: when
a pool has no slot left, each is taken by a full connection or by one that came early.
`settled`: one that came early stays on the list whatever is dealt. -/
structure SlotsAreTaken (react : Reaction (α × List ConnectionKey))
    (network : Network (α × List ConnectionKey)) : Prop where
  listed : ∀ slot, network.Lists slot ↔ network.Occupies slot
  closed : ∀ key ∈ network.early, ∃ connection, network.connection? key = some connection ∧
    connection.isClosed = true
  room : ∀ place pool, network.pool? place = some pool → pool.size ≤ pool.maxConnections
  once : ∀ place pool, network.pool? place = some pool → (pool.listed.map Prod.fst).Nodup
  exhausted : ∀ place bound, (network.acquire react place).2 = .error (.exhausted bound) →
    ∃ pool, network.pool? place = some pool ∧ pool.size = bound ∧
      ∀ number key, (number, key) ∈ pool.listed → key ∈ network.early ∨
        ∃ connection, network.connection? key = some connection ∧
          connection.isClosed = false ∧ connection.limit ≤ connection.live.length
  settled : ∀ later slot, network.Lists slot → slot.key ∈ network.early →
    (network.dealsAmid react later).Lists slot

/-- Whatever sessions report, whenever they are called, and whatever is dealt, the slots of the
pools are taken by connections that are open, and by those that were told of their end before
the pool listed them. -/
theorem closed_connections_came_early (surroundings : α) (conduct : Conduct α) (depth : Nat)
    (dealings : List Dealing) :
    let react := conducting conduct depth
    SlotsAreTaken react ((blank (surroundings, [])).dealsAmid react dealings) := by
  intro react
  have hendures := endures_conducting conduct depth
  have htidy : Tidy (fun _ => False) .nothing
      ((blank (surroundings, [])).dealsAmid react dealings) :=
    (tidy_blank surroundings).dealsAmid (hendures _) dealings
  exact
    { listed := htidy.lists_iff
      closed := fun key hmem => htidy.early hmem
      room := fun place pool hpool => htidy.size_le hpool
      once := fun place pool hpool => htidy.once hpool
      exhausted := fun place bound hexhausted => by
        obtain ⟨pool, hpool, hsize, htaken⟩ := htidy.exhausted hexhausted
        exact ⟨pool, hpool, hsize, fun _ _ hmem => htaken hmem⟩
      settled := fun later slot hlists hearly =>
        ((htidy.settle hlists hearly).dealsAmid (hendures _) later).lists_of_settled rfl }

/-- Sessions that report that the peer goes away as soon as they are attached. -/
def hasty : Conduct Unit
  | .attached session, _ => ([.reports session (.goneAway .noError "")], ())
  | _, _ => ([], ())

/-- A pool that may have one connection opens one, and its session reports its end while it is
attached.  The pool has provided a connection that is closed and listed, and from then on it
has no slot left. -/
theorem early_report_occupies_a_slot :
    let react := conducting hasty 1
    let network := (blank ((), [])).dealsAmid react
      [.outside (.makePool "p" 1 1 (.recording [])) rfl]
    let provided := (network.acquire react ⟨1⟩).1
    (network.acquire react ⟨1⟩).2 = .ok ⟨1⟩ ∧
      (provided.connection? ⟨1⟩).map Connection.isClosed = some true ∧
      (provided.pool? ⟨1⟩).map Pool.listed = some [(⟨1⟩, ⟨1⟩)] ∧
      (provided.acquire react ⟨1⟩).2 = .error (.exhausted 1) := by
  intro react network provided
  refine ⟨?_, ?_, ?_, ?_⟩ <;> decide +kernel

end Network

end Multiplex
