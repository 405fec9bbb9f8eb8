import Multiplex.Network.Delivery
import Multiplex.Network.Pooling

/-!
# Operations and runs

An operation is what somebody outside does to a network: a caller who holds handles, a
session that reports, a peer that goes away.  A run is any finite sequence of operations
in any order, from a network in which there is nothing yet.  The surroundings only look
on.

What a caller does to an exchange needs a handle of it.  A connection is kept while it is
open, for otherwise it would take its channels with it and leave their exchanges to nobody;
a channel that was made by hand is kept too.  Everything else may be dropped at any time.
A session may change in any way between operations, except that it does not open again
once it is closed.

## What an operation comes to

Different operations come to the same: a connection is closed by a caller, by its peer and
by a fault.  `Happening` is what an operation comes to in a network, and everything that
is proved about runs is proved by happenings.
-/

namespace Multiplex

/-! ## Operations -/

/-- What somebody outside does to a network. -/
inductive Operation
  | makeSession (name : String) (transport : Transport)
  | moveSession (session : SessionKey) (transport : Transport)
  | makePool (name : String) (maxConnections maxStreams : Nat) (factory : Factory)
  | shutPool (pool : PoolKey)
  | makeConnection (id : ConnectionId) (observed : Bool) (session : SessionKey) (limit : Nat)
  | openConnection (pool : PoolKey)
  | retainConnection (connection : ConnectionKey)
  | letGoConnection (connection : ConnectionKey)
  | loseDestination (connection : ConnectionKey)
  | makeExchange (request : Http.Request)
  | retain (exchange : ExchangeId)
  | letGo (exchange : ExchangeId)
  | claim (exchange : ExchangeId)
  | makeChannel (connection : ConnectionId) (owner : Option ConnectionKey) (session : SessionKey)
  | send (connection : ConnectionKey) (exchange : ExchangeId)
  | sendOnChannel (channel : ChannelId) (exchange : ExchangeId)
  | hears (listener : Listener) (event : StreamEvent)
  | abort (exchange : ExchangeId) (error : ExchangeError)
  | close (connection : ConnectionKey) (reason : CloseReason)
  | goAway (session : SessionKey) (code : ErrorCode) (reason : String)
  | failSession (session : SessionKey) (error : SessionError)
  | elapse (milliseconds : Nat)

/-- Whether an operation concerns exchanges under way. -/
def Operation.isDirect : Operation → Bool
  | .send .. | .sendOnChannel .. | .hears (.channel _) _ | .abort .. | .close .. | .goAway ..
  | .failSession .. => true
  | _ => false

/-- Whether an operation concerns connections, sessions or pools themselves. -/
def Operation.isPublic : Operation → Bool
  | .makeSession .. | .moveSession .. | .makePool .. | .shutPool _ | .makeConnection ..
  | .openConnection _ | .retainConnection _ | .letGoConnection _ | .loseDestination _ => true
  | _ => false

/-- The destination of a connection that is made by hand. -/
def Connection.watchedBy (observed : Bool) : Destination := if observed then .observed else .gone

/-- A connection whose destination was dropped, unless that is a pool. -/
def Connection.unwatched (connection : Connection) : Connection :=
  { connection with
    destination := if connection.destination = .observed then .gone else connection.destination }

namespace Network

variable {α : Type}

/-- Whether somebody holds an exchange. -/
def holds (network : Network α) (exchange : ExchangeId) : Bool :=
  (network.exchange? exchange).any Exchange.isHeld

/-- Whether a connection is there and open. -/
def isOpen (network : Network α) (key : ConnectionKey) : Bool :=
  (network.connection? key).any fun connection => !connection.isClosed

theorem holds_iff {network : Network α} {id : ExchangeId} :
    network.holds id = true ↔
      ∃ exchange, network.exchange? id = some exchange ∧ exchange.isHeld = true := by
  unfold holds
  cases network.exchange? id <;> simp

theorem isOpen_iff {network : Network α} {key : ConnectionKey} :
    network.isOpen key = true ↔
      ∃ connection, network.connection? key = some connection ∧ connection.isClosed = false := by
  unfold isOpen
  cases network.connection? key <;> simp

/-- The outcome of an exchange. -/
def outcome? (network : Network α) (target : ExchangeId) : Option Outcome :=
  (network.exchange? target).bind Exchange.outcome

/-- Replaces what moves the streams of a session.  A closed session stays closed. -/
def moveSession (network : Network α) (key : SessionKey) (transport : Transport) : Network α :=
  match network.session? key with
  | none => network
  | some session =>
    if session.transport.isClosed && !transport.isClosed then network
    else network.setTransport key transport

theorem moveSession_frame (network : Network α) (key : SessionKey) (transport : Transport) :
    (network.moveSession key transport).exchange? = network.exchange? ∧
      (network.moveSession key transport).connection? = network.connection? ∧
      (network.moveSession key transport).pool? = network.pool? ∧
      (network.moveSession key transport).trace = network.trace := by
  unfold moveSession
  split
  · exact ⟨rfl, rfl, rfl, rfl⟩
  · split <;> exact ⟨rfl, rfl, rfl, rfl⟩

/-- Lets a connection go, unless it is open and this is the last that keeps it. -/
def release (network : Network α) (key : ConnectionKey) : Network α :=
  let left := network.letGoConnection key
  if network.isOpen key && !left.isConnectionAlive key then network else left

/-- Performs an operation.  Without the handles that it needs nothing is done. -/
def undergo (network : Network α) : Operation → Network α
  | .makeSession name transport => (network.addSession { name, transport }).1
  | .moveSession session transport => network.moveSession session transport
  | .makePool name maxConnections maxStreams factory =>
    (network.addPool { name, maxConnections, maxStreams, factory }).1
  | .shutPool pool => network.modifyPool pool fun found => { found with isClosed := true }
  | .makeConnection id observed session limit =>
    if (network.session? session).isSome then
      (network.connect quiet
        { id, destination := Connection.watchedBy observed, session, limit }).1
    else network
  | .openConnection pool =>
    match network.pool? pool with
    | none => network
    | some found => (network.openConnection quiet pool found).1
  | .retainConnection connection =>
    if network.isConnectionAlive connection then network.retainConnection connection else network
  | .letGoConnection connection => network.release connection
  | .loseDestination connection => network.modifyConnection connection Connection.unwatched
  | .makeExchange request => (network.addExchange { request }).1
  | .retain exchange => if network.holds exchange then network.retain exchange else network
  | .letGo exchange => network.letGo exchange
  | .claim exchange => if network.holds exchange then (network.claim exchange).1 else network
  | .makeChannel connection owner session =>
    if (network.session? session).isSome then
      (network.addChannel { connection, owner, session, handles := 1 }).1
    else network
  | .send connection exchange =>
    if network.holds exchange then (network.send quiet connection exchange).1 else network
  | .sendOnChannel channel exchange =>
    if (network.channel? channel).any Channel.isHeld && network.holds exchange then
      (network.sendOnChannel quiet channel exchange).1
    else network
  | .hears listener event => network.hears quiet listener event
  | .abort exchange error =>
    if network.holds exchange then (network.abort quiet exchange error).1 else network
  | .close connection reason => (network.close quiet connection reason).1
  | .goAway session code reason => network.goAway quiet session code reason
  | .failSession session error => network.failSession quiet session error
  | .elapse milliseconds => network.elapse milliseconds

/-- Performs several operations one after the other. -/
def run (network : Network α) (operations : List Operation) : Network α :=
  operations.foldl undergo network

@[simp] theorem run_nil (network : Network α) : network.run [] = network := rfl

@[simp] theorem run_cons (network : Network α) (operation : Operation)
    (operations : List Operation) :
    network.run (operation :: operations) = (network.undergo operation).run operations := rfl

theorem run_append (network : Network α) (before after : List Operation) :
    network.run (before ++ after) = (network.run before).run after :=
  List.foldl_append ..

/-- The network in which there is nothing yet. -/
def blank (surroundings : α) : Network α := { surroundings }

/-- A run after which a connection can take an exchange. -/
def firstSteps : List Operation :=
  [.makeSession "s" (.recording {}), .makeConnection ⟨1⟩ true ⟨1⟩ 2,
    .makeExchange ⟨.connect, .absolute .https ⟨"a"⟩ .slash, .http2, ⟨[]⟩, []⟩]

@[simp] theorem exchange?_blank (surroundings : α) (id : ExchangeId) :
    (blank surroundings).exchange? id = none :=
  Table.get?_empty _

@[simp] theorem channel?_blank (surroundings : α) (id : ChannelId) :
    (blank surroundings).channel? id = none :=
  Table.get?_empty _

@[simp] theorem connection?_blank (surroundings : α) (key : ConnectionKey) :
    (blank surroundings).connection? key = none :=
  Table.get?_empty _

@[simp] theorem session?_blank (surroundings : α) (key : SessionKey) :
    (blank surroundings).session? key = none :=
  Table.get?_empty _

@[simp] theorem pool?_blank (surroundings : α) (key : PoolKey) :
    (blank surroundings).pool? key = none :=
  Table.get?_empty _

/-! ## Happenings -/

end Network

/-- What an operation comes to. -/
inductive Happening
  | nothing
  | event (channel : ChannelId) (event : StreamEvent)
  | sent (connection : ConnectionKey) (exchange : ExchangeId)
  | sentOn (channel : ChannelId) (exchange : ExchangeId)
  | aborted (exchange : ExchangeId) (error : ExchangeError)
  | closed (connection : ConnectionKey) (reason : CloseReason)

namespace Network

variable {α : Type}

/-- An open connection is closed; closing it again comes to nothing. -/
def closing (network : Network α) (key : ConnectionKey) (reason : CloseReason) : Happening :=
  if network.isOpen key then .closed key reason else .nothing

/-- What an operation comes to in a network. -/
def happening (network : Network α) : Operation → Happening
  | .send connection exchange =>
    if network.holds exchange then .sent connection exchange else .nothing
  | .sendOnChannel channel exchange =>
    if (network.channel? channel).any Channel.isHeld && network.holds exchange then
      .sentOn channel exchange
    else .nothing
  | .hears (.channel channel) event => .event channel event
  | .abort exchange error =>
    if network.holds exchange then .aborted exchange error else .nothing
  | .close connection reason => network.closing connection reason
  | .goAway session code reason =>
    match network.sessionListener? session with
    | none => .nothing
    | some connection => network.closing connection (.byPeer code reason)
  | .failSession session error =>
    match network.sessionListener? session with
    | none => .nothing
    | some connection => network.closing connection (.ofSessionError error)
  | _ => .nothing

/-- What the operations of a run come to. -/
def happenings (network : Network α) : List Operation → List Happening
  | [] => []
  | operation :: rest => network.happening operation :: (network.undergo operation).happenings rest

/-- What a happening makes of a network. -/
def bring (network : Network α) : Happening → Network α
  | .nothing => network
  | .event channel event => network.channelHears quiet channel event
  | .sent connection exchange => (network.send quiet connection exchange).1
  | .sentOn channel exchange => (network.sendOnChannel quiet channel exchange).1
  | .aborted exchange error => (network.abort quiet exchange error).1
  | .closed connection reason => (network.close quiet connection reason).1

/-- Operations that come to something: what they need is there. -/
inductive Occurs (network : Network α) : Operation → Happening → Prop
  | event (id : ChannelId) (event : StreamEvent) :
      Occurs network (.hears (.channel id) event) (.event id event)
  | sent (key : ConnectionKey) {target : ExchangeId} :
      network.holds target = true → Occurs network (.send key target) (.sent key target)
  | sentOn {id : ChannelId} {target : ExchangeId} {channel : Channel} :
      network.channel? id = some channel → channel.isHeld = true → network.holds target = true →
      Occurs network (.sendOnChannel id target) (.sentOn id target)
  | aborted {target : ExchangeId} (error : ExchangeError) :
      network.holds target = true → Occurs network (.abort target error) (.aborted target error)
  | closed {operation : Operation} {key : ConnectionKey} (reason : CloseReason) :
      (∀ other target, operation ≠ .send other target) → network.isOpen key = true →
      Occurs network operation (.closed key reason)

/-- Whatever comes to something has what it needs. -/
theorem occurs_happening {network : Network α} {operation : Operation}
    (hhappening : network.happening operation ≠ .nothing) :
    Occurs network operation (network.happening operation) := by
  have hclosing : ∀ {operation : Operation} {key reason}, network.closing key reason ≠ .nothing →
      (∀ other target, operation ≠ .send other target) →
      Occurs network operation (network.closing key reason) := by
    intro operation key reason hsome hsend
    unfold closing at hsome ⊢
    split at hsome
    next hopen =>
      rw [if_pos hopen]
      exact .closed reason hsend hopen
    next => exact absurd rfl hsome
  cases operation with
  | send key target =>
      simp only [happening] at hhappening ⊢
      split at hhappening
      next hheld =>
        rw [if_pos hheld]
        exact .sent key hheld
      next => exact absurd rfl hhappening
  | sendOnChannel id target =>
      simp only [happening] at hhappening ⊢
      split at hhappening
      next hboth =>
        obtain ⟨hfree, hheld⟩ := Bool.and_eq_true_iff.mp hboth
        obtain ⟨channel, hchannel, hfree⟩ := (Option.any_eq_true ..).mp hfree
        rw [if_pos hboth]
        exact .sentOn hchannel hfree hheld
      next => exact absurd rfl hhappening
  | hears listener event =>
      cases listener with
      | channel id => exact .event id event
      | observer name => exact absurd rfl hhappening
  | abort target error =>
      simp only [happening] at hhappening ⊢
      split at hhappening
      next hheld =>
        rw [if_pos hheld]
        exact .aborted error hheld
      next => exact absurd rfl hhappening
  | close key reason => exact hclosing hhappening (by simp)
  | goAway session code reason =>
      simp only [happening] at hhappening ⊢
      split at hhappening
      next => exact absurd rfl hhappening
      next => exact hclosing hhappening (by simp)
  | failSession session error =>
      simp only [happening] at hhappening ⊢
      split at hhappening
      next => exact absurd rfl hhappening
      next => exact hclosing hhappening (by simp)
  | _ => exact absurd rfl hhappening

/-- Closing a connection that is closed already does nothing. -/
theorem close_of_not_open {network : Network α} {key : ConnectionKey}
    (hopen : network.isOpen key = false) (reason : CloseReason) :
    network.close quiet key reason = (network, false) := by
  unfold close
  split
  · rfl
  next connection hconnection =>
    have hclosed : connection.isClosed = true := by simpa [isOpen, hconnection] using hopen
    rw [if_pos hclosed]

theorem bring_closing (network : Network α) (key : ConnectionKey) (reason : CloseReason) :
    network.bring (network.closing key reason) = (network.close quiet key reason).1 := by
  unfold closing
  cases hopen : network.isOpen key with
  | true => rfl
  | false => rw [close_of_not_open hopen]; rfl

theorem close_of_nothing {network : Network α} {key : ConnectionKey} {reason : CloseReason}
    (hnothing : network.closing key reason = .nothing) :
    (network.close quiet key reason).1 = network := by
  rw [← bring_closing, hnothing]
  rfl

/-- An operation that comes to something does just that. -/
theorem undergo_eq_bring {network : Network α} {operation : Operation}
    (hhappening : network.happening operation ≠ .nothing) :
    network.undergo operation = network.bring (network.happening operation) := by
  cases operation with
  | send connection exchange =>
      simp only [happening] at hhappening ⊢
      split at hhappening
      next hheld => simp only [undergo, hheld, if_true, bring]
      next => exact absurd rfl hhappening
  | sendOnChannel channel exchange =>
      simp only [happening] at hhappening ⊢
      split at hhappening
      next hheld => simp only [undergo, hheld, if_true, bring]
      next => exact absurd rfl hhappening
  | hears listener event =>
      cases listener with
      | channel channel => rfl
      | observer name => exact absurd rfl hhappening
  | abort exchange error =>
      simp only [happening] at hhappening ⊢
      split at hhappening
      next hheld => simp only [undergo, hheld, if_true, bring]
      next => exact absurd rfl hhappening
  | close connection reason => exact (bring_closing network connection reason).symm
  | goAway session code reason =>
      simp only [happening] at hhappening ⊢
      split at hhappening
      next => exact absurd rfl hhappening
      next connection hlistener =>
        simp only [undergo, goAway, hlistener, bring_closing]
  | failSession session error =>
      simp only [happening] at hhappening ⊢
      split at hhappening
      next => exact absurd rfl hhappening
      next connection hlistener =>
        simp only [undergo, failSession, hlistener, bring_closing]
  | _ => exact absurd rfl hhappening

/-- An operation on an exchange under way that comes to nothing does nothing. -/
theorem undergo_eq_self {network : Network α} {operation : Operation}
    (hdirect : operation.isDirect = true) (hnothing : network.happening operation = .nothing) :
    network.undergo operation = network := by
  cases operation with
  | send connection exchange =>
      simp only [happening] at hnothing
      split at hnothing
      next => exact Happening.noConfusion hnothing
      next hnot => rw [undergo, if_neg hnot]
  | sendOnChannel channel exchange =>
      simp only [happening] at hnothing
      split at hnothing
      next => exact Happening.noConfusion hnothing
      next hnot => rw [undergo, if_neg hnot]
  | hears listener event =>
      cases listener with
      | channel channel => exact Happening.noConfusion hnothing
      | observer name => exact Bool.noConfusion hdirect
  | abort exchange error =>
      simp only [happening] at hnothing
      split at hnothing
      next => exact Happening.noConfusion hnothing
      next hnot => rw [undergo, if_neg hnot]
  | close connection reason => exact close_of_nothing hnothing
  | goAway session code reason =>
      cases hlistener : network.sessionListener? session with
      | none => simp only [undergo, goAway, hlistener]
      | some connection =>
          simp only [happening, hlistener] at hnothing
          simp only [undergo, goAway, hlistener, close_of_nothing hnothing]
  | failSession session error =>
      cases hlistener : network.sessionListener? session with
      | none => simp only [undergo, failSession, hlistener]
      | some connection =>
          simp only [happening, hlistener] at hnothing
          simp only [undergo, failSession, hlistener, close_of_nothing hnothing]
  | _ => exact Bool.noConfusion hdirect

/-- Connections, sessions and pools are left alone, and at most an observer hears something. -/
structure Aloof (first second : Network α) : Prop where
  connection? : second.connection? = first.connection?
  session? : second.session? = first.session?
  pool? : second.pool? = first.pool?
  trace : second.trace = first.trace ∨
    ∃ name event, second.trace = first.trace.push (.heard name event)

/-- An operation that comes to nothing and does not concern connections, sessions or pools
leaves them alone. -/
theorem aloof_of_nothing {network : Network α} {operation : Operation}
    (hnothing : network.happening operation = .nothing) (hpublic : operation.isPublic = false) :
    Aloof network (network.undergo operation) := by
  cases hdirect : operation.isDirect with
  | true =>
      rw [undergo_eq_self hdirect hnothing]
      exact ⟨rfl, rfl, rfl, .inl rfl⟩
  | false =>
      cases operation with
      | makeExchange | letGo | elapse => exact ⟨rfl, rfl, rfl, .inl rfl⟩
      | retain | makeChannel =>
          simp only [undergo]
          split <;> exact ⟨rfl, rfl, rfl, .inl rfl⟩
      | claim target =>
          simp only [undergo, Network.claim]
          split
          · split
            · exact ⟨rfl, rfl, rfl, .inl rfl⟩
            · split <;> exact ⟨rfl, rfl, rfl, .inl rfl⟩
          · exact ⟨rfl, rfl, rfl, .inl rfl⟩
      | hears listener event =>
          cases listener with
          | channel id => exact Bool.noConfusion hdirect
          | observer name => exact ⟨rfl, rfl, rfl, .inr ⟨name, event, rfl⟩⟩
      | send | sendOnChannel | abort | close | goAway | failSession =>
          exact Bool.noConfusion hdirect
      | makeSession | moveSession | makePool | shutPool | makeConnection | openConnection
      | retainConnection | letGoConnection | loseDestination => exact Bool.noConfusion hpublic

end Network

end Multiplex
