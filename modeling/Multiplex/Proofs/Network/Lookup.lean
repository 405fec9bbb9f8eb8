import Mathlib.Tactic.SplitIfs
import Multiplex.Network.Delivery
import Multiplex.Network.Pooling

/-!
# What a look-up finds after a change

Everything in a network is found by its identity or its place.  This file says
what each elementary change does to the five look-ups and to the trace: a change
to one table is seen by the look-ups in that table alone.  No file that builds on
this one looks into a table.
-/

namespace Multiplex.Network

variable {α : Type} (network : Network α)

/-! ## The next identities -/

/-- The identity that the next channel gets. -/
def nextChannel : ChannelId := ⟨network.channels.size + 1⟩

/-- The identity that the next exchange gets. -/
def nextExchange : ExchangeId := ⟨network.exchanges.size + 1⟩

/-- The place that the next connection gets. -/
def nextConnection : ConnectionKey := ⟨network.connections.size + 1⟩

/-! ## Changes in place -/

section Modify

theorem exchange?_modifyExchange (id other : ExchangeId) (change : Exchange → Exchange) :
    (network.modifyExchange id change).exchange? other =
      if other = id then (network.exchange? other).map change else network.exchange? other := by
  simp only [exchange?, modifyExchange, Table.get?_modify, ExchangeId.ext_iff]

theorem channel?_modifyChannel (id other : ChannelId) (change : Channel → Channel) :
    (network.modifyChannel id change).channel? other =
      if other = id then (network.channel? other).map change else network.channel? other := by
  simp only [channel?, modifyChannel, Table.get?_modify, ChannelId.ext_iff]

theorem connection?_modifyConnection (key other : ConnectionKey)
    (change : Connection → Connection) :
    (network.modifyConnection key change).connection? other =
      if other = key then (network.connection? other).map change
      else network.connection? other := by
  simp only [connection?, modifyConnection, Table.get?_modify, ConnectionKey.ext_iff]

theorem session?_modifySession (key other : SessionKey) (change : Session → Session) :
    (network.modifySession key change).session? other =
      if other = key then (network.session? other).map change else network.session? other := by
  simp only [session?, modifySession, Table.get?_modify, SessionKey.ext_iff]

theorem pool?_modifyPool (key other : PoolKey) (change : Pool → Pool) :
    (network.modifyPool key change).pool? other =
      if other = key then (network.pool? other).map change else network.pool? other := by
  simp only [pool?, modifyPool, Table.get?_modify, PoolKey.ext_iff]

theorem session?_setTransport (key other : SessionKey) (transport : Transport) :
    (network.setTransport key transport).session? other =
      if other = key then (network.session? other).map fun found => { found with transport }
      else network.session? other := by
  simp only [setTransport, session?_modifySession]

theorem modifyExchange_eq_self {id : ExchangeId} {change : Exchange → Exchange}
    (hchange : ∀ exchange, network.exchange? id = some exchange → change exchange = exchange) :
    network.modifyExchange id change = network := by
  simp [modifyExchange, Table.modify_eq_self hchange]

theorem modifyExchange_modifyExchange (id : ExchangeId) (first second : Exchange → Exchange) :
    (network.modifyExchange id first).modifyExchange id second =
      network.modifyExchange id fun exchange => second (first exchange) := by
  simp [modifyExchange, Table.modify_modify]

theorem modifyChannel_eq_self {id : ChannelId} {change : Channel → Channel}
    (hchange : ∀ channel, network.channel? id = some channel → change channel = channel) :
    network.modifyChannel id change = network := by
  simp [modifyChannel, Table.modify_eq_self hchange]

theorem modifyChannel_modifyChannel (id : ChannelId) (first second : Channel → Channel) :
    (network.modifyChannel id first).modifyChannel id second =
      network.modifyChannel id fun channel => second (first channel) := by
  simp [modifyChannel, Table.modify_modify]

@[simp] theorem modifyExchange_frame (id : ExchangeId) (change : Exchange → Exchange) :
    (network.modifyExchange id change).channel? = network.channel? ∧
      (network.modifyExchange id change).connection? = network.connection? ∧
      (network.modifyExchange id change).session? = network.session? ∧
      (network.modifyExchange id change).pool? = network.pool? ∧
      (network.modifyExchange id change).nextChannel = network.nextChannel ∧
      (network.modifyExchange id change).isConnectionAlive = network.isConnectionAlive ∧
      (network.modifyExchange id change).isChannelAlive = network.isChannelAlive ∧
      (network.modifyExchange id change).trace = network.trace :=
  ⟨rfl, rfl, rfl, rfl, rfl, rfl, rfl, rfl⟩

@[simp] theorem nextChannel_modifyChannel (id : ChannelId) (change : Channel → Channel) :
    (network.modifyChannel id change).nextChannel = network.nextChannel := by
  simp [nextChannel, modifyChannel]

@[simp] theorem modifyChannel_frame (id : ChannelId) (change : Channel → Channel) :
    (network.modifyChannel id change).exchange? = network.exchange? ∧
      (network.modifyChannel id change).connection? = network.connection? ∧
      (network.modifyChannel id change).session? = network.session? ∧
      (network.modifyChannel id change).pool? = network.pool? ∧
      (network.modifyChannel id change).isConnectionAlive = network.isConnectionAlive ∧
      (network.modifyChannel id change).trace = network.trace :=
  ⟨rfl, rfl, rfl, rfl, rfl, rfl⟩

@[simp] theorem modifyConnection_frame (key : ConnectionKey)
    (change : Connection → Connection) :
    (network.modifyConnection key change).exchange? = network.exchange? ∧
      (network.modifyConnection key change).channel? = network.channel? ∧
      (network.modifyConnection key change).session? = network.session? ∧
      (network.modifyConnection key change).pool? = network.pool? ∧
      (network.modifyConnection key change).nextChannel = network.nextChannel ∧
      (network.modifyConnection key change).trace = network.trace :=
  ⟨rfl, rfl, rfl, rfl, rfl, rfl⟩

/-- A connection stays there as long as its handles and its destination do not change. -/
theorem isConnectionAlive_modifyConnection (key : ConnectionKey)
    {change : Connection → Connection}
    (hhandles : ∀ connection, (change connection).handles = connection.handles)
    (hdestination : ∀ connection, (change connection).destination = connection.destination) :
    (network.modifyConnection key change).isConnectionAlive = network.isConnectionAlive := by
  funext other
  simp only [isConnectionAlive, connection?_modifyConnection, modifyConnection_frame]
  split_ifs
  · cases network.connection? other with
    | none => rfl
    | some connection =>
        simp only [Option.map_some, Connection.isHeld, hhandles, hdestination]
  · rfl

@[simp] theorem isConnectionAlive_register (key : ConnectionKey) (id : ChannelId) :
    (network.modifyConnection key fun found => found.register id).isConnectionAlive =
      network.isConnectionAlive :=
  isConnectionAlive_modifyConnection network key (fun _ => rfl) fun _ => rfl

@[simp] theorem isConnectionAlive_drop (key : ConnectionKey) (id : ChannelId) :
    (network.modifyConnection key fun found => found.drop id).isConnectionAlive =
      network.isConnectionAlive :=
  isConnectionAlive_modifyConnection network key (fun _ => rfl) fun _ => rfl

@[simp] theorem modifySession_frame (key : SessionKey) (change : Session → Session) :
    (network.modifySession key change).exchange? = network.exchange? ∧
      (network.modifySession key change).channel? = network.channel? ∧
      (network.modifySession key change).connection? = network.connection? ∧
      (network.modifySession key change).pool? = network.pool? ∧
      (network.modifySession key change).nextChannel = network.nextChannel ∧
      (network.modifySession key change).trace = network.trace :=
  ⟨rfl, rfl, rfl, rfl, rfl, rfl⟩

@[simp] theorem modifyPool_frame (key : PoolKey) (change : Pool → Pool) :
    (network.modifyPool key change).exchange? = network.exchange? ∧
      (network.modifyPool key change).channel? = network.channel? ∧
      (network.modifyPool key change).connection? = network.connection? ∧
      (network.modifyPool key change).session? = network.session? ∧
      (network.modifyPool key change).nextChannel = network.nextChannel ∧
      (network.modifyPool key change).trace = network.trace :=
  ⟨rfl, rfl, rfl, rfl, rfl, rfl⟩

@[simp] theorem setTransport_frame (key : SessionKey) (transport : Transport) :
    (network.setTransport key transport).exchange? = network.exchange? ∧
      (network.setTransport key transport).channel? = network.channel? ∧
      (network.setTransport key transport).connection? = network.connection? ∧
      (network.setTransport key transport).pool? = network.pool? ∧
      (network.setTransport key transport).nextChannel = network.nextChannel ∧
      (network.setTransport key transport).trace = network.trace :=
  ⟨rfl, rfl, rfl, rfl, rfl, rfl⟩

@[simp] theorem note_frame (notice : Notice) :
    (network.note notice).exchange? = network.exchange? ∧
      (network.note notice).channel? = network.channel? ∧
      (network.note notice).connection? = network.connection? ∧
      (network.note notice).session? = network.session? ∧
      (network.note notice).pool? = network.pool? ∧
      (network.note notice).nextChannel = network.nextChannel :=
  ⟨rfl, rfl, rfl, rfl, rfl, rfl⟩

@[simp] theorem trace_note (notice : Notice) :
    (network.note notice).trace = network.trace.push notice := rfl

end Modify

/-! ## Additions -/

section Add

@[simp] theorem channel?_nextChannel : network.channel? network.nextChannel = none := by
  simp [channel?, nextChannel]

@[simp] theorem exchange?_nextExchange : network.exchange? network.nextExchange = none := by
  simp [exchange?, nextExchange]

@[simp] theorem connection?_nextConnection :
    network.connection? network.nextConnection = none := by
  simp [connection?, nextConnection]

theorem channel?_addChannel (channel : Channel) (id : ChannelId) :
    (network.addChannel channel).1.channel? id =
      if id = network.nextChannel then some channel else network.channel? id := by
  simp only [addChannel, channel?, Table.get?_insert, nextChannel, ChannelId.ext_iff]

theorem exchange?_addExchange (exchange : Exchange) (id : ExchangeId) :
    (network.addExchange exchange).1.exchange? id =
      if id = network.nextExchange then some exchange else network.exchange? id := by
  simp only [addExchange, exchange?, Table.get?_insert, nextExchange, ExchangeId.ext_iff]

theorem connection?_addConnection (connection : Connection) (key : ConnectionKey) :
    (network.addConnection connection).1.connection? key =
      if key = network.nextConnection then some connection else network.connection? key := by
  simp only [addConnection, connection?, Table.get?_insert, nextConnection,
    ConnectionKey.ext_iff]

theorem session?_addSession (session : Session) (key : SessionKey) :
    (network.addSession session).1.session? key =
      if key = (network.addSession session).2 then some session else network.session? key := by
  simp only [addSession, session?, Table.get?_insert, SessionKey.ext_iff]

theorem pool?_addPool (pool : Pool) (key : PoolKey) :
    (network.addPool pool).1.pool? key =
      if key = (network.addPool pool).2 then some pool else network.pool? key := by
  simp only [addPool, pool?, Table.get?_insert, PoolKey.ext_iff]

@[simp] theorem session?_addSession_snd (session : Session) :
    network.session? (network.addSession session).2 = none := by
  simp [session?, addSession]

@[simp] theorem pool?_addPool_snd (pool : Pool) :
    network.pool? (network.addPool pool).2 = none := by
  simp [pool?, addPool]

@[simp] theorem addChannel_frame (channel : Channel) :
    (network.addChannel channel).1.exchange? = network.exchange? ∧
      (network.addChannel channel).1.connection? = network.connection? ∧
      (network.addChannel channel).1.session? = network.session? ∧
      (network.addChannel channel).1.pool? = network.pool? ∧
      (network.addChannel channel).1.trace = network.trace ∧
      (network.addChannel channel).2 = network.nextChannel :=
  ⟨rfl, rfl, rfl, rfl, rfl, rfl⟩

@[simp] theorem isConnectionAlive_addChannel (channel : Channel) :
    (network.addChannel channel).1.isConnectionAlive = network.isConnectionAlive := rfl

@[simp] theorem addExchange_frame (exchange : Exchange) :
    (network.addExchange exchange).1.channel? = network.channel? ∧
      (network.addExchange exchange).1.connection? = network.connection? ∧
      (network.addExchange exchange).1.session? = network.session? ∧
      (network.addExchange exchange).1.pool? = network.pool? ∧
      (network.addExchange exchange).1.nextChannel = network.nextChannel ∧
      (network.addExchange exchange).1.trace = network.trace :=
  ⟨rfl, rfl, rfl, rfl, rfl, rfl⟩

@[simp] theorem addConnection_frame (connection : Connection) :
    (network.addConnection connection).1.exchange? = network.exchange? ∧
      (network.addConnection connection).1.channel? = network.channel? ∧
      (network.addConnection connection).1.session? = network.session? ∧
      (network.addConnection connection).1.pool? = network.pool? ∧
      (network.addConnection connection).1.nextChannel = network.nextChannel ∧
      (network.addConnection connection).1.trace = network.trace ∧
      (network.addConnection connection).2 = network.nextConnection :=
  ⟨rfl, rfl, rfl, rfl, rfl, rfl, rfl⟩

@[simp] theorem addSession_frame (session : Session) :
    (network.addSession session).1.exchange? = network.exchange? ∧
      (network.addSession session).1.channel? = network.channel? ∧
      (network.addSession session).1.connection? = network.connection? ∧
      (network.addSession session).1.pool? = network.pool? ∧
      (network.addSession session).1.nextChannel = network.nextChannel ∧
      (network.addSession session).1.trace = network.trace :=
  ⟨rfl, rfl, rfl, rfl, rfl, rfl⟩

@[simp] theorem addPool_frame (pool : Pool) :
    (network.addPool pool).1.exchange? = network.exchange? ∧
      (network.addPool pool).1.channel? = network.channel? ∧
      (network.addPool pool).1.connection? = network.connection? ∧
      (network.addPool pool).1.session? = network.session? ∧
      (network.addPool pool).1.nextChannel = network.nextChannel ∧
      (network.addPool pool).1.trace = network.trace :=
  ⟨rfl, rfl, rfl, rfl, rfl, rfl⟩

end Add

end Multiplex.Network
