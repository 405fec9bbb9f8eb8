import Multiplex.Identity

/-!
# Connections

A connection multiplexes exchanges over one session.  It keeps the channels that
are under way, in the order in which they were registered, up to a limit that
`hasCapacity` tells.  Its destination is told when a channel was released and
when the connection goes away.
-/

namespace Multiplex

/-- Who is told about the channels and the end of a connection. -/
inductive Destination
  | gone
  | observed
  | pool (pool : PoolKey)
  deriving DecidableEq, Repr, Inhabited

/-- Exchanges multiplexed over one session. -/
structure Connection where
  id : ConnectionId
  destination : Destination
  session : SessionKey
  limit : Nat
  live : List ChannelId := []
  isClosed : Bool := false
  handles : Nat := 1
  deriving DecidableEq, Repr, Inhabited

namespace Connection

/-- Whether somebody holds a handle. -/
def isHeld (connection : Connection) : Bool := connection.handles != 0

/-- Whether the connection still takes exchanges. -/
def status (connection : Connection) : ConnectionStatus :=
  if connection.isClosed then .closed else .opened

/-- How many channels are under way. -/
def channelCount (connection : Connection) : Nat := connection.live.length

/-- Whether the connection is open and below its limit. -/
def hasCapacity (connection : Connection) : Bool :=
  !connection.isClosed && connection.channelCount < connection.limit

/-- Registers a channel behind all others. -/
def register (connection : Connection) (channel : ChannelId) : Connection :=
  { connection with live := connection.live ++ [channel] }

/-- Takes a channel out of those under way. -/
def drop (connection : Connection) (channel : ChannelId) : Connection :=
  { connection with live := connection.live.filter (· != channel) }

theorem filter_ne_of_notMem {live : List ChannelId} {channel : ChannelId}
    (hnot : channel ∉ live) : live.filter (· != channel) = live := by
  refine List.filter_eq_self.mpr fun other hother => ?_
  have hne : other ≠ channel := fun heq => hnot (heq ▸ hother)
  simpa using hne

theorem drop_of_notMem {connection : Connection} {channel : ChannelId}
    (hnot : channel ∉ connection.live) : connection.drop channel = connection := by
  simp [drop, filter_ne_of_notMem hnot]

theorem drop_register {connection : Connection} {channel : ChannelId}
    (hnot : channel ∉ connection.live) :
    (connection.register channel).drop channel = connection := by
  simp [drop, register, filter_ne_of_notMem hnot]

@[simp] theorem mem_live_drop {connection : Connection} {channel other : ChannelId} :
    other ∈ (connection.drop channel).live ↔ other ∈ connection.live ∧ other ≠ channel := by
  simp [drop]

/-- How a connection is written in an inspection. -/
def inspect (connection : Connection) : String :=
  "ConnectionMultiplexer \x7b id: " ++ connection.id.inspect ++ ", status: " ++
    connection.status.inspect ++ ", channels: " ++ toString connection.channelCount ++ " \x7d"

end Connection

end Multiplex
