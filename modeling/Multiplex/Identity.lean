import Multiplex.Word

/-!
# Identities

Exchanges, channels, connections and streams are told apart by numbers.  An
identity is written with the noun it belongs to, so that a number taken from a
log line says what it counts.  Stream numbers are words of 32 bits, because the
protocol has no larger ones; the other numbers are counted locally and never
run out.
-/

namespace Multiplex

/-- The number of an exchange, counted from one in order of creation. -/
@[ext] structure ExchangeId where
  number : Nat
  deriving DecidableEq, Repr, Inhabited

/-- The number of a channel, counted from one in order of creation. -/
@[ext] structure ChannelId where
  number : Nat
  deriving DecidableEq, Repr, Inhabited

/-- The number under which a connection is known to its destination. -/
@[ext] structure ConnectionId where
  number : Nat
  deriving DecidableEq, Repr, Inhabited

/-- The number of a stream inside one session. -/
@[ext] structure StreamId where
  number : UInt32
  deriving DecidableEq, Repr, Inhabited

/-! ## Places

Connections, sessions and pools are found by their place, which is counted from
one in order of creation.  The place of a connection is not its number: two
connections of different destinations may have the same number. -/

/-- The place of a connection among all connections. -/
@[ext] structure ConnectionKey where
  number : Nat
  deriving DecidableEq, Repr, Inhabited

/-- The place of a session among all sessions. -/
@[ext] structure SessionKey where
  number : Nat
  deriving DecidableEq, Repr, Inhabited

/-- The place of a pool among all pools. -/
@[ext] structure PoolKey where
  number : Nat
  deriving DecidableEq, Repr, Inhabited

/-! ## Texts -/

namespace ExchangeId

/-- How an exchange is written in running text. -/
def text (exchange : ExchangeId) : String := "exchange-" ++ toString exchange.number

/-- How an exchange is written in an inspection. -/
def inspect (exchange : ExchangeId) : String :=
  "ExchangeId(" ++ toString exchange.number ++ ")"

end ExchangeId

namespace ChannelId

/-- How a channel is written in running text. -/
def text (channel : ChannelId) : String := "channel-" ++ toString channel.number

/-- How a channel is written in an inspection. -/
def inspect (channel : ChannelId) : String :=
  "ChannelId(" ++ toString channel.number ++ ")"

end ChannelId

namespace ConnectionId

/-- How a connection is written in running text. -/
def text (connection : ConnectionId) : String := "conn-" ++ toString connection.number

/-- How a connection is written in an inspection. -/
def inspect (connection : ConnectionId) : String :=
  "ConnectionId(" ++ toString connection.number ++ ")"

end ConnectionId

namespace StreamId

/-- How a stream is written in running text. -/
def text (stream : StreamId) : String := "stream-" ++ toString stream.number

/-- How a stream is written in an inspection. -/
def inspect (stream : StreamId) : String := "StreamId(" ++ toString stream.number ++ ")"

/-- The streams that this side opens have odd numbers. -/
def isClientInitiated (stream : StreamId) : Bool := stream.number % 2 == 1

/-- The first stream of a session. -/
def first : StreamId := ⟨1⟩

/-- The stream opened after `stream`.  The numbers are words: after the largest
odd one comes `1` again. -/
def next (stream : StreamId) : StreamId := ⟨stream.number + 2⟩

end StreamId

/-! ## The status of a connection -/

/-- Whether a connection still takes exchanges. -/
inductive ConnectionStatus
  | opened
  | closed
  deriving DecidableEq, Repr, Inhabited

namespace ConnectionStatus

/-- How a status is written in running text. -/
def text : ConnectionStatus → String
  | opened => "open"
  | closed => "closed"

/-- How a status is written in an inspection and in stored data. -/
def inspect : ConnectionStatus → String
  | opened => "Open"
  | closed => "Closed"

/-- The status that an inspection names, if it names one. -/
def ofInspection? (name : String) : Option ConnectionStatus :=
  [opened, closed].find? fun status => status.inspect == name

end ConnectionStatus

/-! ## The range of a local number

A number that was written down and is read back is accepted up to the largest
word of 64 bits. -/

/-- The first number that is too large to be read back as a local number. -/
def localNumberBound : Nat := Word.bound64

/-- The first number that is too large to be a stream number. -/
def streamNumberBound : Nat := Word.bound32

end Multiplex
