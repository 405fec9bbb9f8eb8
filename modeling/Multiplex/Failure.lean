import Multiplex.ErrorCode

/-!
# Failures

What can go wrong, layer by layer: in a request, in a session, with a
connection, with an exchange, when an exchange is dispatched, and in a pool.
Each layer has its own type of causes, and a cause of an outer layer holds the
inner one that it stems from.  The wording of every cause is its `message`.
-/

namespace Multiplex

/-- Writes a number in lowercase hexadecimal digits with the mark `0x`. -/
def hexText (n : Nat) : String := "0x" ++ String.ofList (Nat.toDigits 16 n)

/-! ## Requests -/

/-- What is wrong with a message of the protocol. -/
inductive ProtocolError
  | missingAuthority
  | invalidUri (reason : String)
  | unknownErrorCode (number : Nat)
  deriving DecidableEq, Repr, Inhabited

/-- The wording of a protocol error. -/
def ProtocolError.message : ProtocolError → String
  | .missingAuthority => "Request is missing an authority"
  | .invalidUri reason => "Invalid request URI: " ++ reason
  | .unknownErrorCode number => "Unknown error code: " ++ hexText number

/-! ## Sessions -/

/-- Why a session does not do what it was asked. -/
inductive SessionError
  | closed
  | tooManyStreams (limit : Nat)
  | transport (reason : String)
  | protocol (reason : String)
  deriving DecidableEq, Repr, Inhabited

/-- The wording of a session error. -/
def SessionError.message : SessionError → String
  | .closed => "Session closed"
  | .tooManyStreams limit => "Too many concurrent streams (limit " ++ toString limit ++ ")"
  | .transport reason => "Transport error: " ++ reason
  | .protocol reason => "Protocol error: " ++ reason

/-! ## Connections -/

/-- Why a connection was closed: by its owner, by the peer, or by a fault of
the transport. -/
inductive CloseReason
  | requested
  | byPeer (code : ErrorCode) (reason : String)
  | fault (reason : String)
  deriving DecidableEq, Repr, Inhabited

namespace CloseReason

/-- The wording of a close reason. -/
def message : CloseReason → String
  | .requested => "connection closed"
  | .byPeer code reason => "connection closed by peer (" ++ code.text ++ "): " ++ reason
  | .fault reason => "transport failure: " ++ reason

/-- A session error that ends a connection counts as a fault.  The text of a
transport error is taken over bare, any other error with its whole wording. -/
def ofSessionError : SessionError → CloseReason
  | .transport reason => .fault reason
  | error => .fault error.message

end CloseReason

/-! ## Exchanges -/

/-- Why an exchange ended without a response. -/
inductive ExchangeError
  | aborted (reason : CloseReason)
  | cancelled (reason : String)
  | reset (code : ErrorCode)
  | timedOut
  | stream (error : SessionError)
  | dropped
  deriving DecidableEq, Repr, Inhabited

/-- The wording of an exchange error. -/
def ExchangeError.message : ExchangeError → String
  | .aborted reason => "Exchange aborted: " ++ reason.message
  | .cancelled reason => "Exchange cancelled: " ++ reason
  | .reset code => "Stream reset by peer: " ++ code.text
  | .timedOut => "Exchange timed out"
  | .stream error => "Stream failed: " ++ error.message
  | .dropped => "Exchange dropped"

/-! ## Dispatching -/

/-- Why an exchange could not be dispatched. -/
inductive DispatchError
  | closed
  | alreadyBound
  | alreadyResolved
  | normalize (error : ProtocolError)
  | session (error : SessionError)
  deriving DecidableEq, Repr, Inhabited

namespace DispatchError

/-- The wording of a dispatch error. -/
def message : DispatchError → String
  | .closed => "Connection is closed"
  | .alreadyBound => "Exchange is already bound to a channel"
  | .alreadyResolved => "Exchange is already resolved"
  | .normalize error => "Request normalization failed: " ++ error.message
  | .session error => "Session refused the stream: " ++ error.message

/-- Whether the same exchange may succeed on another connection: when this one
was closed or full, but not when the exchange itself is at fault. -/
def isRetryable : DispatchError → Bool
  | .closed => true
  | .session .closed => true
  | .session (.tooManyStreams _) => true
  | _ => false

/-- The wording of a dispatch error as a connection reports it, with the advice
whether to try elsewhere. -/
def report (error : DispatchError) : String :=
  error.message ++ " (retry: " ++ toString error.isRetryable ++ ")"

end DispatchError

/-! ## Pools -/

/-- Why a pool could not provide a connection, or dispatch on one. -/
inductive PoolError
  | exhausted (limit : Nat)
  | openFailed (error : SessionError)
  | sendFailed (error : DispatchError)
  | closed
  deriving DecidableEq, Repr, Inhabited

/-- The wording of a pool error. -/
def PoolError.message : PoolError → String
  | .exhausted limit => "Connection pool exhausted (max " ++ toString limit ++ " connections)"
  | .openFailed error => "Failed to open connection: " ++ error.message
  | .sendFailed error => "Failed to send exchange: " ++ error.report
  | .closed => "Connection pool closed"

end Multiplex
