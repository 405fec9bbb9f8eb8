/-!
# Error codes

The fourteen codes with which a peer may end a stream or a connection, their
numbers on the wire, and their names.
-/

namespace Multiplex

/-- Why a peer ended a stream or a connection. -/
inductive ErrorCode
  | noError
  | protocolError
  | internalError
  | flowControlError
  | settingsTimeout
  | streamClosed
  | frameSizeError
  | refusedStream
  | cancel
  | compressionError
  | connectError
  | enhanceYourCalm
  | inadequateSecurity
  | http11Required
  deriving DecidableEq, Repr, Inhabited

namespace ErrorCode

/-- The codes in the order of their numbers. -/
def all : List ErrorCode :=
  [noError, protocolError, internalError, flowControlError, settingsTimeout, streamClosed,
    frameSizeError, refusedStream, cancel, compressionError, connectError, enhanceYourCalm,
    inadequateSecurity, http11Required]

/-- The number of a code on the wire. -/
def number : ErrorCode → Nat
  | noError => 0
  | protocolError => 1
  | internalError => 2
  | flowControlError => 3
  | settingsTimeout => 4
  | streamClosed => 5
  | frameSizeError => 6
  | refusedStream => 7
  | cancel => 8
  | compressionError => 9
  | connectError => 10
  | enhanceYourCalm => 11
  | inadequateSecurity => 12
  | http11Required => 13

/-- The code with a given number, if there is one. -/
def ofNumber? (n : Nat) : Option ErrorCode := all[n]?

/-- The name of a code in running text. -/
def text : ErrorCode → String
  | noError => "no_error"
  | protocolError => "protocol_error"
  | internalError => "internal_error"
  | flowControlError => "flow_control_error"
  | settingsTimeout => "settings_timeout"
  | streamClosed => "stream_closed"
  | frameSizeError => "frame_size_error"
  | refusedStream => "refused_stream"
  | cancel => "cancel"
  | compressionError => "compression_error"
  | connectError => "connect_error"
  | enhanceYourCalm => "enhance_your_calm"
  | inadequateSecurity => "inadequate_security"
  | http11Required => "http_1_1_required"

/-- The name of a code in an inspection and in stored data. -/
def inspect : ErrorCode → String
  | noError => "NoError"
  | protocolError => "ProtocolError"
  | internalError => "InternalError"
  | flowControlError => "FlowControlError"
  | settingsTimeout => "SettingsTimeout"
  | streamClosed => "StreamClosed"
  | frameSizeError => "FrameSizeError"
  | refusedStream => "RefusedStream"
  | cancel => "Cancel"
  | compressionError => "CompressionError"
  | connectError => "ConnectError"
  | enhanceYourCalm => "EnhanceYourCalm"
  | inadequateSecurity => "InadequateSecurity"
  | http11Required => "Http11Required"

/-- The code that an inspection names, if it names one. -/
def ofInspection? (name : String) : Option ErrorCode :=
  all.find? fun code => code.inspect == name

/-- Only an end without any error is graceful. -/
def isGraceful (code : ErrorCode) : Bool := code == noError

end ErrorCode

end Multiplex
