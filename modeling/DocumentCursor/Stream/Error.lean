import DocumentCursor.Net.Address
import DocumentCursor.Net.SystemError

/-! # Transport errors

What can go wrong between two ends of a stream, the message of each cause, and two questions about
it: whether it is a timeout, and whether a fresh connection might fare better.
-/

namespace DocumentCursor

open Net

/-- Why a stream could not be opened, read or written. -/
inductive TransportError where
  /-- No candidate of the address could be connected to. -/
  | cannotOpen (address : Address) (source : Option SystemError)
  | readTimeout (address : Address)
  /-- The other end closed the stream before all bytes had arrived. -/
  | prematureEnd (address : Address)
  /-- A kind of stream without a family of operations. -/
  | unsupported (stream family : String)
  | system (source : SystemError)
  | notOpen
  | alreadyOpen
  | closed
  | tlsConfig (reason : String)
  | tlsHandshake (reason : String)
  /-- Nobody is left who could report a result. -/
  | completionDropped
  deriving DecidableEq, Repr

namespace TransportError

/-- The text that reports an error. -/
def message : TransportError → String
  | cannotOpen address _ => "exception opening socket to " ++ address.text
  | readTimeout address => "timeout while receiving message from " ++ address.text
  | prematureEnd address => "prematurely reached end of stream from " ++ address.text
  | unsupported stream family => stream ++ " does not support " ++ family ++ " operations"
  | system source => "I/O error: " ++ source.message
  | notOpen => "stream is not open"
  | alreadyOpen => "stream has already been opened"
  | closed => "stream is closed"
  | tlsConfig reason => "TLS configuration error: " ++ reason
  | tlsHandshake reason => "TLS handshake failed: " ++ reason
  | completionDropped => "completion dropped before delivering a result"

/-- The name of a kind of error. -/
def name : TransportError → String
  | cannotOpen .. => "Open"
  | readTimeout _ => "ReadTimeout"
  | prematureEnd _ => "PrematureEndOfStream"
  | unsupported .. => "Unsupported"
  | system _ => "Io"
  | notOpen => "NotOpen"
  | alreadyOpen => "AlreadyOpen"
  | closed => "Closed"
  | tlsConfig _ => "TlsConfig"
  | tlsHandshake _ => "TlsHandshake"
  | completionDropped => "CompletionDropped"

/-- The system error underneath, which only `cannotOpen` and `system` may have. -/
def source? : TransportError → Option SystemError
  | cannotOpen _ source => source
  | system source => some source
  | _ => none

/-- Whether time ran out, rather than something failing: a `readTimeout`, or a source of kind
`timedOut`. -/
def isTimeout (error : TransportError) : Bool :=
  match error with
  | readTimeout _ => true
  | error => (error.source?.map (·.kind)) = some .timedOut

/-- Whether a fresh connection might succeed: not where the stream was used in a wrong way, or its
settings are wrong. -/
def isRetryable : TransportError → Bool
  | cannotOpen .. | readTimeout _ | prematureEnd _ | system _ => true
  | _ => false

end TransportError

end DocumentCursor
