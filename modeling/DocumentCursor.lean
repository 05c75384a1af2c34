import DocumentCursor.Arith.Remainder
import DocumentCursor.Arith.Saturating
import DocumentCursor.Cursor.Basic
import DocumentCursor.Cursor.Call
import DocumentCursor.Cursor.Connection
import DocumentCursor.Cursor.Error
import DocumentCursor.Cursor.Retained
import DocumentCursor.Cursor.Run
import DocumentCursor.Document.Namespace
import DocumentCursor.Document.Value
import DocumentCursor.Main
import DocumentCursor.Net.Address
import DocumentCursor.Net.Ip
import DocumentCursor.Net.SystemError
import DocumentCursor.Probe.Arguments
import DocumentCursor.Probe.Log
import DocumentCursor.Probe.Run
import DocumentCursor.ProtocolError
import DocumentCursor.Query.Capability
import DocumentCursor.Query.Decoder
import DocumentCursor.Query.Failure
import DocumentCursor.Query.Reply
import DocumentCursor.Query.Request
import DocumentCursor.Settings.Basic
import DocumentCursor.Settings.Environment
import DocumentCursor.Settings.Files
import DocumentCursor.Settings.Load
import DocumentCursor.Stream.Asynchronous
import DocumentCursor.Stream.Basic
import DocumentCursor.Stream.Blocking
import DocumentCursor.Stream.Buffer
import DocumentCursor.Stream.Call
import DocumentCursor.Stream.Client
import DocumentCursor.Stream.Completion
import DocumentCursor.Stream.Endpoint
import DocumentCursor.Stream.Error
import DocumentCursor.Stream.Fallback
import DocumentCursor.Stream.Line
import DocumentCursor.Text.CharacterClass
import DocumentCursor.Text.Decimal
import DocumentCursor.Text.Encoding
import DocumentCursor.Text.Integer
import DocumentCursor.Text.Numeral
import DocumentCursor.Text.Quoted
import DocumentCursor.Text.Split
import DocumentCursor.Text.Terminal
import DocumentCursor.Text.Unprintable
import DocumentCursor.Tls.Base64
import DocumentCursor.Tls.Certificate
import DocumentCursor.Tls.Config
import DocumentCursor.Tls.Curve
import DocumentCursor.Tls.Der
import DocumentCursor.Tls.Digest
import DocumentCursor.Tls.Pem
import DocumentCursor.Tls.PrivateKey
import DocumentCursor.Tls.ServerName
import DocumentCursor.Tls.TwistedCurve
import DocumentCursor.Wire.Header
import DocumentCursor.Wire.LittleEndian
import DocumentCursor.Wire.Message
import DocumentCursor.Yaml.Error
import DocumentCursor.Yaml.Event
import DocumentCursor.Yaml.Node
import DocumentCursor.Yaml.Place
import DocumentCursor.Yaml.Scalar
import DocumentCursor.Yaml.Token
import DocumentCursor.Yaml.Typed
import DocumentCursor.Proofs.Addresses
import DocumentCursor.Proofs.BufferHandover
import DocumentCursor.Proofs.CallPaths
import DocumentCursor.Proofs.Candidates
import DocumentCursor.Proofs.Closing
import DocumentCursor.Proofs.Counting
import DocumentCursor.Proofs.CreateAndFinish
import DocumentCursor.Proofs.CursorDrain
import DocumentCursor.Proofs.CursorPaths
import DocumentCursor.Proofs.Delivery
import DocumentCursor.Proofs.EventReadings
import DocumentCursor.Proofs.Exchange
import DocumentCursor.Proofs.Exhaust
import DocumentCursor.Proofs.FallibleSteps
import DocumentCursor.Proofs.Faults
import DocumentCursor.Proofs.FetchAnswers
import DocumentCursor.Proofs.Filling
import DocumentCursor.Proofs.Framing
import DocumentCursor.Proofs.FullNames
import DocumentCursor.Proofs.Holding
import DocumentCursor.Proofs.Killing
import DocumentCursor.Proofs.Layering
import DocumentCursor.Proofs.Leasing
import DocumentCursor.Proofs.Lifecycle
import DocumentCursor.Proofs.Limit
import DocumentCursor.Proofs.LimitSign
import DocumentCursor.Proofs.Literals
import DocumentCursor.Proofs.Messages
import DocumentCursor.Proofs.Naming
import DocumentCursor.Proofs.Numerals
import DocumentCursor.Proofs.OpenCursors
import DocumentCursor.Proofs.Opening
import DocumentCursor.Proofs.Ownership
import DocumentCursor.Proofs.Probing
import DocumentCursor.Proofs.ProtocolSimulation
import DocumentCursor.Proofs.Protocols
import DocumentCursor.Proofs.QuietStretches
import DocumentCursor.Proofs.Refusals
import DocumentCursor.Proofs.Repeating
import DocumentCursor.Proofs.Replies
import DocumentCursor.Proofs.Resolving
import DocumentCursor.Proofs.Restating
import DocumentCursor.Proofs.Resuming
import DocumentCursor.Proofs.Retrying
import DocumentCursor.Proofs.RoundTripCases
import DocumentCursor.Proofs.RoundTripEvents
import DocumentCursor.Proofs.RoundTripReplies
import DocumentCursor.Proofs.RoundTripStarts
import DocumentCursor.Proofs.RoundTripSummary
import DocumentCursor.Proofs.Searching
import DocumentCursor.Proofs.Serving
import DocumentCursor.Proofs.Settling
import DocumentCursor.Proofs.Shutting
import DocumentCursor.Proofs.Unrolling
import DocumentCursor.Proofs.Wording
