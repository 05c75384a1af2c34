import DocumentCursor.Settings.Basic
import DocumentCursor.Stream.Buffer
import DocumentCursor.Stream.Completion

/-! # Streams

A stream connects to one of the candidates of an address, once, and then reads and writes until it
is closed. A call on it either waits for its result or has it delivered later; a blocking stream
offers the first sort of call only, an asynchronous one offers both, but the first sort not inside
the runtime that drives it.

Main definitions:

* `Mode` and `Mode.refusal?`, which calls a stream does not offer;
* `Setup` is what never changes about a stream;
* `Outcome` is what a call comes to;
* `Phase` is where a stream is in its life.
-/

namespace DocumentCursor.Stream

open Net

/-- How results come: to a call that waits for them, or later. Both streams and calls have a
mode. -/
inductive Mode where
  | blocking
  | asynchronous
  deriving DecidableEq, Repr

/-- Why a stream does not offer a call, if it does not. An asynchronous stream may be called to
wait, but not by a thread of the runtime. -/
def Mode.refusal? (stream call : Mode) (insideRuntime : Bool) : Option TransportError :=
  match stream, call, insideRuntime with
  | blocking, asynchronous, _ => some (.unsupported "SocketStream" "asynchronous")
  | asynchronous, blocking, true => some blockingInsideRuntime
  | _, _, _ => none

/-- What never changes about a stream: its mode, its address and the settings of its sockets. -/
structure Setup where
  mode : Mode
  address : Address
  settings : SocketSettings := {}

/-- Whether reads have a time limit, which `readTimeout?` of the settings says. -/
def Setup.timed (setup : Setup) : Bool := setup.settings.readTimeout?.isSome

/-- What a call comes to: its result, the stream after it and the pool of buffers after it. -/
structure Outcome (σ β : Type) where
  result : Except TransportError β
  stream : σ
  pool : Pool

/-- What connecting a stream comes to: the attempts, the result and the stream after it. -/
structure Starting (σ : Type) where
  /-- The candidates that were tried, by number, in order. -/
  attempts : List Nat := []
  result : Except TransportError Unit
  stream : σ

/-- Where a stream is in its life: from `fresh` to `opened` to `closed`, or from `fresh` to
`closed`. -/
inductive Phase where
  | fresh
  | opened
  | closed
  deriving DecidableEq, Repr

/-- The phase of a stream, given whether connecting was asked for and whether it is closed, which
comes first. -/
def Phase.of (opened closed : Bool) : Phase :=
  if closed then .closed else if opened then .opened else .fresh

/-- Why a stream that is in no state to read or write refuses to: it is closed, or not open yet. -/
def unavailable (closed : Bool) : TransportError := if closed then .closed else .notOpen

end DocumentCursor.Stream
