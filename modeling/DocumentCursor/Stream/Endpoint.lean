import DocumentCursor.Stream.Asynchronous
import DocumentCursor.Stream.Blocking

/-! # Streams of either mode

A stream is a blocking or an asynchronous one. What is asked of it is done by the one that it is.

Main definitions:

* `Endpoint.fresh` is a stream of a mode that was not asked for anything;
* `Endpoint.start`, `Endpoint.read`, `Endpoint.write` and `Endpoint.close`;
* `Endpoint.line?` is the line that a stream holds.
-/

namespace DocumentCursor.Stream

open Net

/-- A stream of either mode. What both can do is said here once, by cases on the mode. -/
inductive Endpoint where
  | blocking (stream : Blocking)
  | asynchronous (stream : Asynchronous)

/-- An outcome of one sort of stream as one of another, by `up`; the result and the pool stay. -/
def Outcome.lift {σ τ β : Type} (up : σ → τ) (outcome : Outcome σ β) : Outcome τ β :=
  ⟨outcome.result, up outcome.stream, outcome.pool⟩

/-- What connecting one sort of stream comes to, as for another, by `up`. -/
def Starting.lift {σ τ : Type} (up : σ → τ) (starting : Starting σ) : Starting τ :=
  ⟨starting.attempts, starting.result, up starting.stream⟩

namespace Endpoint

/-- A stream of which nothing was asked: `{}` in either mode. -/
def fresh : Mode → Endpoint
  | .blocking => blocking {}
  | .asynchronous => asynchronous {}

/-- The mode of a stream. -/
def mode : Endpoint → Mode
  | blocking _ => .blocking
  | asynchronous _ => .asynchronous

/-- Whether a stream is closed. -/
def closed : Endpoint → Bool
  | blocking stream => stream.closed
  | asynchronous stream => stream.closed

/-- Where a stream is in its life. -/
def phase : Endpoint → Phase
  | blocking stream => stream.phase
  | asynchronous stream => stream.phase

/-- The line of a stream, if it holds both ways of one. That of an asynchronous stream is put
together from its halves. -/
def line? : Endpoint → Option Line
  | blocking stream => stream.channel
  | asynchronous stream =>
    match stream.reader, stream.writer with
    | some incoming, some outgoing => some { toIncoming := incoming, toOutgoing := outgoing }
    | _, _ => none

/-- Changes the line of a stream from its other end, if the stream holds one. -/
def onLine (change : Line → Line) : Endpoint → Endpoint
  | blocking stream => blocking { stream with channel := stream.channel.map change }
  | asynchronous stream =>
    match stream.reader, stream.writer with
    | some incoming, some outgoing =>
      let line := change { toIncoming := incoming, toOutgoing := outgoing }
      asynchronous { stream with reader := some line.toIncoming, writer := some line.toOutgoing }
    | _, _ => asynchronous stream

/-- Connects a stream, as its mode does. -/
def start (setup : Setup) (candidates : Except SystemError (List (Except TransportError Line))) :
    Endpoint → Starting Endpoint
  | blocking stream => (stream.start setup candidates).lift blocking
  | asynchronous stream => (stream.start setup candidates).lift asynchronous

/-- Reads a number of bytes, as the mode of the stream does. -/
def read (setup : Setup) (before : Option Nat) (size : Nat) (pool : Pool) :
    Endpoint → Outcome Endpoint Buffer
  | blocking stream => (stream.read setup before size pool).lift blocking
  | asynchronous stream => (stream.read setup before size pool).lift asynchronous

/-- Writes buffers, as the mode of the stream does. -/
def write (before : Option Nat) (buffers : List Buffer) (pool : Pool) :
    Endpoint → Outcome Endpoint Unit
  | blocking stream => (stream.write before buffers pool).lift blocking
  | asynchronous stream => (stream.write before buffers pool).lift asynchronous

/-- Closes a stream, as its mode does. -/
def close : Endpoint → Endpoint
  | blocking stream => blocking stream.close
  | asynchronous stream => asynchronous stream.close

@[simp] theorem mode_fresh (mode : Mode) : (fresh mode).mode = mode := by
  cases mode <;> rfl

/-! A stream keeps its mode. -/

section

variable {setup : Setup} {pool : Pool} (endpoint : Endpoint)

@[simp] theorem mode_start
    (candidates : Except SystemError (List (Except TransportError Line))) :
    (endpoint.start setup candidates).stream.mode = endpoint.mode := by
  cases endpoint <;> rfl

@[simp] theorem mode_read (before : Option Nat) (size : Nat) :
    (endpoint.read setup before size pool).stream.mode = endpoint.mode := by
  cases endpoint <;> rfl

@[simp] theorem mode_write (before : Option Nat) (buffers : List Buffer) :
    (endpoint.write before buffers pool).stream.mode = endpoint.mode := by
  cases endpoint <;> rfl

@[simp] theorem mode_close : endpoint.close.mode = endpoint.mode := by
  cases endpoint <;> rfl

@[simp] theorem mode_onLine (change : Line → Line) :
    (endpoint.onLine change).mode = endpoint.mode := by
  cases endpoint with
  | blocking stream => rfl
  | asynchronous stream => simp only [onLine]; split <;> rfl

end

end Endpoint

end DocumentCursor.Stream
