import DocumentCursor.Stream.Basic
import DocumentCursor.Stream.Fallback
import DocumentCursor.Stream.Line

/-! # Asynchronous streams

An asynchronous stream holds the two ways of its line apart. A call that reads or writes checks its
half out and works on it in a task of the runtime, which checks the half in again if the stream is
not closed by then. Closing tells the tasks in flight to stop: they let go of their buffers.

Main definitions:

* `Asynchronous.start`, `Asynchronous.read`, `Asynchronous.write` and `Asynchronous.close`.
-/

namespace DocumentCursor.Stream

open Net

/-- A stream whose results are delivered later. It holds a `reader` and a `writer` while it is open,
and a task takes the half that it works on. -/
structure Asynchronous where
  /-- Whether connecting was asked for. -/
  opened : Bool := false
  closed : Bool := false
  /-- What comes in, unless a task has it. -/
  reader : Option Incoming := none
  /-- What goes out, unless a task has it. -/
  writer : Option Outgoing := none
  /-- Whether tasks are told to stop. -/
  shutdown : Bool := false

namespace Asynchronous

/-- Where the stream is in its life, by `opened` and `closed`. -/
def phase (stream : Asynchronous) : Phase := .of stream.opened stream.closed

/-- Closes the stream, tells its tasks to stop and gives up the halves that none of them has:
`reader` and `writer` are `none`. -/
def close (stream : Asynchronous) : Asynchronous :=
  { stream with closed := true, shutdown := true, reader := none, writer := none }

/-- How much a task gets done before it stops, given when the stream is closed, if it is: nothing
after a `shutdown`. -/
def noticed (before : Option Nat) (stream : Asynchronous) : Option Nat :=
  if stream.shutdown then some 0 else before

/-! ## Connecting -/

/-- Holds a line that was connected, unless the stream was closed meanwhile, when the line is given
up. -/
def install (line : Line) (stream : Asynchronous) : Except TransportError Unit × Asynchronous :=
  if stream.closed then (.error .closed, stream)
  else (.ok (), { stream with reader := some line.toIncoming, writer := some line.toOutgoing })

/-- What the task that connects the stream comes to: `connectUntilReached`, unless it is told to
stop. -/
def connectTask (setup : Setup)
    (candidates : Except SystemError (List (Except TransportError Line)))
    (stream : Asynchronous) : Starting Asynchronous :=
  if stream.shutdown then { result := .error .closed, stream }
  else
    let connecting := connectUntilReached setup.address candidates
    match connecting.result with
    | .ok line =>
      let (result, stream) := stream.install line
      { attempts := connecting.attempts, result, stream }
    | .error error => { attempts := connecting.attempts, result := .error error, stream }

/-- Connects the stream, by `connectTask`. One that could not be connected is closed. -/
def start (setup : Setup) (candidates : Except SystemError (List (Except TransportError Line)))
    (stream : Asynchronous) : Starting Asynchronous :=
  if stream.closed then { result := .error .closed, stream }
  else if stream.opened then { result := .error .alreadyOpen, stream }
  else
    let starting := connectTask setup candidates { stream with opened := true }
    match starting.result with
    | .ok () => starting
    | .error _ => { starting with stream := starting.stream.close }

/-! ## Reading -/

/-- Checks the half that reads in, if the stream is not closed. A closed one gives the half up. -/
def checkInReader (half : Incoming) (stream : Asynchronous) : Asynchronous :=
  if stream.closed then stream else { stream with reader := some half }

/-- What the task that fills a buffer comes to: `fill`, unless it is told to stop before it
begins. -/
def readTask (setup : Setup) (size : Nat) (half : Incoming) :
    Option Nat → Except Shortfall (List UInt8) × Incoming
  | some 0 => (.error .closed, half)
  | noticed => half.fill setup.timed noticed size

/-- Gives up a read that falls short: why it failed, and the pool after its buffer. A task that
stops drops its buffer; otherwise the buffer is released. -/
def giveUp (address : Address) (buffer : Buffer) (pool : Pool) : Shortfall → TransportError × Pool
  | .ended => (.prematureEnd address, pool.release buffer)
  | .outOfTime => (.readTimeout address, pool.release buffer)
  | .failed error => (.system error, pool.release buffer)
  | .closed => (.closed, pool.drop buffer)

/-- Reads a number of bytes into a buffer, which is given back if they do not all arrive. The stream
may be closed from elsewhere meanwhile, after a number of arrivals. The half that reads comes back
to the stream, also after a failure. -/
def read (setup : Setup) (before : Option Nat) (size : Nat) (stream : Asynchronous) (pool : Pool) :
    Outcome Asynchronous Buffer :=
  match stream.reader with
  | none => ⟨.error (unavailable stream.closed), stream, pool⟩
  | some half =>
    let (buffer, pool) := pool.issue size
    let stream := { stream with reader := none }
    let (filled, half) := readTask setup size half (stream.noticed before)
    let stream := if Incoming.closedMeanwhile before filled then stream.close else stream
    let stream := stream.checkInReader half
    match filled with
    | .ok content => ⟨.ok { buffer with content }, stream, pool⟩
    | .error shortfall =>
      let (error, pool) := giveUp setup.address buffer pool shortfall
      ⟨.error error, stream, pool⟩

/-! ## Writing -/

/-- Checks the half that writes in, if the stream is not closed. A closed one gives the half up. -/
def checkInWriter (half : Outgoing) (stream : Asynchronous) : Asynchronous :=
  if stream.closed then stream else { stream with writer := some half }

/-- How the stream writes: an interrupted offer is a failure. -/
def manner : Manner := { stuck := .writeZero, retries := false }

/-- What the task that drains buffers comes to: `drain`, unless it is told to stop before it
begins. -/
def writeTask (buffers : List (List UInt8)) (half : Outgoing) :
    Option Nat → Except TransportError Unit × Outgoing
  | some 0 => (.error .closed, half)
  | noticed => half.drain manner (noticed.map (·, .closed)) buffers

/-- Writes buffers, all of them and in order. They are dropped when the task ends, whatever comes of
it. The stream may be closed from elsewhere meanwhile, after a number of offers.

The task answers before it drops the buffers, so whoever waits for the answer may still find them
among those that are out. The `pool` of the outcome is the one after the end of the task, when no
buffer of the call is out any more: `pool.dropAll buffers`. -/
def write (before : Option Nat) (buffers : List Buffer) (stream : Asynchronous) (pool : Pool) :
    Outcome Asynchronous Unit :=
  match stream.writer with
  | none => ⟨.error (unavailable stream.closed), stream, pool.dropAll buffers⟩
  | some half =>
    let stream := { stream with writer := none }
    let (drained, half) := writeTask (buffers.map (·.content)) half (stream.noticed before)
    let stream := if before.isSome then stream.close else stream
    ⟨drained, stream.checkInWriter half, pool.dropAll buffers⟩

end Asynchronous

end DocumentCursor.Stream
