import DocumentCursor.Stream.Basic
import DocumentCursor.Stream.Fallback
import DocumentCursor.Stream.Line

/-! # Blocking streams

A blocking stream holds its line as a whole. A call that reads or writes has the line to itself
until it ends, so that a close from elsewhere waits for it; a second handle to the line lets the
close break the line off first, which ends a read that waits.

Main definitions:

* `Blocking.start`, `Blocking.read`, `Blocking.write` and `Blocking.close`.
-/

namespace DocumentCursor.Stream

open Net

/-- A stream whose calls wait for their results. It holds a `channel` while it is open. -/
structure Blocking where
  /-- Whether connecting was asked for. -/
  opened : Bool := false
  closed : Bool := false
  channel : Option Line := none
  /-- Whether there is a second handle to the line. -/
  interrupt : Bool := false

namespace Blocking

/-- Where the stream is in its life, by `opened` and `closed`. -/
def phase (stream : Blocking) : Phase := .of stream.opened stream.closed

/-- Closes the stream and gives its line up. Closing it again does nothing. -/
def close (stream : Blocking) : Blocking :=
  { stream with closed := true, interrupt := false, channel := none }

/-- Connects the stream, by `connectWhileTimedOut`. One that could not be connected is closed. -/
def start (setup : Setup) (candidates : Except SystemError (List (Except TransportError Line)))
    (stream : Blocking) : Starting Blocking :=
  if stream.closed then { result := .error .closed, stream }
  else if stream.opened then { result := .error .alreadyOpen, stream }
  else
    let stream := { stream with opened := true }
    let connecting := connectWhileTimedOut setup.address candidates
    match connecting.result with
    | .ok line =>
      { attempts := connecting.attempts
        result := .ok ()
        stream := { stream with channel := some line, interrupt := line.shareable } }
    | .error error =>
      { attempts := connecting.attempts, result := .error error, stream := stream.close }

/-- Gives up a read that falls short: why it failed, and the pool after the buffer was released. A
read that meets a close finds the line ended, and a failure that says so is a timeout. -/
def giveUp (address : Address) (buffer : Buffer) (pool : Pool) : Shortfall → TransportError × Pool
  | .ended | .closed => (.prematureEnd address, pool.release buffer)
  | .outOfTime => (.readTimeout address, pool.release buffer)
  | .failed error =>
    if error.kind = .wouldBlock ∨ error.kind = .timedOut then
      (.readTimeout address, pool.release buffer)
    else (.system error, pool.release buffer)

/-- Reads a number of bytes into a buffer, which is given back if they do not all arrive. The stream
may be closed from elsewhere meanwhile, after a number of arrivals if it can be broken off, and
otherwise when the read is done. -/
def read (setup : Setup) (before : Option Nat) (size : Nat) (stream : Blocking) (pool : Pool) :
    Outcome Blocking Buffer :=
  match stream.channel with
  | none => ⟨.error (unavailable stream.closed), stream, pool⟩
  | some line =>
    let (buffer, pool) := pool.issue size
    let noticed := if stream.interrupt then before else none
    let (filled, incoming) := line.toIncoming.fill setup.timed noticed size
    let stream := { stream with channel := some { line with toIncoming := incoming } }
    let stream := if Incoming.closedMeanwhile before filled then stream.close else stream
    match filled with
    | .ok content => ⟨.ok { buffer with content }, stream, pool⟩
    | .error shortfall =>
      let (error, pool) := giveUp setup.address buffer pool shortfall
      ⟨.error error, stream, pool⟩

/-- How the stream writes: an interrupted offer is made again. -/
def manner : Manner := { stuck := .wholeBufferRefused, retries := true }

/-- Writes buffers, all of them and in order, and drops them whatever comes of it: the pool is
`pool.dropAll buffers`. The stream may be closed from elsewhere meanwhile, after a number of offers
if it can be broken off. -/
def write (before : Option Nat) (buffers : List Buffer) (stream : Blocking) (pool : Pool) :
    Outcome Blocking Unit :=
  match stream.channel with
  | none => ⟨.error (unavailable stream.closed), stream, pool.dropAll buffers⟩
  | some line =>
    let noticed := if stream.interrupt then before else none
    let (drained, outgoing) := line.toOutgoing.drain manner
      (noticed.map (·, .system .brokenPipe)) (buffers.map (·.content))
    let stream := { stream with channel := some { line with toOutgoing := outgoing } }
    ⟨drained, if before.isSome then stream.close else stream, pool.dropAll buffers⟩

end Blocking

end DocumentCursor.Stream
