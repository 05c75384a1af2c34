import DocumentCursor.Stream.Error

/-! # Lines

A line carries bytes both ways between a stream and its other end. What the other end sends arrives
in chunks, between which there may be silence or a failure; how it is cut into chunks does not
matter to a reader, who fills a buffer from as many as it takes. What the stream writes is taken in
parts of any size, and a buffer is offered again until it is drained; then what was taken is
flushed. A stream may be closed from elsewhere while it reads or writes, which is a matter of how
much arrives or is taken before that.

Main definitions:

* `Incoming` and `Outgoing` are the two ways, and a `Line` has both;
* `Incoming.fill` takes bytes that have arrived;
* `Outgoing.drain` hands bytes over;
* `Line.deliver`, `Line.finish`, `Line.reset` and `Line.collect` are what the other end does.
-/

namespace DocumentCursor.Stream

open Net

/-! ## Reading -/

/-- What a reader meets next: bytes, a silence or a failure. -/
inductive Arrival where
  | chunk (bytes : List UInt8)
  /-- Nothing, for longer than any time limit. -/
  | silence
  | failure (error : SystemError)
  deriving DecidableEq, Repr

/-- The bytes that arrive, which are those of a `chunk`. -/
def Arrival.bytes : Arrival → List UInt8
  | chunk bytes => bytes
  | _ => []

/-- Why a buffer could not be filled. What a stream makes of it is in its `giveUp`. -/
inductive Shortfall where
  /-- The other end sends no more. -/
  | ended
  | outOfTime
  | failed (error : SystemError)
  /-- The stream was closed from elsewhere while the reader waited. -/
  | closed
  deriving DecidableEq, Repr

/-- Fills a buffer of the given size from what arrives, within a time limit or without one, and
leaves the rest. When nothing is left to arrive, the last shortfall is why. What was taken for a
buffer that cannot be filled is lost. -/
def fillFrom (timed : Bool) (last : Shortfall) :
    Nat → List Arrival → Except Shortfall (List UInt8) × List Arrival
  | 0, arrivals => (.ok [], arrivals)
  | _ + 1, [] => (.error last, [])
  | wanted + 1, .silence :: arrivals =>
    if timed then (.error .outOfTime, arrivals) else fillFrom timed last (wanted + 1) arrivals
  | wanted + 1, .failure error :: arrivals =>
    if error.kind = .interrupted then fillFrom timed last (wanted + 1) arrivals
    else (.error (.failed error), arrivals)
  | wanted + 1, .chunk bytes :: arrivals =>
    if bytes.length ≤ wanted + 1 then
      let (filled, arrivals) := fillFrom timed last (wanted + 1 - bytes.length) arrivals
      (filled.map (bytes ++ ·), arrivals)
    else (.ok (bytes.take (wanted + 1)), .chunk (bytes.drop (wanted + 1)) :: arrivals)

/-- What comes to a stream. -/
structure Incoming where
  arrivals : List Arrival := []
  /-- Whether the other end sends nothing after that. -/
  ended : Bool := false

namespace Incoming

/-- What becomes of a reader to whom nothing is left to arrive: `ended`, `outOfTime`, or `closed`.
Without a time limit it waits until the stream is closed. -/
def last (timed : Bool) (incoming : Incoming) : Shortfall :=
  if incoming.ended then .ended else if timed then .outOfTime else .closed

/-- Fills a buffer of the given size by `fillFrom`. If the stream is closed from elsewhere
meanwhile, it is told in `before` how many arrivals come before that. -/
def fill (timed : Bool) (before : Option Nat) (wanted : Nat) (incoming : Incoming) :
    Except Shortfall (List UInt8) × Incoming :=
  match before with
  | none =>
    let (filled, arrivals) := fillFrom timed (incoming.last timed) wanted incoming.arrivals
    (filled, { incoming with arrivals })
  | some number =>
    let last := if number ≤ incoming.arrivals.length then .closed else incoming.last timed
    let (filled, arrivals) := fillFrom timed last wanted (incoming.arrivals.take number)
    (filled, { incoming with arrivals := arrivals ++ incoming.arrivals.drop number })

/-- Whether a stream was closed from elsewhere while it read: it is told when, or the read ended for
no other reason than `.closed`. -/
def closedMeanwhile (before : Option Nat) (filled : Except Shortfall (List UInt8)) : Bool :=
  before.isSome ||
    match filled with
    | .error .closed => true
    | _ => false

/-- The bytes that have arrived and that nobody has taken. -/
def pending (incoming : Incoming) : List UInt8 := incoming.arrivals.flatMap Arrival.bytes

/-- Nothing is taken for an empty buffer: `fill` of size `0` is `[]`, and leaves all that comes. -/
@[simp] theorem fill_zero (timed : Bool) (incoming : Incoming) :
    incoming.fill timed none 0 = (.ok [], incoming) := by
  simp [fill, fillFrom]

end Incoming

/-! ## Writing -/

/-- How a stream deals with an offer of bytes that comes to nothing. The two modes differ in it. -/
structure Manner where
  /-- The failure of an offer of which nothing is taken. -/
  stuck : SystemError
  /-- Whether an interrupted offer is made again. -/
  retries : Bool

/-- What handing bytes over comes to: the result, the bytes that went, and the offers that are
left. -/
structure Draining where
  result : Except TransportError Unit
  /-- The bytes that were taken, in order. -/
  taken : List UInt8
  /-- What the offers after that come to. -/
  offers : List (Except SystemError Nat)

/-- Offers a buffer until it is drained, and what is left of it again after every piece. Once it is
not known any more what offers come to, they are taken whole, or fail for the `last` reason. -/
def drainBuffer (manner : Manner) (last : Option TransportError) :
    List UInt8 → List (Except SystemError Nat) → Draining
  | [], offers => ⟨.ok (), [], offers⟩
  | byte :: bytes, [] =>
    match last with
    | none => ⟨.ok (), byte :: bytes, []⟩
    | some error => ⟨.error error, [], []⟩
  | byte :: bytes, .error error :: offers =>
    if manner.retries ∧ error.kind = .interrupted then
      drainBuffer manner last (byte :: bytes) offers
    else ⟨.error (.system error), [], offers⟩
  | _ :: _, .ok 0 :: offers => ⟨.error (.system manner.stuck), [], offers⟩
  | byte :: bytes, .ok (most + 1) :: offers =>
    let rest := drainBuffer manner last (bytes.drop most) offers
    { rest with taken := byte :: bytes.take most ++ rest.taken }

/-- Drains buffers one after the other, up to the first failure. The buffers behind that are not
offered. -/
def drainBuffers (manner : Manner) (last : Option TransportError) :
    List (List UInt8) → List (Except SystemError Nat) → Draining
  | [], offers => ⟨.ok (), [], offers⟩
  | buffer :: buffers, offers =>
    let drained := drainBuffer manner last buffer offers
    match drained.result with
    | .error _ => drained
    | .ok () =>
      let rest := drainBuffers manner last buffers drained.offers
      { rest with taken := drained.taken ++ rest.taken }

/-- What goes from a stream, and what the line makes of it. -/
structure Outgoing where
  /-- What the next offers of bytes come to: the most bytes that are taken, or a failure. Later
  offers are taken whole. -/
  offers : List (Except SystemError Nat) := []
  /-- Why later offers fail, if they do. -/
  broken : Option SystemError := none
  /-- Why what was taken cannot be flushed, if it cannot. -/
  unflushed : Option SystemError := none
  /-- The bytes that were taken and have not reached the other end. -/
  sent : List UInt8 := []

namespace Outgoing

/-- Flushes what was taken, which fails by `unflushed`. -/
def flush (outgoing : Outgoing) : Except TransportError Unit :=
  match outgoing.unflushed with
  | none => .ok ()
  | some error => .error (.system error)

/-- Hands buffers over, and flushes them if all were taken. If the stream is closed from elsewhere
meanwhile, it is told in `before` how many offers are made before that and why the next one
fails. -/
def drain (manner : Manner) (before : Option (Nat × TransportError)) (buffers : List (List UInt8))
    (outgoing : Outgoing) : Except TransportError Unit × Outgoing :=
  let broken := outgoing.broken.map .system
  let (known, last, later) := match before with
    | none => (outgoing.offers, broken, [])
    | some (number, error) =>
      (outgoing.offers.take number,
        if number ≤ outgoing.offers.length then some error else broken,
        outgoing.offers.drop number)
  let drained := drainBuffers manner last buffers known
  (drained.result.bind fun _ => outgoing.flush,
    { outgoing with
      offers := drained.offers ++ later
      sent := outgoing.sent ++ drained.taken })

end Outgoing

/-! ## Both ways -/

/-- What happens on the way between a stream and its other end, in both directions. -/
structure Line extends Incoming, Outgoing where
  /-- Whether a second handle to it can be had. -/
  shareable : Bool := true

namespace Line

/-- The other end sends bytes: they arrive in a chunk of their own, behind what has arrived. -/
def deliver (bytes : List UInt8) (line : Line) : Line :=
  { line with arrivals := line.arrivals ++ [.chunk bytes] }

/-- The other end sends no more: the line has `ended`. -/
def finish (line : Line) : Line := { line with ended := true }

/-- The other end breaks the line off: reads fail behind what has arrived, and writes fail. -/
def reset (line : Line) : Line :=
  { line with
    arrivals := line.arrivals ++ [.failure .connectionReset]
    ended := true
    broken := some .brokenPipe }

/-- The other end takes bytes that were sent to it, at most `most` of them. -/
def collect (most : Nat) (line : Line) : List UInt8 × Line :=
  (line.sent.take most, { line with sent := line.sent.drop most })

@[simp] theorem pending_deliver (bytes : List UInt8) (line : Line) :
    (line.deliver bytes).pending = line.pending ++ bytes := by
  simp [Incoming.pending, deliver, Arrival.bytes]

end Line

end DocumentCursor.Stream
