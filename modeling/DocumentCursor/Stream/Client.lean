import DocumentCursor.Stream.Endpoint

/-! # Clients of a stream

A client uses one stream, one call after the other, and has buffers in its hands: those that it took
from the pool or brought along and those that reads handed to it. It keeps them in numbered places
until it gives them back, or hands them to the stream to be written. Every buffer that the stream
takes is given back or handed to the client exactly once.

Main definitions:

* `Client` is a stream with the pool and the buffers in the hands of its client;
* `Client.start`, `Client.read`, `Client.write` make a call, if the stream offers it;
* `Use` and `Client.perform` are all that a client may do, and `Client.performAll` does it in order.
-/

namespace DocumentCursor.Stream

open Net

/-- What an attempt at each candidate of an address comes to, if these are known; why they are not,
otherwise. -/
abbrev Candidates := Except SystemError (List (Except TransportError Line))

/-- A stream, and the buffers that its client has on its shelf. Other buffers are on their way, or
back in the pool. -/
structure Client where
  endpoint : Endpoint
  pool : Pool := {}
  /-- The places in which the client keeps its buffers. -/
  shelf : Shelf := []

namespace Client

/-- The client of a stream of which nothing was asked. -/
def fresh (mode : Mode) : Client := { endpoint := .fresh mode }

/-- Where the stream is in its life. -/
def phase (client : Client) : Phase := client.endpoint.phase

/-- Whether the stream is closed. -/
def closed (client : Client) : Bool := client.endpoint.closed

/-- Why the stream does not offer a call, if it does not, by the mode of its endpoint. -/
def refusal? (call : Mode) (insideRuntime : Bool) (client : Client) : Option TransportError :=
  client.endpoint.mode.refusal? call insideRuntime

/-- Connects the stream, unless it does not offer the call. -/
def start (setup : Setup) (candidates : Candidates) (call : Mode) (insideRuntime : Bool)
    (client : Client) : Starting Client :=
  match client.refusal? call insideRuntime with
  | some error => { result := .error error, stream := client }
  | none =>
    (client.endpoint.start setup candidates).lift fun endpoint => { client with endpoint }

/-- Reads into a buffer, which the client puts into a new place. A read that fails leaves the shelf
as it is. -/
def read (setup : Setup) (call : Mode) (insideRuntime : Bool) (before : Option Nat) (size : Nat)
    (client : Client) : Except TransportError Buffer × Client :=
  match client.refusal? call insideRuntime with
  | some error => (.error error, client)
  | none =>
    let outcome := client.endpoint.read setup before size client.pool
    let client := { client with endpoint := outcome.stream, pool := outcome.pool }
    match outcome.result with
    | .ok buffer => (.ok buffer, { client with shelf := client.shelf ++ [some buffer] })
    | .error error => (.error error, client)

/-- Writes the buffers in some places, which the client gives out of its hands. A call that is not
offered lets go of them, too. -/
def write (call : Mode) (insideRuntime : Bool) (before : Option Nat) (places : List Nat)
    (client : Client) : Except TransportError Unit × Client :=
  let (buffers, shelf) := client.shelf.takeAll places
  match client.refusal? call insideRuntime with
  | some error => (.error error, { client with pool := client.pool.dropAll buffers, shelf })
  | none =>
    let outcome := client.endpoint.write before buffers client.pool
    (outcome.result, { endpoint := outcome.stream, pool := outcome.pool, shelf })

/-- Closes the stream. -/
def close (client : Client) : Client := { client with endpoint := client.endpoint.close }

/-- Takes a buffer of zeros from the pool. -/
def take (size : Nat) (client : Client) : Buffer × Client :=
  let (buffer, pool) := client.pool.issue size
  (buffer, { client with pool, shelf := client.shelf ++ [some buffer] })

/-- Brings a buffer along that comes from no pool. -/
def put (content : List UInt8) (client : Client) : Client :=
  { client with shelf := client.shelf.put content false }

/-- Gives the buffer in a place back, if there is one. -/
def release (place : Nat) (client : Client) : Client :=
  { client with
    pool := (client.shelf.buffer? place).elim client.pool client.pool.release
    shelf := client.shelf.release place }

end Client

/-- What a client may do, with its stream or with its buffers. -/
inductive Use where
  | start (call : Mode) (insideRuntime : Bool)
  /-- Reads. The stream may be closed from elsewhere after some arrivals. -/
  | read (call : Mode) (insideRuntime : Bool) (before : Option Nat) (size : Nat)
  /-- Writes the buffers in some places. The stream may be closed from elsewhere after some offers.
  -/
  | write (call : Mode) (insideRuntime : Bool) (before : Option Nat) (places : List Nat)
  | close
  | isClosed
  /-- Takes a buffer from the pool. -/
  | take (size : Nat)
  /-- Brings a buffer along. -/
  | put (content : List UInt8)
  /-- Gives a buffer back. -/
  | release (place : Nat)
  /-- Lets the other end of the line act, and whatever is between. -/
  | wait (change : Line → Line)

/-- What a client learns. -/
inductive Reply where
  | done
  | flag (value : Bool)
  | buffer (value : Buffer)

/-- What a client learns, or why it does not, and the candidates that were tried for it, which are
none but for `start`. -/
structure Report where
  result : Except TransportError Reply
  attempts : List Nat := []

namespace Client

/-- Does what a client may do. -/
def perform (setup : Setup) (candidates : Candidates) (use : Use) (client : Client) :
    Report × Client :=
  match use with
  | .start call inside =>
    let starting := client.start setup candidates call inside
    (⟨starting.result.map fun _ => .done, starting.attempts⟩, starting.stream)
  | .read call inside before size =>
    let (result, client) := client.read setup call inside before size
    (⟨result.map .buffer, []⟩, client)
  | .write call inside before places =>
    let (result, client) := client.write call inside before places
    (⟨result.map fun _ => .done, []⟩, client)
  | .close => (⟨.ok .done, []⟩, client.close)
  | .isClosed => (⟨.ok (.flag client.closed), []⟩, client)
  | .take size =>
    let (buffer, client) := client.take size
    (⟨.ok (.buffer buffer), []⟩, client)
  | .put content => (⟨.ok .done, []⟩, client.put content)
  | .release place => (⟨.ok .done, []⟩, client.release place)
  | .wait change =>
    (⟨.ok .done, []⟩, { client with endpoint := client.endpoint.onLine change })

/-- Does one thing after the other, and gathers the reports. A failure does not keep the client from
what follows. -/
def performAll (setup : Setup) (candidates : Candidates) :
    List Use → Client → List Report × Client
  | [], client => ([], client)
  | use :: uses, client =>
    let (report, client) := client.perform setup candidates use
    let (reports, client) := performAll setup candidates uses client
    (report :: reports, client)

/-- What is left to do is done by the client as it is then: `performAll (use :: uses)` is
`perform use`, and then `performAll uses`. -/
theorem performAll_cons (setup : Setup) (candidates : Candidates) (use : Use) (uses : List Use)
    (client : Client) :
    (client.performAll setup candidates (use :: uses)).2 =
      ((client.perform setup candidates use).2.performAll setup candidates uses).2 := rfl

end Client

end DocumentCursor.Stream
