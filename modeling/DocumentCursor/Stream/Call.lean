import DocumentCursor.Stream.Client

/-! # Calls on a stream

A session is a client in the course of its calls, together with what the candidates of the stream
come to. Between the calls the other end of its line may act, if there is one. The buffer of a
successful read is looked at and given back at once, and buffers that are written are brought along.

Main definitions:

* `Act`, `Call` and `Answer`;
* `Session.perform` makes a call.
-/

namespace DocumentCursor.Stream

open Net

/-- What the other end of a line may do, between the calls on the stream. -/
inductive Act where
  | send (bytes : List UInt8)
  | finish
  | reset
  /-- Takes some of the bytes that were sent to it. -/
  | collect (most : Nat)
  /-- Takes all bytes that were sent to it. -/
  | collectAll
  deriving DecidableEq, Repr

/-- What can be asked of a stream, or is done to it: by its client, or by the other end of its
line. -/
inductive Call where
  | start (mode : Mode) (insideRuntime : Bool)
  | read (mode : Mode) (insideRuntime : Bool) (size : Nat)
  | write (mode : Mode) (insideRuntime : Bool) (buffers : List (List UInt8))
  /-- Begins a read that is not waited for. -/
  | beginRead (size : Nat)
  /-- Waits for the read that was begun. -/
  | finishRead (insideRuntime : Bool)
  /-- Reads, and closes the stream from elsewhere while the read waits. -/
  | closeDuringRead (size : Nat)
  /-- Writes, while the other end takes what is sent to it. -/
  | exchange (buffers : List (List UInt8))
  | buffer (size : Nat)
  | address
  | settings
  | isClosed
  | close
  /-- Lets the other end of the line act. -/
  | act (act : Act)
  deriving DecidableEq, Repr

/-- What a call answers when it succeeds. A call that only does something answers `done`. -/
inductive Answer where
  | done
  /-- A stream was connected, or buffers were written. -/
  | success
  | received (bytes : List UInt8)
  | buffer (content : List UInt8)
  | address (value : Address)
  | settings (value : SocketSettings)
  | flag (value : Bool)
  | exchanged (written : Except TransportError Unit) (received : List UInt8)

/-- A client in the course of its calls, with what its stream is made of and what became of its
line. -/
structure Session where
  setup : Setup
  candidates : Candidates
  state : Client := .fresh setup.mode
  /-- The line that the stream gave up, as its other end still has it. -/
  left : Option Line := none
  /-- The size of the read that was begun, unless it was refused. -/
  begun : Option (Except TransportError Nat) := none

/-- What a call comes to: its result, the session after it, and the candidates that were tried for
it. -/
structure Step where
  result : Except TransportError Answer
  session : Session
  /-- The candidates that were tried. -/
  attempts : List Nat := []

/-- Lets the other end act, and names the bytes that it takes. -/
def Act.on : Act → Line → Answer × Line
  | send bytes, line => (.done, line.deliver bytes)
  | finish, line => (.done, line.finish)
  | reset, line => (.done, line.reset)
  | collect most, line => let (bytes, line) := line.collect most; (.received bytes, line)
  | collectAll, line => let (bytes, line) := line.collect line.sent.length; (.received bytes, line)

namespace Session

/-- A step that only answers. -/
def answer (answer : Answer) (session : Session) : Step := ⟨.ok answer, session, []⟩

/-- The session after its client came to another state. A line that is not held any more is left to
its other end, in `left`. -/
def become (state : Client) (session : Session) : Session :=
  { session with
    state
    left := if state.endpoint.line?.isSome then session.left
      else session.state.endpoint.line?.or session.left }

/-- The step of a call whose result is waited for, which no thread inside the runtime may do where
it is delivered later: it gets `blockingInsideRuntime`. What was begun goes on all the same. -/
def waited (call : Mode) (insideRuntime : Bool) (step : Step) : Step :=
  if call = .asynchronous ∧ insideRuntime then
    { step with result := .error blockingInsideRuntime }
  else step

/-- Connects the stream, by `Client.start`. -/
def start (call : Mode) (insideRuntime : Bool) (session : Session) : Step :=
  let starting := session.state.start session.setup session.candidates call insideRuntime
  waited call insideRuntime
    ⟨starting.result.map fun _ => .success, session.become starting.stream, starting.attempts⟩

/-- Reads, looks at the bytes and gives the buffer back, so that nothing stays on the shelf. -/
def read (call : Mode) (insideRuntime : Bool) (size : Nat) (session : Session) : Step :=
  let place := session.state.shelf.length
  let (result, state) := session.state.read session.setup call insideRuntime none size
  waited call insideRuntime
    ⟨result.map fun buffer => .received buffer.content, session.become (state.release place), []⟩

/-- Brings buffers along and writes them. -/
def write (call : Mode) (insideRuntime : Bool) (buffers : List (List UInt8)) (session : Session) :
    Step :=
  let places := (List.range buffers.length).map (session.state.shelf.length + ·)
  let laden := buffers.foldl (fun client content => client.put content) session.state
  let (result, state) := laden.write call insideRuntime none places
  waited call insideRuntime ⟨result.map fun _ => .success, session.become state, []⟩

/-- Begins a read. That it is refused is known at once, but told when it is waited for, by
`finishRead`. -/
def beginRead (size : Nat) (session : Session) : Step :=
  let begun := match session.state.refusal? .asynchronous false with
    | some error => .error error
    | none =>
      if session.state.endpoint.line?.isSome then .ok size
      else .error (unavailable session.state.closed)
  { session with begun := some begun }.answer .done

/-- Waits for the read that was begun. If none was, nothing is done. -/
def finishRead (insideRuntime : Bool) (session : Session) : Step :=
  let finished := { session with begun := none }
  match session.begun with
  | none => finished.answer .done
  | some (.error error) => waited .asynchronous insideRuntime ⟨.error error, finished, []⟩
  | some (.ok size) => finished.read .asynchronous insideRuntime size

/-- Closes the stream. -/
def close (session : Session) : Session := session.become session.state.close

/-- The line of the stream, as its other end has it, also after the stream gave it up. -/
def otherEnd? (session : Session) : Option Line := session.state.endpoint.line?.or session.left

/-- Changes the line of the stream from its other end. -/
def onOtherEnd (change : Line → Line) (session : Session) : Session :=
  if session.state.endpoint.line?.isSome then
    { session with
      state := { session.state with endpoint := session.state.endpoint.onLine change } }
  else { session with left := session.left.map change }

/-- Makes a call; there is no step if the other end of a line is to act and there is no line. -/
def perform (call : Call) (session : Session) : Option Step :=
  match call with
  | .start mode inside => some (session.start mode inside)
  | .read mode inside size => some (session.read mode inside size)
  | .write mode inside buffers => some (session.write mode inside buffers)
  | .beginRead size => some (session.beginRead size)
  | .finishRead inside => some (session.finishRead inside)
  | .closeDuringRead size =>
    let step := session.read .blocking false size
    some { step with session := step.session.close }
  | .exchange buffers =>
    session.otherEnd?.map fun _ =>
      let step := session.write .blocking false buffers
      let written := step.result.map fun _ => ()
      let received := (step.session.otherEnd?.map (·.sent)).getD []
      (step.session.onOtherEnd fun line => { line with sent := [] }).answer
        (.exchanged written received)
  | .buffer size =>
    let place := session.state.shelf.length
    let (buffer, state) := session.state.take size
    some ((session.become (state.release place)).answer (.buffer buffer.content))
  | .address => some (session.answer (.address session.setup.address))
  | .settings => some (session.answer (.settings session.setup.settings))
  | .isClosed => some (session.answer (.flag session.state.closed))
  | .close => some (session.close.answer .done)
  | .act act =>
    session.otherEnd?.map fun line =>
      let (answer, line) := act.on line
      (session.onOtherEnd fun _ => line).answer answer

end Session

end DocumentCursor.Stream
