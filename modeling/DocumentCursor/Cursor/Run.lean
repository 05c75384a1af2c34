import DocumentCursor.Cursor.Connection
import DocumentCursor.Query.Decoder

/-! # Cursor runs

A cursor hands out the documents of a query batch by batch. What never changes about it is its
`Setup`; what does change is its `State`. A `Run` is a state together with the answers that are
still to come and the events that have happened, in order, so that a call on a cursor is a function
from a run to an `Outcome`: a result, and the run after the call.

Main definitions:

* `Setup`, `State`, `Event`, `Run` and `Outcome`;
* `Outcome.andThen` goes on after a success and `Outcome.always` in any case;
* `Run.acquire`, `Run.takeFetch` and `Run.takeKill` take the next answer.
-/

namespace DocumentCursor.Cursor

open Net

/-- How a cursor iterates. Those of `{}` set no limit, leave the batches to the server, and allow it
any time. -/
structure Options where
  /-- The most documents that are returned; zero for all of them. -/
  limit : Int32 := 0
  /-- The documents of a round trip; zero leaves the choice to the server. -/
  batchSize : Int32 := 0
  /-- The time that the server may take for a batch; zero for any. -/
  maxTimeMs : Int64 := 0
  /-- Whether one connection is kept for all batches where that is supported. -/
  exhaust : Bool := false
  deriving DecidableEq, Repr, Inhabited

/-- What never changes about a cursor: what the first reply and the options say, and how documents
are decoded. -/
structure Setup (α : Type) where
  ns : Namespace
  address : Address
  limit : Int32
  maxTimeMs : Int64
  exhaust : Bool
  decode : Document → Except DecodeError α

/-- What changes about a cursor. The batch that waits to be handed out is `buffered`; the connection
that is kept is `pinned`. -/
structure State (α : Type) where
  batchSize : Int32
  /-- The source, as long as the cursor holds on to it. -/
  source : Option Source
  /-- The cursor that the server holds. -/
  live : Option ServerCursor
  /-- The batch that was not handed out yet; there is none when this is empty. -/
  buffered : List α
  /-- The number of documents that the server returned so far. -/
  count : Int32
  /-- Whether the cursor was closed, here or from elsewhere. -/
  closed : Bool
  /-- Whether the work of closing was done. -/
  finished : Bool
  /-- The connection that is kept for all batches. -/
  pinned : Option Connection
  deriving BEq, Repr

/-- The state of a cursor that has not received anything: it is open, with `count = 0`. -/
def State.initial {α : Type} (batchSize : Int32) (source : Option Source) : State α :=
  ⟨batchSize, source, none, [], 0, false, false, none⟩

/-- What happens between a cursor and the outside, in the order of `Run.events`. -/
inductive Event (α : Type) where
  /-- The source is held on to. -/
  | retain
  /-- The source is let go of. -/
  | release
  /-- The source handed out a connection. -/
  | acquire (number : Nat)
  /-- The source refused a connection. -/
  | acquireFailed
  /-- A request was sent on a connection. -/
  | send (number : Nat) (request : Request)
  /-- A reply was taken over: its documents and the cursor that it names. -/
  | accept (documents : List α) (cursor : Option ServerCursor)
  /-- A connection was given up. -/
  | giveUp (number : Nat)
  deriving BEq, Repr

/-- A cursor in the course of its calls: its state, the answers that are still to come, and what has
happened. -/
structure Run (α : Type) where
  state : State α
  script : Script
  /-- The number of connections that were handed out. -/
  issued : Nat := 0
  /-- What has happened, in order. -/
  events : List (Event α) := []

/-- The result of a call, and the run after it. The run goes on after a failure, too. -/
structure Outcome (α β : Type) where
  result : Except CursorError β
  run : Run α

namespace Outcome

variable {α β γ : Type}

/-- A call that answers without doing anything: `.ok value`, and the run as it is. -/
def pure (value : β) (run : Run α) : Outcome α β := ⟨.ok value, run⟩

/-- A call that fails without doing anything: `.error error`, and the run as it is. -/
def fail (error : CursorError) (run : Run α) : Outcome α β := ⟨.error error, run⟩

/-- Goes on after a success, with its value. A failure stays, with the run that it left. -/
def andThen (outcome : Outcome α β) (next : β → Run α → Outcome α γ) : Outcome α γ :=
  match outcome.result with
  | .ok value => next value outcome.run
  | .error error => ⟨.error error, outcome.run⟩

/-- Does something after a success and after a failure alike, which leaves the result as it is. -/
def always (outcome : Outcome α β) (after : Run α → Run α) : Outcome α β :=
  ⟨outcome.result, after outcome.run⟩

/-- Goes on after a result that was found elsewhere, such as in a reply. -/
def ofExcept (result : Except CursorError β) (run : Run α) : Outcome α β := ⟨result, run⟩

@[simp] theorem andThen_pure (value : β) (run : Run α) (next : β → Run α → Outcome α γ) :
    (pure value run).andThen next = next value run := rfl

@[simp] theorem andThen_fail (error : CursorError) (run : Run α)
    (next : β → Run α → Outcome α γ) :
    (fail error run : Outcome α β).andThen next = fail error run := rfl

theorem andThen_of_ok {outcome : Outcome α β} {value : β} (ok : outcome.result = .ok value)
    (next : β → Run α → Outcome α γ) : outcome.andThen next = next value outcome.run := by
  rw [andThen, ok]

theorem andThen_of_error {outcome : Outcome α β} {error : CursorError}
    (failed : outcome.result = .error error) (next : β → Run α → Outcome α γ) :
    outcome.andThen next = fail error outcome.run := by
  rw [andThen, failed]
  rfl

@[simp] theorem run_always (outcome : Outcome α β) (after : Run α → Run α) :
    (outcome.always after).run = after outcome.run := rfl

@[simp] theorem result_always (outcome : Outcome α β) (after : Run α → Run α) :
    (outcome.always after).result = outcome.result := rfl

end Outcome

namespace Run

variable {α : Type}

/-- Notes that something happened, behind all events before it. -/
def emit (event : Event α) (run : Run α) : Run α := { run with events := run.events ++ [event] }

/-- Changes the state, and neither the script nor the events. -/
def modify (change : State α → State α) (run : Run α) : Run α :=
  { run with state := change run.state }

@[simp] theorem state_emit (event : Event α) (run : Run α) : (run.emit event).state = run.state :=
  rfl

@[simp] theorem script_emit (event : Event α) (run : Run α) :
    (run.emit event).script = run.script := rfl

@[simp] theorem events_emit (event : Event α) (run : Run α) :
    (run.emit event).events = run.events ++ [event] := rfl

@[simp] theorem state_modify (change : State α → State α) (run : Run α) :
    (run.modify change).state = change run.state := rfl

@[simp] theorem script_modify (change : State α → State α) (run : Run α) :
    (run.modify change).script = run.script := rfl

@[simp] theorem events_modify (change : State α → State α) (run : Run α) :
    (run.modify change).events = run.events := rfl

/-- Marks the cursor as closed, which does none of the work of closing: `finished` stays as it
is. -/
def markClosed (run : Run α) : Run α := run.modify fun state => { state with closed := true }

/-- Gives a connection up, which is the event `.giveUp` of its number. -/
def giveUp (connection : Connection) (run : Run α) : Run α := run.emit (.giveUp connection.number)

/-! ## Answers -/

/-- Marks the cursor as closed if it is closed from elsewhere just then, and leaves the run as it is
otherwise. -/
def markClosedIf (closes : Bool) (run : Run α) : Run α := if closes then run.markClosed else run

/-- Asks the source for a connection, which has the next number. The cursor is closed before the
source answers if its answer says so, and the caller does not look at that again: a connection is
handed out all the same. A source whose `grants` have run out hands out connections of its own
`wireVersion`. -/
def acquire (run : Run α) : Outcome α Connection :=
  match run.state.source with
  | none => .fail .missingConnectionSource run
  | some source =>
    let number := run.issued + 1
    let granted := fun (version : Int32) (run : Run α) =>
      Outcome.pure ⟨number, version⟩ (emit (.acquire number) { run with issued := number })
    match run.script.grants with
    | [] => granted source.wireVersion run
    | grant :: grants =>
      let run := { run with script := { run.script with grants } }.markClosedIf grant.closes
      match grant with
      | .granted version _ => granted (version.getD source.wireVersion) run
      | .refused error _ => .fail (.transport error) (run.emit .acquireFailed)

/-- Takes a turn: the cursor is closed before its answer arrives if the turn says so, and the answer
is read all the same. -/
def takeTurn {σ : Type} (turn : Turn σ) (run : Run α) : Response σ × Run α :=
  (turn.response, run.markClosedIf turn.closes)

/-- Takes the next answer to a fetch. After the last one there is an empty batch, with which the
server holds no cursor any more. -/
def takeFetch (ns : Namespace) (run : Run α) : Response Batch × Run α :=
  match run.script.fetches with
  | [] => (.success ⟨[], 0, ns.fullName⟩, run)
  | turn :: fetches => takeTurn turn { run with script := { run.script with fetches } }

/-- Takes the next answer to a kill. After the last one every kill succeeds. -/
def takeKill (run : Run α) : Response Unit × Run α :=
  match run.script.kills with
  | [] => (.success (), run)
  | turn :: kills => takeTurn turn { run with script := { run.script with kills } }

end Run

end DocumentCursor.Cursor
