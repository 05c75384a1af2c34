import DocumentCursor.Cursor.Basic

/-! # Calls on a cursor

The life of a cursor is a sequence of calls: those of its owner, those on the handle by which it can
be closed from elsewhere, and the last one, which drops it. Dropping closes it, and after that only
the handle can still be used.

Main definitions:

* `Call` and `Answer`;
* `Life.begin` makes a cursor and `Life.perform` makes a call.
-/

namespace DocumentCursor.Cursor

open Net

/-- What can be asked of a cursor. A handle is what others close it by, `handleClose`, also when it
was dropped. -/
inductive Call where
  | hasNext
  | nextBatch
  | tryNext
  | next
  /-- Every next batch up to the end, but at most the given number of them. -/
  | collect (most : Nat)
  | setBatchSize (size : Int32)
  | batchSize
  | limit
  | count
  | ns
  | serverCursor
  | serverAddress
  | isClosed
  | close
  /-- Closes the cursor from elsewhere. -/
  | handleClose
  /-- Asks from elsewhere whether it was closed. -/
  | handleIsClosed
  | drop
  deriving DecidableEq, Repr

/-- What a call answers when it succeeds. A call on a cursor that was dropped is not made, and
answers `dropped`. -/
inductive Answer (α : Type) where
  | done
  | dropped
  | flag (value : Bool)
  | number (value : Int32)
  | batch (documents : Option (List α))
  | batches (results : List (Except CursorError (List α)))
  | ns (value : Namespace)
  | cursor (value : Option ServerCursor)
  | address (value : Address)

/-- A cursor from its making on, with its setup and whether it was `dropped`. -/
structure Life (α : Type) where
  setup : Setup α
  run : Run α
  dropped : Bool := false

variable {α : Type}

/-- The batches that are handed out one after the other, with the failures in between: `most` times
`next`, up to the first `none`. -/
def collect (setup : Setup α) : Nat → Run α → List (Except CursorError (List α)) × Run α
  | 0, run => ([], run)
  | most + 1, run =>
    let outcome := next setup run
    let rest := collect setup most outcome.run
    match outcome.result with
    | .ok none => ([], outcome.run)
    | .ok (some batch) => (.ok batch :: rest.1, rest.2)
    | .error error => (.error error :: rest.1, rest.2)

namespace Life

/-- Makes a cursor. The connection that the query was made on is given up by its owner right after
that, whether or not the cursor could be made. -/
def begin (first : Reply α) (options : Options) (decode : Document → Except DecodeError α)
    (source : Option Source) (connection : Option Connection) (script : Script) :
    Except CursorError Unit × Life α :=
  let setup := Setup.of first options decode
  let outcome := create setup options.batchSize first source connection script
  let run := match connection with
    | some connection => outcome.run.giveUp connection
    | none => outcome.run
  (outcome.result, { setup, run })

/-- The life after a call with the given outcome: the result as an `Answer`, and the run of the
outcome. -/
def after {β : Type} (life : Life α) (answer : β → Answer α) (outcome : Outcome α β) :
    Except CursorError (Answer α) × Life α :=
  (outcome.result.map answer, { life with run := outcome.run })

/-- Makes a call on a cursor that was not dropped. Whatever asks for a part of the state changes
nothing. -/
def performAlive (call : Call) (life : Life α) : Except CursorError (Answer α) × Life α :=
  let setup := life.setup
  let run := life.run
  match call with
  | .hasNext => life.after .flag (hasNext setup run)
  | .nextBatch => life.after (fun batch => .batch (some batch)) (nextBatch setup run)
  | .tryNext => life.after .batch (tryNext setup run)
  | .next => life.after .batch (next setup run)
  | .collect most =>
    let (results, run) := collect setup most run
    (.ok (.batches results), { life with run })
  | .setBatchSize batchSize =>
    (.ok (.number batchSize), { life with run := run.modify ({ · with batchSize }) })
  | .batchSize => (.ok (.number run.state.batchSize), life)
  | .limit => (.ok (.number setup.limit), life)
  | .count => (.ok (.number run.state.count), life)
  | .ns => (.ok (.ns setup.ns), life)
  | .serverCursor => ((serverCursor run).map .cursor, life)
  | .serverAddress => ((serverAddress setup run).map .address, life)
  | .isClosed | .handleIsClosed => (.ok (.flag run.state.closed), life)
  | .close => (.ok .done, { life with run := close setup run })
  | .handleClose => (.ok .done, { life with run := run.markClosed })
  | .drop => (.ok .dropped, { life with run := close setup run, dropped := true })

/-- Makes a call. Of a cursor that was dropped only the handle is left. -/
def perform (call : Call) (life : Life α) : Except CursorError (Answer α) × Life α :=
  if life.dropped && call ≠ .handleClose && call ≠ .handleIsClosed then (.ok .dropped, life)
  else performAlive call life

/-- The results of calls that are made one after the other, and the life after them. A failure does
not keep the calls behind it from being made. -/
def performAll : List Call → Life α → List (Except CursorError (Answer α)) × Life α
  | [], life => ([], life)
  | call :: calls, life =>
    let (result, life) := perform call life
    let (results, life) := performAll calls life
    (result :: results, life)

end Life

end DocumentCursor.Cursor
