import DocumentCursor.Cursor.Run

/-! # The batch cursor

A cursor asks for the next batch while the server holds a cursor for it and its limit is not
reached. It holds on to its source exactly as long as the server holds a cursor. When a batch
reaches the limit the server's cursor is killed on the connection that brought the batch. With
`exhaust` a connection that supports it is kept until the server's cursor is gone.

Closing kills the server's cursor, whether or not that succeeds, and gives everything up. It may be
asked for from elsewhere at any time; then the next call that looks for data does the work of
closing and fails.

Main definitions:

* `create` makes a cursor from the reply to a query;
* `hasNext`, `nextBatch`, `tryNext` and `next` are the ways to get at the batches;
* `close` closes it.
-/

namespace DocumentCursor.Cursor

open Net

variable {α : Type}

/-! ## Taking over replies -/

/-- Whether the server has returned as many documents as the limit allows: `|limit| ≤ |count|`,
unless `limit` is `0`. The sign of the limit is not looked at. -/
def limitReached (setup : Setup α) (state : State α) : Bool :=
  setup.limit ≠ 0 && setup.limit.toInt.natAbs ≤ state.count.toInt.natAbs

/-- Takes over the documents and the cursor of a reply. The documents are counted when they are
received, not when they are handed out. -/
def absorb (reply : Reply α) (run : Run α) : Run α :=
  (run.modify fun state => { state with
    live := reply.cursor
    count := Saturating.add state.count (Saturating.clamp reply.documents.length)
    buffered := reply.documents }).emit (.accept reply.documents reply.cursor)

/-- Lets go of the source, if it is still held, so that it is let go of once. -/
def release (run : Run α) : Run α :=
  if run.state.source.isSome then
    (run.modify fun state => { state with source := none }).emit .release
  else run

/-- Lets go of the source once the server holds no cursor, as no connection is needed any more. -/
def releaseIfExhausted (run : Run α) : Run α :=
  if run.state.live.isNone then release run else run

/-! ## Killing the server's cursor -/

/-- Sends a command to the database of the cursor, and takes the answer that `take` finds. `render`
writes the reply of a success. -/
def sendCommand {σ : Type} (setup : Setup α) (connection : Connection) (document : Document)
    (exhaust : Bool) (render : σ → Document) (take : Run α → Response σ × Run α) (run : Run α) :
    Outcome α Document :=
  match run.state.source with
  | none => .fail .missingConnectionSource run
  | some source =>
    let request := .command setup.ns.database document .primary source.session exhaust
    let (response, run) := take (run.emit (.send connection.number request))
    .ofExcept (response.toCommand render) run

/-- A reply that reports success, or the failure that it reports as an error, `.command failure`. -/
def checked (reply : Document) : Except CursorError Document :=
  (Failure.check reply).mapError .command

/-- Sends what kills a cursor: the command where the connection has commands, the message
otherwise. -/
def sendKill (setup : Setup α) (connection : Connection) (id : Int64) (run : Run α) :
    Outcome α Unit :=
  if connection.capability.supportsCommands then
    let document := (KillCursorsCommand.mk setup.ns.collection [id]).document
    (sendCommand setup connection document false (fun _ => killedReply) Run.takeKill run).andThen
      fun reply run => .ofExcept ((checked reply).map fun _ => ()) run
  else
    let (response, run) :=
      (run.emit (.send connection.number (.killCursors setup.ns [id]))).takeKill
    .ofExcept response.toKillCursors run

/-- Kills the server's cursor, if there is one, on the given connection. Only a success forgets the
cursor: `live` stays after a failure. -/
def killOn (setup : Setup α) (connection : Connection) (run : Run α) : Outcome α Unit :=
  match run.state.live with
  | none => .pure () run
  | some cursor =>
    (sendKill setup connection cursor.id run).andThen fun _ run =>
      .pure () (run.modify fun state => { state with live := none })

/-- Kills the server's cursor, if there is one, on a connection of its own, which is given up
whether or not that succeeds. -/
def killOnNew (setup : Setup α) (run : Run α) : Outcome α Unit :=
  if run.state.live.isNone then .pure () run
  else run.acquire.andThen fun connection run =>
    (killOn setup connection run).always (·.giveUp connection)

/-! ## Closing -/

/-- Gives up the connection that is kept, if there is one: `pinned` is `none` then. -/
def unpin (run : Run α) : Run α :=
  match run.state.pinned with
  | none => run
  | some connection =>
    (run.modify fun state => { state with pinned := none }).giveUp connection

/-- The work of closing: it gives up the kept connection, kills the server's cursor, whether or not
that succeeds, lets go of the source and forgets the batch that was not handed out. It is marked as
`finished` first. -/
def finish (setup : Setup α) (run : Run α) : Run α :=
  let run := unpin (run.modify fun state => { state with finished := true })
  let run := (killOnNew setup run).run.modify fun state => { state with live := none }
  (release run).modify fun state => { state with buffered := [] }

/-- Closes the cursor. Closing it again does nothing, but a cursor that was only marked as `closed`
is finished here. -/
def close (setup : Setup α) (run : Run α) : Run α :=
  let run := run.markClosed
  if run.state.finished then run else finish setup run

/-- Does the work of closing and fails by `.cursorClosed`, if the cursor was closed, from elsewhere
or by `close`. -/
def ensureOpen (setup : Setup α) (run : Run α) : Outcome α Unit :=
  if run.state.closed then .fail .cursorClosed (close setup run) else .pure () run

/-! ## Fetching -/

/-- Sends what asks for the next batch of the server's cursor, and reads the reply. A failure of the
command is named with the cursor; a failure of the message is not. -/
def fetch (setup : Setup α) (connection : Connection) (cursor : ServerCursor) (run : Run α) :
    Outcome α (Reply Document) :=
  let requested := numberToReturn setup.limit run.state.batchSize run.state.count
  if connection.capability.supportsCommands then
    let command : GetMoreCommand :=
      ⟨cursor.id, setup.ns.collection, requested, setup.maxTimeMs⟩
    let address := (run.state.source.map (·.address)).getD setup.address
    let outcome :=
      (sendCommand setup connection command.document setup.exhaust Batch.reply
        (Run.takeFetch setup.ns) run).andThen fun reply run => .ofExcept (checked reply) run
    (Outcome.ofExcept (outcome.result.mapError (.naming cursor setup.address)) outcome.run).andThen
      fun reply run =>
        .ofExcept ((Reply.ofCommandReply nextBatchField address reply).mapError .protocol) run
  else
    let request := .getMore setup.ns cursor.id requested
    let (response, run) := (run.emit (.send connection.number request)).takeFetch setup.ns
    .ofExcept (response.toGetMore setup.ns setup.address) run

/-- Decodes every document of a reply. The first document that cannot be decoded fails all of
them. -/
def decodeReply (setup : Setup α) (reply : Reply Document) : Except CursorError (Reply α) :=
  reply.mapM fun document => (setup.decode document).mapError fun error => .decode error.message

/-- Fetches the next batch on the given connection. A batch that reaches the limit is kept even when
the server's cursor cannot be killed then: `absorb` comes first. -/
def getMoreOn (setup : Setup α) (connection : Connection) (run : Run α) : Outcome α Unit :=
  match run.state.live with
  | none => .pure () run
  | some cursor =>
    (fetch setup connection cursor run).andThen fun reply run =>
      (Outcome.ofExcept (decodeReply setup reply) run).andThen fun reply run =>
        let run := absorb reply run
        let killed :=
          if limitReached setup run.state then killOn setup connection run else .pure () run
        killed.andThen fun _ run => .pure () (releaseIfExhausted run)

/-- The connection to fetch on: the one that is kept, else a new one by `Run.acquire`. -/
def connect (run : Run α) : Outcome α Connection :=
  match run.state.pinned with
  | some connection =>
    .pure connection (run.modify fun state => { state with pinned := none })
  | none => run.acquire

/-- Keeps a connection after a fetch, as long as the server holds a cursor and if that is asked for
(`exhaust`) and supported; otherwise gives it up. This is done after a failure, too. -/
def settle (setup : Setup α) (connection : Connection) (run : Run α) : Run α :=
  if setup.exhaust && connection.capability.supportsExhaust && run.state.live.isSome then
    run.modify fun state => { state with pinned := some connection }
  else run.giveUp connection

/-- Fetches the next batch: a round trip, which is `connect`, `getMoreOn` and `settle`. It does not
look at `closed`. -/
def getMore (setup : Setup α) (run : Run α) : Outcome α Unit :=
  (connect run).andThen fun connection run =>
    (getMoreOn setup connection run).always (settle setup connection)

/-! ## Calls -/

/-- Fetches batches until one is not empty, and says whether there was one. A round trip uses up a
turn of the script, and after the last turn the server holds no cursor, so that `fuel` beyond the
turns that are left is never used up. -/
def fetchUntilBatch (setup : Setup α) : Nat → Run α → Outcome α Bool
  | 0, run => .pure false run
  | fuel + 1, run =>
    if run.state.live.isNone then .pure false run
    else
      (getMore setup run).andThen fun _ run =>
        (ensureOpen setup run).andThen fun _ run =>
          if run.state.buffered.isEmpty then fetchUntilBatch setup fuel run else .pure true run

/-- Whether there is another batch; fetches until that is known. A batch that waits to be handed out
is one, also when the limit is reached. -/
def hasNext (setup : Setup α) (run : Run α) : Outcome α Bool :=
  (ensureOpen setup run).andThen fun _ run =>
    if !run.state.buffered.isEmpty then .pure true run
    else if limitReached setup run.state then .pure false run
    else fetchUntilBatch setup (run.script.fetches.length + 2) run

/-- Hands out the batch that was not handed out yet, which may be empty. -/
def takeBuffered (run : Run α) : Outcome α (List α) :=
  .pure run.state.buffered (run.modify fun state => { state with buffered := [] })

/-- The next batch; it is the error `.noSuchElement` if there is none. -/
def nextBatch (setup : Setup α) (run : Run α) : Outcome α (List α) :=
  (hasNext setup run).andThen fun more run =>
    if more then takeBuffered run else .fail .noSuchElement run

/-- The next batch, if at most one round trip brings it. Whether the cursor was closed in that round
trip is not looked at. -/
def tryNext (setup : Setup α) (run : Run α) : Outcome α (Option (List α)) :=
  let take := fun (run : Run α) =>
    (takeBuffered run).andThen fun batch run =>
      .pure (if batch.isEmpty then none else some batch) run
  (ensureOpen setup run).andThen fun _ run =>
    if run.state.buffered.isEmpty && !limitReached setup run.state && run.state.live.isSome then
      (getMore setup run).andThen fun _ run => take run
    else take run

/-- The next batch, or none at the end: `hasNext`, and then `nextBatch`, which asks again. -/
def next (setup : Setup α) (run : Run α) : Outcome α (Option (List α)) :=
  (hasNext setup run).andThen fun more run =>
    if more then (nextBatch setup run).andThen fun batch run => .pure (some batch) run
    else .pure none run

/-- The server's cursor, if there is one; it is an error to ask a closed cursor, `.cursorClosed`. -/
def serverCursor (run : Run α) : Except CursorError (Option ServerCursor) :=
  if run.state.closed then .error .cursorClosed else .ok run.state.live

/-- The server's address; it is an error to ask a closed cursor, `.cursorClosed`. The address is
that of the first reply. -/
def serverAddress (setup : Setup α) (run : Run α) : Except CursorError Address :=
  if run.state.closed then .error .cursorClosed else .ok setup.address

/-! ## Construction -/

/-- The setup of a cursor over the reply to a query: its namespace and its address are those of the
reply. -/
def Setup.of {β : Type} (first : Reply β) (options : Options)
    (decode : Document → Except DecodeError α) : Setup α :=
  ⟨first.ns, first.address, options.limit, options.maxTimeMs, options.exhaust, decode⟩

/-- Kills the server's cursor when the first batch reaches the limit already, on the connection that
brought that batch if it is given. A failure is of no consequence, and then `live` stays. Nobody can
close a cursor before it is made, so it is open after that. -/
def killIfReached (setup : Setup α) (connection : Option Connection) (run : Run α) : Run α :=
  if limitReached setup run.state then
    let killed := match connection with
      | some connection => killOn setup connection run
      | none => killOnNew setup run
    killed.run.modify fun state => { state with closed := false }
  else run

/-- Makes a cursor from the reply to a query. It is an error to ask for a negative time, and to have
no source while the server holds a cursor; nothing has happened then. -/
def create (setup : Setup α) (batchSize : Int32) (first : Reply α) (source : Option Source)
    (connection : Option Connection) (script : Script) : Outcome α Unit :=
  let empty : Run α := ⟨.initial batchSize none, script, 0, []⟩
  if setup.maxTimeMs < 0 then
    let shown := toString setup.maxTimeMs.toInt
    .fail (.invalidArgument ("maxTimeMS must be >= 0, got " ++ shown)) empty
  else if first.cursor.isSome && source.isNone then .fail .missingConnectionSource empty
  else
    let run := empty.modify fun state => { state with source }
    let run := if source.isSome then run.emit .retain else run
    .pure () (releaseIfExhausted (killIfReached setup connection (absorb first run)))

end DocumentCursor.Cursor
