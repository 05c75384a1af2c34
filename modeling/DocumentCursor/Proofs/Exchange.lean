import DocumentCursor.Cursor.Basic

/-! # One exchange with the outside

A cursor reaches the outside in three ways: it asks its source for a connection, it asks a server
for the next batch, and it asks a server to forget a cursor. While the source is held each of them
has one shape: something is sent, the next answer of the script is taken, and a result is read in
the answer. This file states each of them as one equation, so that nothing later opens them.

* **`fetch_eq`**: a fetch sends `fetchRequest` and reads the answer by `readFetch`.
* **`sendKill_eq`** and **`killOn_eq`**: a kill sends `killRequest` and reads the answer by
  `readKill`.
* **`acquire_eq`**: a source grants a connection with the next number, or refuses, as the next
  grant of the script says.
* **`readFetch_ne_missing`** and **`readKill_ne_missing`**: no answer is read as a missing source.
-/

namespace DocumentCursor.Cursor

variable {α : Type}

/-! ## The answers that come next -/

namespace Run

/-- The answer to the next fetch: the head of `run.script.fetches`, and after its end an empty last
batch, with the cursor id `0`. -/
def fetchTurn (ns : Namespace) (run : Run α) : Turn Batch :=
  run.script.fetches.headD ⟨.success ⟨[], 0, ns.fullName⟩, false⟩

/-- The answer to the next kill: the head of `run.script.kills`, and after its end a success. -/
def killTurn (run : Run α) : Turn Unit := run.script.kills.headD ⟨.success (), false⟩

/-- The run once the answer to a fetch has arrived: the cursor is closed if `run.fetchTurn` closes
it, and the answer is used up. -/
def afterFetch (ns : Namespace) (run : Run α) : Run α :=
  { run with
    state := { run.state with closed := run.state.closed || (run.fetchTurn ns).closes }
    script := { run.script with fetches := run.script.fetches.tail } }

/-- The run once the answer to a kill has arrived: the cursor is closed if `run.killTurn` closes it,
and the answer is used up. -/
def afterKill (run : Run α) : Run α :=
  { run with
    state := { run.state with closed := run.state.closed || run.killTurn.closes }
    script := { run.script with kills := run.script.kills.tail } }

/-- **Taking the next answer to a fetch** is `((run.fetchTurn ns).response, run.afterFetch ns)`: it
reads the head of the script and drops it. -/
theorem takeFetch_eq (ns : Namespace) (run : Run α) :
    run.takeFetch ns = ((run.fetchTurn ns).response, run.afterFetch ns) := by
  obtain ⟨state, script, issued, events⟩ := run
  obtain ⟨grants, fetches, kills⟩ := script
  cases fetches with
  | nil => simp [takeFetch, fetchTurn, afterFetch]
  | cons turn fetches =>
    cases h : turn.closes <;>
      simp [takeFetch, takeTurn, fetchTurn, afterFetch, markClosedIf, markClosed, modify, h]

/-- **Taking the next answer to a kill** is `(run.killTurn.response, run.afterKill)`: it reads the
head of the script and drops it. -/
theorem takeKill_eq (run : Run α) : run.takeKill = (run.killTurn.response, run.afterKill) := by
  obtain ⟨state, script, issued, events⟩ := run
  obtain ⟨grants, fetches, kills⟩ := script
  cases kills with
  | nil => simp [takeKill, killTurn, afterKill]
  | cons turn kills =>
    cases h : turn.closes <;>
      simp [takeKill, takeTurn, killTurn, afterKill, markClosedIf, markClosed, modify, h]

/-- The answer to the next request for a connection: the head of `run.script.grants`, and after its
end a connection of the source's version, which closes nothing. -/
def nextGrant (run : Run α) : Grant := run.script.grants.headD (.granted none)

/-- `run.nextGrant` is one of the grants of the script, or `.granted none` after its end. -/
theorem nextGrant_cases (run : Run α) :
    run.nextGrant = .granted none ∨ run.nextGrant ∈ run.script.grants := by
  unfold nextGrant
  cases run.script.grants with
  | nil => exact Or.inl rfl
  | cons grant grants => exact Or.inr List.mem_cons_self

/-- The run once the source has answered, before that is noted: the cursor is closed if
`run.nextGrant` closes it, and the answer is used up. -/
def afterGrant (run : Run α) : Run α :=
  { run with
    state := { run.state with closed := run.state.closed || run.nextGrant.closes }
    script := { run.script with grants := run.script.grants.tail } }

/-- The run once the source has granted a connection: `.acquire` is noted with the next number. -/
def granted (run : Run α) : Run α :=
  emit (.acquire (run.issued + 1)) { run.afterGrant with issued := run.issued + 1 }

/-- The run once the source has refused a connection: `.acquireFailed` is noted, and no number is
used. -/
def refused (run : Run α) : Run α := emit .acquireFailed run.afterGrant

/-- **Asking a source that is held takes the next grant.** A granted connection has the number
`run.issued + 1`, and its own version or else that of the source. Either way the cursor may have
been closed by the time of the answer, and nothing of what follows looks at that. -/
theorem acquire_eq {run : Run α} {source : Source} (h : run.state.source = some source) :
    run.acquire = match run.nextGrant with
      | .granted version _ => ⟨.ok ⟨run.issued + 1, version.getD source.wireVersion⟩, run.granted⟩
      | .refused error _ => ⟨.error (.transport error), run.refused⟩ := by
  obtain ⟨⟨size, held, live, buffered, count, closed, finished, pinned⟩,
    ⟨grants, fetches, kills⟩, issued, events⟩ := run
  obtain rfl : held = some source := h
  cases grants with
  | nil => simp [acquire, nextGrant, granted, afterGrant, Grant.closes, Outcome.pure]
  | cons grant grants =>
    -- The flag is set whether the source grants or refuses.
    rcases grant with ⟨version, closes⟩ | ⟨error, closes⟩ <;> cases closes <;>
      simp [acquire, nextGrant, granted, refused, afterGrant, Grant.closes, markClosedIf,
        markClosed, modify, Outcome.pure, Outcome.fail]

/-- **A source that is held grants or refuses**: `run.acquire` succeeds with the number
`run.issued + 1` and leaves `run.granted`, or fails by a refusal of the script and leaves
`run.refused`. -/
theorem acquire_cases {run : Run α} {source : Source} (h : run.state.source = some source) :
    (∃ version, run.acquire = ⟨.ok ⟨run.issued + 1, version⟩, run.granted⟩) ∨
      ∃ error closes, .refused error closes ∈ run.script.grants ∧
        run.acquire = ⟨.error (.transport error), run.refused⟩ := by
  rw [acquire_eq h]
  have listed := run.nextGrant_cases
  generalize run.nextGrant = grant at listed
  cases grant with
  | granted version closes => exact Or.inl ⟨_, rfl⟩
  | refused error closes => exact Or.inr ⟨error, closes, listed.resolve_left nofun, rfl⟩

end Run

/-! ## Errors that are changed -/

section Errors

variable {ε δ β : Type} (change : ε → δ)

/-- Renaming errors leaves a success as it is. -/
@[simp] theorem mapError_ok (value : β) :
    (Except.ok value : Except ε β).mapError change = .ok value := rfl

/-- Renaming errors renames the error of a failure. -/
@[simp] theorem mapError_error (error : ε) :
    (Except.error error : Except ε β).mapError change = .error (change error) := rfl

end Errors

/-! ## Asking for the next batch -/

/-- What a fetch sends: a `getMore` command where the connection has commands, and otherwise a
binary message. Both name `cursor.id` and ask for `numberToReturn` documents. -/
def fetchRequest (setup : Setup α) (connection : Connection) (source : Source)
    (cursor : ServerCursor) (state : State α) : Request :=
  let requested := numberToReturn setup.limit state.batchSize state.count
  if connection.capability.supportsCommands then
    .command setup.ns.database
      (GetMoreCommand.document ⟨cursor.id, setup.ns.collection, requested, setup.maxTimeMs⟩)
      .primary source.session setup.exhaust
  else .getMore setup.ns cursor.id requested

/-- What a fetch reads in the answer. A command reply is checked for a failure first, which is named
with the cursor, and parsed then; a binary answer says at once what it brings. -/
def readFetch (setup : Setup α) (connection : Connection) (source : Source)
    (cursor : ServerCursor) (response : Response Batch) : Except CursorError (Reply Document) :=
  if connection.capability.supportsCommands then
    (((response.toCommand Batch.reply).bind checked).mapError (.naming cursor setup.address)).bind
      fun reply => (Reply.ofCommandReply nextBatchField source.address reply).mapError .protocol
  else response.toGetMore setup.ns setup.address

/-- The run once a fetch has been answered: `fetchRequest` was sent on the connection, and the
answer is used up. -/
def askFetch (setup : Setup α) (connection : Connection) (source : Source)
    (cursor : ServerCursor) (run : Run α) : Run α :=
  (run.emit (.send connection.number
    (fetchRequest setup connection source cursor run.state))).afterFetch setup.ns

/-- **A fetch is one exchange**: `fetch` sends `fetchRequest`, leaves `askFetch`, and returns what
`readFetch` reads in `run.fetchTurn`. -/
theorem fetch_eq (setup : Setup α) (connection : Connection) {source : Source}
    (cursor : ServerCursor) {run : Run α} (h : run.state.source = some source) :
    fetch setup connection cursor run =
      ⟨readFetch setup connection source cursor (run.fetchTurn setup.ns).response,
        askFetch setup connection source cursor run⟩ := by
  have turn (event : Event α) : (run.emit event).fetchTurn setup.ns = run.fetchTurn setup.ns := rfl
  -- A command is answered by a document, which is checked and read; a message is read as it is.
  by_cases hc : connection.capability.supportsCommands = true
  · simp only [fetch, sendCommand, fetchRequest, readFetch, askFetch, hc, if_true, h,
      Run.takeFetch_eq, turn, Option.map_some, Option.getD_some]
    generalize (run.fetchTurn setup.ns).response.toCommand Batch.reply = reply
    cases reply with
    | error error => rfl
    | ok reply => cases hr : checked reply <;>
        simp [Outcome.ofExcept, Outcome.andThen, Except.bind, hr]
  · simp only [fetch, fetchRequest, readFetch, askFetch, hc, Run.takeFetch_eq, turn]
    rfl

/-! ## Asking a server to forget a cursor -/

/-- What a kill sends: a `killCursors` command where the connection has commands, and otherwise a
binary message. Both name the one cursor. -/
def killRequest (setup : Setup α) (connection : Connection) (source : Source) (id : Int64) :
    Request :=
  if connection.capability.supportsCommands then
    .command setup.ns.database (KillCursorsCommand.document ⟨setup.ns.collection, [id]⟩) .primary
      source.session false
  else .killCursors setup.ns [id]

/-- What a kill reads in the answer: a command reply is only checked for a failure, whatever else it
says. -/
def readKill (connection : Connection) (response : Response Unit) : Except CursorError Unit :=
  if connection.capability.supportsCommands then
    ((response.toCommand fun _ => killedReply).bind checked).map fun _ => ()
  else response.toKillCursors

/-- The run once a kill has been answered: `killRequest` was sent on the connection, and the answer
is used up. -/
def askKill (setup : Setup α) (connection : Connection) (source : Source) (id : Int64)
    (run : Run α) : Run α :=
  (run.emit (.send connection.number (killRequest setup connection source id))).afterKill

/-- **A kill is one exchange**: `sendKill` sends `killRequest`, leaves `askKill`, and returns what
`readKill` reads in `run.killTurn`. -/
theorem sendKill_eq (setup : Setup α) (connection : Connection) {source : Source} (id : Int64)
    {run : Run α} (h : run.state.source = some source) :
    sendKill setup connection id run =
      ⟨readKill connection run.killTurn.response, askKill setup connection source id run⟩ := by
  have turn (event : Event α) : (run.emit event).killTurn = run.killTurn := rfl
  by_cases hc : connection.capability.supportsCommands = true
  · simp only [sendKill, sendCommand, killRequest, readKill, askKill, hc, if_true, h,
      Run.takeKill_eq, turn]
    generalize run.killTurn.response.toCommand (fun _ => killedReply) = reply
    cases reply with
    | error error => rfl
    | ok reply => cases hr : checked reply <;>
        simp [Outcome.ofExcept, Outcome.andThen, Except.bind, Except.map, hr]
  · simp only [sendKill, killRequest, readKill, askKill, hc, Run.takeKill_eq, turn]
    rfl

/-! ## What an answer cannot say -/

/-- `first.bind next` fails by an error only if one of its two parts does. -/
theorem bind_ne_error {ε β γ : Type} {error : ε} {first : Except ε β} {next : β → Except ε γ}
    (hfirst : first ≠ .error error) (hnext : ∀ value, next value ≠ .error error) :
    first.bind next ≠ .error error := by
  cases first with
  | error other => exact fun h => hfirst (by simpa [Except.bind] using h)
  | ok value => exact hnext value

/-- `checked reply` fails only for the failure that the reply reports, and never by
`.missingConnectionSource`. -/
theorem checked_ne_missing (reply : Document) :
    checked reply ≠ .error .missingConnectionSource := by
  intro h
  cases hf : Failure.check reply <;> simp [checked, hf] at h

/-- No answer to a command says that there is no source: `toCommand` fails only as the connection
does. -/
theorem toCommand_ne_missing {σ : Type} (render : σ → Document) (response : Response σ) :
    response.toCommand render ≠ .error .missingConnectionSource := by
  intro h
  cases response with
  | success value => simp [Response.toCommand] at h
  | reply document => simp [Response.toCommand] at h
  | failure refusal raised => cases raised <;> simp [Response.toCommand] at h
  | broken error => simp [Response.toCommand] at h

/-- An error that was named with a cursor by `CursorError.naming` is not about the source unless it
was before. -/
theorem mapError_naming_ne_missing {β : Type} {result : Except CursorError β}
    (cursor : ServerCursor) (address : Net.Address)
    (h : result ≠ .error .missingConnectionSource) :
    result.mapError (CursorError.naming cursor address) ≠ .error .missingConnectionSource := by
  intro hn
  cases result with
  | ok value => simp at hn
  | error error =>
    cases error with
    | command failure =>
      simp only [mapError_error, CursorError.naming, CursorError.ofFailure] at hn
      split at hn <;> simp at hn
    | missingConnectionSource => exact h rfl
    | _ => simp [CursorError.naming] at hn

/-- **No answer to a fetch is read as a missing source**, in either protocol. So where a fetch fails
by `.missingConnectionSource`, no source was held. -/
theorem readFetch_ne_missing (setup : Setup α) (connection : Connection) (source : Source)
    (cursor : ServerCursor) (response : Response Batch) :
    readFetch setup connection source cursor response ≠ .error .missingConnectionSource := by
  unfold readFetch
  split
  · refine bind_ne_error (mapError_naming_ne_missing _ _ ?_) fun reply h => ?_
    · exact bind_ne_error (toCommand_ne_missing _ _) checked_ne_missing
    · cases hr : Reply.ofCommandReply nextBatchField source.address reply <;>
        simp [hr] at h
  · intro h
    cases response with
    | success batch => simp [Response.toGetMore] at h
    | reply document =>
      cases hr : Reply.ofCommandReply nextBatchField setup.address document <;>
        simp [Response.toGetMore, hr] at h
    | failure refusal raised => simp [Response.toGetMore] at h
    | broken error => simp [Response.toGetMore] at h

/-- **No answer to a kill is read as a missing source**, in either protocol. -/
theorem readKill_ne_missing (connection : Connection) (response : Response Unit) :
    readKill connection response ≠ .error .missingConnectionSource := by
  unfold readKill
  split
  · intro h
    refine bind_ne_error (toCommand_ne_missing (fun _ => killedReply) response)
      checked_ne_missing ?_
    cases hr : (response.toCommand fun _ => killedReply).bind checked with
    | error error => rw [hr] at h; simpa [Except.map] using h
    | ok reply => rw [hr] at h; simp [Except.map] at h
  · intro h
    cases response <;> simp [Response.toKillCursors] at h

/-- `decodeReply` fails only by an error of the decoder, never by `.missingConnectionSource`. -/
theorem decodeReply_ne_missing (setup : Setup α) (reply : Reply Document) :
    decodeReply setup reply ≠ .error .missingConnectionSource := by
  intro h
  -- By induction, since decoding stops at the first document that is refused.
  have items : ∀ documents : List Document,
      (documents.mapM fun document =>
        (setup.decode document).mapError fun error => CursorError.decode error.message) ≠
          .error .missingConnectionSource := by
    intro documents
    induction documents with
    | nil => simp [pure, Except.pure]
    | cons document documents ih =>
      rw [List.mapM_cons]
      refine bind_ne_error ?_ fun item => bind_ne_error ih fun items => ?_
      · cases setup.decode document <;> simp
      · simp [pure, Except.pure]
  refine items reply.documents ?_
  unfold decodeReply Reply.mapM at h
  cases hd : (reply.documents.mapM fun document =>
      (setup.decode document).mapError fun error => CursorError.decode error.message) with
  | error error => rw [hd] at h; simpa [Except.map] using h
  | ok items => rw [hd] at h; simp [Except.map] at h

end DocumentCursor.Cursor
