import DocumentCursor.Cursor.Call
import DocumentCursor.Proofs.FetchAnswers
import DocumentCursor.Proofs.Counting
import DocumentCursor.Proofs.CursorPaths

/-! # Calls follow paths

Every call on a cursor follows a path, and so does every sequence of calls, over the whole life of
the cursor. A call gives its caller exactly what the steps of its path give.

* **`Follows`**: an outcome is reached by a path, and a success says something true of the run.
* **`hasNext_follows`**, **`nextBatch_follows`**, **`tryNext_follows`**, **`next_follows`** and
  **`collect_path`**: the calls that look for data.
* **`performAll_path`**: a sequence of calls follows a path.
* **`begin_made`**: where the path of a cursor starts.
-/

namespace DocumentCursor.Cursor

open Net

variable {α β γ : Type} {setup : Setup α} {run : Run α}

/-! ## Outcomes that are reached by a path -/

/-- **An outcome is reached by a path**, which gives the caller what `handed` says of a success or
the failure, and a success says something true of the run after it: `tells value outcome.run`. -/
structure Follows (setup : Setup α) (run : Run α) (handed : β → List (Output α))
    (tells : β → Run α → Prop) (outcome : Outcome α β) : Prop where
  path : Path setup run (outputs handed outcome.result) outcome.run
  tells : ∀ value, outcome.result = .ok value → tells value outcome.run

/-- What hands out nothing, so that only failures are given to the caller: the `handed` of a call
that is part of another. -/
def nothing : β → List (Output α) := fun _ => []

namespace Follows

variable {handed : γ → List (Output α)} {tells : β → Run α → Prop} {ends : γ → Run α → Prop}

/-- A call that only answers follows a path to where it answers: `.pure value after` gives the
caller `handed value`. -/
theorem pure {after : Run α} {value : γ} (path : Path setup run (handed value) after)
    (h : ends value after) : Follows setup run handed ends (.pure value after) := by
  refine ⟨path, ?_⟩
  rintro other ⟨⟩
  exact h

/-- A call that only fails follows a path to where it fails, which gives the caller
`[.error error]`. -/
theorem fail {after : Run α} {error : CursorError} (path : Path setup run [.error error] after) :
    Follows setup run handed ends (.fail error after) :=
  ⟨path, fun _ h => nomatch h⟩

/-- What goes on after a success goes on along a path. The first call hands out nothing, so the path
of `outcome.andThen next` gives what that of `next` gives. -/
theorem andThen {outcome : Outcome α β} {next : β → Run α → Outcome α γ}
    (h : Follows setup run nothing tells outcome)
    (hnext : ∀ value after, tells value after →
      Follows setup after handed ends (next value after)) :
    Follows setup run handed ends (outcome.andThen next) := by
  obtain ⟨result, after⟩ := outcome
  cases result with
  | error error => exact ⟨h.path, fun _ h => nomatch h⟩
  | ok value =>
    have rest := hnext value after (h.tells value rfl)
    exact ⟨h.path.trans rest.path, rest.tells⟩

/-- What goes on after a success by answering gives the caller what the first call gives, under
whatever name. -/
theorem answer {outcome : Outcome α β} {given : β → List (Output α)} {change : β → γ}
    (h : Follows setup run given tells outcome)
    (hgiven : ∀ value, handed (change value) = given value) :
    Follows setup run handed (fun _ _ => True)
      (outcome.andThen fun value run => .pure (change value) run) := by
  obtain ⟨result, after⟩ := outcome
  cases result with
  | error error => exact ⟨h.path, fun _ _ => trivial⟩
  | ok value =>
    refine ⟨?_, fun _ _ => trivial⟩
    show Path setup run (handed (change value)) after
    rw [hgiven]
    exact h.path

end Follows

/-! ## Closing -/

/-- `close` marks the cursor as closed, and does the work of closing if it was not done. -/
theorem close_path (setup : Setup α) (run : Run α) : Path setup run [] (close setup run) := by
  have marked : Path setup run [] run.markClosed := .single (.shut run)
  show Path setup run []
    (if run.markClosed.state.finished then run.markClosed else finish setup run.markClosed)
  cases hf : run.markClosed.state.finished with
  | true => exact marked
  | false => exact marked.trans (.single (.finish rfl hf))

/-- A cursor that is closed by its owner has done the work of closing, now or before. -/
theorem finished_close (setup : Setup α) (h : Sourced run) :
    (close setup run).state.finished = true := by
  show (if run.markClosed.state.finished then run.markClosed
    else finish setup run.markClosed).state.finished = true
  cases hf : run.markClosed.state.finished with
  | true => exact hf
  | false =>
    have state := finish_state setup (show Sourced run.markClosed from h) rfl
    exact congrArg (·.finished) state

/-- `ensureOpen setup run = .pure () run` where the cursor is open. -/
theorem ensureOpen_open (setup : Setup α) (h : run.state.closed = false) :
    ensureOpen setup run = .pure () run := by
  unfold ensureOpen
  rw [h]
  rfl

/-- **The check that a cursor is open** finishes a closed one, and fails then. If it succeeds, the
run is as it was and is open. -/
theorem ensureOpen_follows (setup : Setup α) (run : Run α) :
    Follows setup run nothing (fun _ after => run = after ∧ run.state.closed = false)
      (ensureOpen setup run) := by
  cases hc : run.state.closed with
  | true =>
    unfold ensureOpen
    rw [hc]
    exact .fail (Path.trans (.single (.deny hc)) (close_path setup run))
  | false =>
    rw [ensureOpen_open setup hc]
    exact .pure (.nil run) ⟨rfl, rfl⟩

/-! ## Fetching -/

/-- A round trip that leaves no batch counted nothing, so that it cannot have reached the limit. -/
theorem Trip.count_of_empty {source : Source} {cursor : ServerCursor} {outcome : Outcome α Unit}
    (trip : Trip setup source cursor run outcome) (empty : outcome.run.state.buffered = []) :
    outcome.run.state.count = run.state.count := by
  cases trip with
  | refused result listed state | failed pinned result received state => rw [state]
  | @brought connection reply pinned live closed received state =>
    rw [state] at empty ⊢
    have none : reply.documents = [] := empty
    simp only [none, List.length_nil, add_clamp_zero]

/-- **A round trip that succeeds** uses up an answer. Nothing was counted if there is no batch, and
the server holds no cursor if there was no answer left, as the one that comes then has the cursor id
`0`. -/
theorem Trip.of_ok {source : Source} {cursor : ServerCursor} {outcome : Outcome α Unit}
    (trip : Trip setup source cursor run outcome) (ok : outcome.result = .ok ()) :
    outcome.run.script.fetches = run.script.fetches.tail ∧
      (outcome.run.state.buffered = [] → outcome.run.state.count = run.state.count) ∧
      (run.script.fetches = [] → outcome.run.state.live = none) := by
  have counted := trip.count_of_empty
  cases trip with
  | refused result => simp [result] at ok
  | failed pinned result => simp [result] at ok
  | @brought connection reply pinned live closed received state exchanged goes =>
    refine ⟨exchanged.fetches, counted, fun last => ?_⟩
    rw [Run.fetchTurn, last] at received
    obtain ⟨ns, names⟩ := cursor_of_receive_success _ _ _ _ received
    have bare : reply.cursor = none := by rw [names, ServerCursor.of?_zero]
    rw [state]
    exact goes.elim (fun h => h.trans bare) fun h => h.1

/-- Whether a round trip would be made by a call that looks for data, if the server holds a
cursor. -/
structure Asks (setup : Setup α) (run : Run α) : Prop where
  sourced : Sourced run
  isOpen : run.state.closed = false
  empty : run.state.buffered = []
  unreached : limitReached setup run.state = false

/-- **A round trip is a step**, and one that succeeds leaves the source held as it must be, uses up
an answer, and reaches no limit without a batch. -/
theorem getMore_follows (h : Asks setup run) (live : run.state.live.isSome) :
    Follows setup run nothing
      (fun _ after => Sourced after ∧ after.script.fetches = run.script.fetches.tail ∧
        (after.state.buffered = [] → limitReached setup after.state = false) ∧
        (run.script.fetches = [] → after.state.live = none))
      (getMore setup run) := by
  have path : Path setup run (outputs nothing (getMore setup run).result) (getMore setup run).run :=
    .single (.fetch h.isOpen h.empty h.unreached live)
  obtain ⟨source, cursor, -, trip⟩ := getMore_trip setup h.sourced live
  refine ⟨path, fun value ok => ?_⟩
  obtain ⟨fetches, counted, last⟩ := trip.of_ok ok
  exact ⟨path.sourced h.sourced, fetches,
    fun empty => (limitReached_congr (counted empty)).trans h.unreached, last⟩

/-- **What the answer to whether there is another batch says of the run**: with `true` there is one
to hand out, and with `false` there is none and the limit is reached or the server holds no
cursor. -/
structure Knows (setup : Setup α) (more : Bool) (run : Run α) : Prop where
  sourced : Sourced run
  isOpen : run.state.closed = false
  ready : more = true → run.state.buffered ≠ []
  empty : more = false → run.state.buffered = []
  ended : more = false → limitReached setup run.state = true ∨ run.state.live = none

/-- **Fetching until there is a batch** finds out whether there is one, if the fuel is beyond the
answers that are left. Each round trip of the loop uses up one of them, and after the last one the
server holds no cursor. -/
theorem fetchUntilBatch_follows {fuel : Nat} (h : Asks setup run)
    (enough : run.state.live.isSome → run.script.fetches.length < fuel) :
    Follows setup run nothing (Knows setup) (fetchUntilBatch setup fuel run) := by
  -- Each round trip takes one answer and one unit of fuel. After the last answer the server holds
  -- no cursor, so the fuel is never what ends the loop.
  induction fuel generalizing run with
  | zero =>
    have none : run.state.live = none := by
      cases hl : run.state.live with
      | none => rfl
      | some cursor => exact absurd (enough (by rw [hl]; rfl)) (Nat.not_lt_zero _)
    exact .pure (.nil run) ⟨h.sourced, h.isOpen, nofun, fun _ => h.empty, fun _ => Or.inr none⟩
  | succ fuel ih =>
    rw [fetchUntilBatch]
    by_cases hl : run.state.live.isNone = true
    · rw [if_pos hl]
      exact .pure (.nil run) ⟨h.sourced, h.isOpen, nofun, fun _ => h.empty,
        fun _ => Or.inr (Option.isNone_iff_eq_none.mp hl)⟩
    rw [if_neg hl]
    have live : run.state.live.isSome := by simpa [Option.isSome_iff_ne_none] using hl
    refine (getMore_follows h live).andThen ?_
    rintro - after ⟨sourced, fetches, unreached, last⟩
    refine (ensureOpen_follows setup after).andThen ?_
    rintro - _ ⟨rfl, isOpen⟩
    by_cases hb : after.state.buffered.isEmpty = true
    · have empty : after.state.buffered = [] := List.isEmpty_iff.mp hb
      rw [if_pos hb]
      refine ih ⟨sourced, isOpen, empty, unreached empty⟩ fun some => ?_
      -- An answer was left, or the server would hold no cursor now.
      have turns : run.script.fetches ≠ [] := by
        intro ended
        rw [last ended] at some
        exact absurd some (by simp)
      have length := List.length_pos_iff.mpr turns
      have fuel := enough live
      rw [fetches, List.length_tail]
      omega
    · rw [if_neg hb]
      exact .pure (.nil after)
        ⟨sourced, isOpen, fun _ empty => hb (List.isEmpty_iff.mpr empty), nofun, nofun⟩

/-! ## Calls that look for data -/

/-- **Whether there is another batch** is found out along a path, which hands out nothing. -/
theorem hasNext_follows (setup : Setup α) (h : Sourced run) :
    Follows setup run nothing (Knows setup) (hasNext setup run) := by
  unfold hasNext
  refine (ensureOpen_follows setup run).andThen ?_
  rintro - _ ⟨rfl, isOpen⟩
  by_cases hb : run.state.buffered = []
  · rw [if_neg (by simp [hb])]
    cases hr : limitReached setup run.state with
    | true => exact .pure (.nil run) ⟨h, isOpen, nofun, fun _ => hb, fun _ => Or.inl hr⟩
    | false => exact fetchUntilBatch_follows ⟨h, isOpen, hb, hr⟩ fun _ => by omega
  · rw [if_pos (by simpa using hb)]
    exact .pure (.nil run) ⟨h, isOpen, fun _ => hb, nofun, nofun⟩

/-- `hasNext setup run = .pure true run` if a batch is there already. -/
theorem hasNext_ready (setup : Setup α) (isOpen : run.state.closed = false)
    (ready : run.state.buffered ≠ []) : hasNext setup run = .pure true run := by
  unfold hasNext
  rw [ensureOpen_open setup isOpen, Outcome.andThen_pure, if_pos (by simpa using ready)]

/-- **The next batch** is handed out along a path, which gives the caller `[.ok batch]`. -/
theorem nextBatch_follows (setup : Setup α) (h : Sourced run) :
    Follows setup run (fun batch => [.ok batch]) (fun _ _ => True) (nextBatch setup run) := by
  unfold nextBatch
  refine (hasNext_follows setup h).andThen fun more after knows => ?_
  cases more with
  | true => exact .pure (.single (.hand (knows.ready rfl))) trivial
  | false => exact .fail (.single (.lack knows.isOpen (knows.empty rfl) (knows.ended rfl)))

/-- `takeBuffered run = .pure [] run` if no batch is there: handing out nothing changes nothing. -/
theorem takeBuffered_empty (empty : run.state.buffered = []) :
    takeBuffered run = .pure [] run := by
  obtain ⟨state, script, issued, events⟩ := run
  obtain ⟨batchSize, source, live, buffered, count, closed, finished, pinned⟩ := state
  obtain rfl : buffered = [] := empty
  rfl

/-- **The next batch, if one round trip brings it**, is handed out along a path. -/
theorem tryNext_follows (setup : Setup α) (h : Sourced run) :
    Follows setup run (fun batch => batch.toList.map .ok) (fun _ _ => True)
      (tryNext setup run) := by
  have take (run : Run α) :
      Follows setup run (fun batch : Option (List α) => batch.toList.map .ok) (fun _ _ => True)
        ((takeBuffered run).andThen fun batch run =>
          .pure (if batch.isEmpty then none else some batch) run) := by
    by_cases hb : run.state.buffered = []
    · rw [takeBuffered_empty hb]
      exact .pure (.nil run) trivial
    · refine .pure ?_ trivial
      rw [if_neg (by simpa using hb)]
      exact .single (.hand hb)
  unfold tryNext
  refine (ensureOpen_follows setup run).andThen ?_
  rintro - _ ⟨rfl, isOpen⟩
  split
  · rename_i asks
    simp only [Bool.and_eq_true, List.isEmpty_iff, Bool.not_eq_true'] at asks
    obtain ⟨⟨empty, unreached⟩, live⟩ := asks
    exact (getMore_follows ⟨h, isOpen, empty, unreached⟩ live).andThen fun _ after _ => take after
  · exact take run

/-- **The next item of the iteration** is handed out along a path. -/
theorem next_follows (setup : Setup α) (h : Sourced run) :
    Follows setup run (fun batch => batch.toList.map .ok) (fun _ _ => True) (next setup run) := by
  unfold next
  refine (hasNext_follows setup h).andThen fun more after knows => ?_
  cases more with
  | true => exact (nextBatch_follows setup knows.sourced).answer fun batch => rfl
  | false => exact .pure (.nil after) trivial

/-- **Items of the iteration one after the other** are handed out along a path, by induction on how
many there are at most. -/
theorem collect_path (h : Sourced run) (most : Nat) :
    Path setup run (collect setup most run).1 (collect setup most run).2 := by
  induction most generalizing run with
  | zero => exact .nil run
  | succ most ih =>
    have path := (next_follows setup h).path
    have rest := ih (path.sourced h)
    rw [collect]
    cases hr : (next setup run).result with
    | error error =>
      rw [hr] at path
      exact path.trans rest
    | ok item =>
      rw [hr] at path
      cases item with
      | none => exact path
      | some batch => exact path.trans rest

/-! ## The life of a cursor -/

/-- What an answer hands out, with the failures in between. -/
def Answer.handed : Answer α → List (Output α)
  | .batch documents => documents.toList.map .ok
  | .batches results => results
  | _ => []

/-- What the result of a call gives to its caller: what its answer hands out, or the failure. -/
def given (result : Except CursorError (Answer α)) : List (Output α) :=
  outputs Answer.handed result

/-- Giving a connection up changes nothing about a cursor that was just made, since that is a quiet
event. -/
theorem Made.giveUp {batchSize : Int32} {first : Reply α}
    {source : Option Source} {script : Script} (h : Made setup batchSize first source script run)
    (connection : Connection) :
    Made setup batchSize first source script (run.giveUp connection) :=
  ⟨h.sourced, h.state, h.quietly.trans_zero (.giveUp connection run)⟩

namespace Life

/-- The outcome of a call is what its caller gets, under the name that `answer` gives it. -/
theorem after_path {handed : β → List (Output α)} {tells : β → Run α → Prop} {life : Life α}
    {answer : β → Answer α} {outcome : Outcome α β}
    (h : Follows life.setup life.run handed tells outcome)
    (hgiven : ∀ value, (answer value).handed = handed value) :
    Path life.setup life.run (given (life.after answer outcome).1)
      (life.after answer outcome).2.run := by
  have path := h.path
  obtain ⟨result, after⟩ := outcome
  cases result with
  | error error => exact path
  | ok value =>
    show Path life.setup life.run (answer value).handed after
    rw [hgiven]
    exact path

/-- A question that a closed cursor does not answer changes nothing, and gives the caller at most
the refusal. -/
theorem asked_path {life : Life α} (answer : β → Answer α) {value : β}
    (hgiven : (answer value).handed = []) :
    Path life.setup life.run
      (given (Except.map answer
        (if life.run.state.closed then .error .cursorClosed else .ok value))) life.run := by
  cases hc : life.run.state.closed with
  | true => exact .single (.deny hc)
  | false =>
    show Path life.setup life.run (answer value).handed life.run
    rw [hgiven]
    exact .nil life.run

/-- **A call on a cursor follows a path**, with one case for each constructor of `Call`. -/
theorem performAlive_path (call : Call) {life : Life α} (h : Sourced life.run) :
    Path life.setup life.run (given (life.performAlive call).1) (life.performAlive call).2.run := by
  cases call with
  | hasNext => exact after_path (hasNext_follows life.setup h) fun value => rfl
  | nextBatch => exact after_path (nextBatch_follows life.setup h) fun value => rfl
  | tryNext => exact after_path (tryNext_follows life.setup h) fun value => rfl
  | next => exact after_path (next_follows life.setup h) fun value => rfl
  | collect most => exact collect_path h most
  | setBatchSize size => exact .single (.resize life.run size)
  | serverCursor => exact asked_path .cursor rfl
  | serverAddress => exact asked_path .address rfl
  | close | drop => exact close_path life.setup life.run
  | handleClose => exact .single (.shut life.run)
  | batchSize | limit | count | ns | isClosed | handleIsClosed => exact .nil life.run

/-- What a call changes is its run, and whether the cursor was dropped; `setup` stays. -/
theorem setup_perform (call : Call) (life : Life α) : (life.perform call).2.setup = life.setup := by
  unfold perform
  split
  · rfl
  · cases call <;> rfl

/-- **A call follows a path**, also after the cursor was dropped, when only the calls on its handle
are still answered. -/
theorem perform_path (call : Call) {life : Life α} (h : Sourced life.run) :
    Path life.setup life.run (given (life.perform call).1) (life.perform call).2.run := by
  unfold perform
  split
  · exact .nil life.run
  · exact performAlive_path call h

/-- What a sequence of calls gives to the caller, call by call. -/
def allGiven (results : List (Except CursorError (Answer α))) : List (Output α) :=
  results.flatMap given

/-- `setup` stays over a sequence of calls as it does over each of them. -/
theorem setup_performAll (calls : List Call) (life : Life α) :
    (performAll calls life).2.setup = life.setup := by
  induction calls generalizing life with
  | nil => rfl
  | cons call calls ih => exact (ih _).trans (setup_perform call life)

/-- **A sequence of calls follows a path**, which gives the caller `allGiven` of the results. -/
theorem performAll_path (calls : List Call) {life : Life α} (h : Sourced life.run) :
    Path life.setup life.run (allGiven (performAll calls life).1)
      (performAll calls life).2.run := by
  induction calls generalizing life with
  | nil => exact .nil life.run
  | cons call calls ih =>
    have path := perform_path call h
    have rest := ih (path.sourced h)
    rw [setup_perform] at rest
    exact path.trans rest

/-- A call that drops the cursor does the work of closing, or it was done. So nothing of a dropped
cursor is left on the server for want of trying. -/
theorem finished_perform_drop {life : Life α} (h : Sourced life.run)
    (dropped : life.dropped = true → life.run.state.finished = true) :
    (life.perform .drop).2.run.state.finished = true := by
  unfold perform
  cases hd : life.dropped with
  | true => exact dropped hd
  | false => exact finished_close life.setup h

/-- A call changes whether the cursor was dropped only by being `.drop`. -/
theorem dropped_perform {call : Call} (hcall : call ≠ .drop) (life : Life α) :
    (life.perform call).2.dropped = life.dropped := by
  unfold perform
  split
  · rfl
  · cases call <;> first | rfl | exact absurd rfl hcall

/-- **A cursor that was dropped has done the work of closing**, whatever is asked of it then, and
wherever `.drop` stands among the calls. -/
theorem finished_of_dropped (calls : List Call) {life : Life α} (h : Sourced life.run)
    (dropped : life.dropped = true → life.run.state.finished = true) (hdrop : .drop ∈ calls) :
    (performAll calls life).2.run.state.finished = true := by
  induction calls generalizing life with
  | nil => exact absurd hdrop List.not_mem_nil
  | cons call calls ih =>
    have path := perform_path call h
    by_cases hcall : call = .drop
    · -- The work of closing is done by this call, and stays done.
      subst hcall
      exact (performAll_path calls (path.sourced h)).finished (path.sourced h)
        (finished_perform_drop h dropped)
    · refine ih (path.sourced h) (fun drops => path.finished h (dropped ?_)) ?_
      · exact (dropped_perform hcall life).symm.trans drops
      · exact (List.mem_cons.mp hdrop).resolve_left (Ne.symm hcall)

/-- **A cursor is made, or nothing has happened** but that its owner gave a connection up, which is
a quiet event. -/
theorem begin_made (first : Reply α) (options : Options)
    (decode : Document → Except DecodeError α) (source : Option Source)
    (connection : Option Connection) (script : Script) :
    let made := begin first options decode source connection script
    (∃ error, made.1 = .error error) ∧ Quiet 0 made.2.run.events ∨
      made.1 = .ok () ∧
        Made made.2.setup options.batchSize first source script made.2.run := by
  obtain ⟨failed, events⟩ | ⟨ok, made⟩ := create_made (Setup.of first options decode)
    options.batchSize first source connection script
  · refine Or.inl ⟨failed, ?_⟩
    cases connection with
    | none => exact ⟨by simp [begin, events], by simp [begin, events]⟩
    | some connection =>
      have given : (begin first options decode source (some connection) script).2.run.events =
          [.giveUp connection.number] := by simp [begin, events]
      rw [given]
      exact .giveUp connection.number
  · refine Or.inr ⟨ok, ?_⟩
    cases connection with
    | none => exact made
    | some connection => exact made.giveUp connection

end Life

/-- **A cursor that could be made** was just made: `begin` that succeeds leaves a run that is
`Made`. -/
theorem Life.made_of_ok {first : Reply α} {options : Options}
    {decode : Document → Except DecodeError α} {source : Option Source}
    {connection : Option Connection} {script : Script}
    (h : (begin first options decode source connection script).1 = .ok ()) :
    Made (Setup.of first options decode) options.batchSize first source script
      (begin first options decode source connection script).2.run := by
  obtain ⟨⟨error, failed⟩, -⟩ | ⟨-, made⟩ :=
    begin_made first options decode source connection script
  · rw [failed] at h
    exact absurd h (by simp)
  · exact made

/-! ## A small cursor

Where a cursor has to be looked at, its documents are numbers: a document is read as the number of
its fields, and one without fields is refused. -/

namespace Small

/-- The collection of a small cursor. -/
def ns : Namespace := ⟨"db", "log", by decide, by decide, by decide⟩

/-- The address of its server. -/
def address : Address := ⟨"server", 27017, none⟩

/-- A server with the given protocol version, on which it depends whether there are commands. -/
def source (wireVersion : Int32) : Source := ⟨address, wireVersion, {}⟩

/-- Reads a document as the number of its fields; one without fields is refused. -/
def decode (document : Document) : Except DecodeError Nat :=
  if document.isEmpty then .error (.missingField "x") else .ok document.length

/-- The first batch, and the number of the cursor to ask for more. -/
def first (documents : List Nat) (id : Int64) : Reply Nat := .of ns documents id address

/-- A further batch, and the number of the cursor to ask for more: of each number a document is made
that `decode` reads as this number. -/
def turn (documents : List Nat) (id : Int64) : Turn Batch :=
  ⟨.success ⟨documents.map fun n => List.replicate n ("x", .null), id, "db.log"⟩, false⟩

end Small

end DocumentCursor.Cursor
