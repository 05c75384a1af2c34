import DocumentCursor.Proofs.Limit
import DocumentCursor.Proofs.OpenCursors
import DocumentCursor.Proofs.RoundTripStarts

/-! # Closing a cursor

A cursor is closed by its owner, by being dropped, or from elsewhere, and then the work of closing
is done when its owner next looks for data. Whichever it is, the work is done once, and nothing
happens after it.

* **`Closes`**: the work of closing with all its events.
* **`ClosesOnce`**: a path on which the work of closing is done.
* **`Path.closes`**: every path to a finished run is of that kind.
* **`BegunWhileOpen`**: no round trip is begun once the cursor was closed.
* **`OnlyCloses`**: nothing happens to a closed cursor but the work of closing.
* **`closing_complete`**: so it is in every life of a cursor.
-/

namespace DocumentCursor.Cursor

variable {α : Type} {setup : Setup α} {run after : Run α}

/-! ## The work of closing -/

/-- **The work of closing**, from the run before it to the run after it. The connection that was
kept is given up first. Then the server's cursor is killed on a connection of its own, as
`Discarding` says, and the source is let go of whether or not that succeeded. -/
structure Closes (setup : Setup α) (run after : Run α) : Prop where
  closed : run.state.closed = true
  unfinished : run.state.finished = false
  state : after.state =
    ⟨run.state.batchSize, none, none, [], run.state.count, true, true, none⟩
  works : ∃ work, Discarding setup run work ∧ Works run after
    ((run.state.pinned.toList.map fun connection => .giveUp connection.number) ++
      (work ++ if run.state.live.isSome then [.release] else []))

/-- Giving up connections hands out none: `acquired` of such events is empty. -/
theorem acquired_giveUps (connections : List Connection) :
    acquired (connections.map fun connection => (.giveUp connection.number : Event α)) = [] := by
  simp [acquired, Event.acquired?]

/-- What is kept is no matter for how the server's cursor is killed, so the kill of `closing run` is
one of `run`. -/
theorem Discarding.of_closing {work : List (Event α)} (h : Discarding setup (closing run) work) :
    Discarding setup run work := by
  have issued : (closing run).issued = run.issued := by
    have works := Works.unpin (run.modify fun state => { state with finished := true })
    rw [closing, works.issued, acquired_giveUps]
    rfl
  cases h with
  | idle none => exact .idle (by simpa using none)
  | refused names => exact .refused (by simpa using names)
  | made held names number =>
    exact .made (by simpa using held) (by simpa using names) (number.trans (by rw [issued]))

/-- **What is done when a cursor is closed is the work of closing**: `finish` leads from a closed
run that is not finished to one that `Closes` it. -/
theorem finish_closes (setup : Setup α) (h : Sourced run) (closed : run.state.closed = true)
    (unfinished : run.state.finished = false) : Closes setup run (finish setup run) := by
  refine ⟨closed, unfinished, finish_state setup h closed, ?_⟩
  obtain ⟨live, flag, state, -⟩ := (closing_pruned setup h).state
  have there : (closing run).state.live.isSome → (closing run).state.source.isSome := by
    simp only [state_closing]
    exact h.trans
  obtain ⟨work, discarding, works, -⟩ := killOnNew_works setup there
  refine ⟨work, discarding.of_closing, ?_⟩
  have opened : Works run (closing run)
      (run.state.pinned.toList.map fun connection => .giveUp connection.number) :=
    (Works.modify _ run).trans (.unpin _)
  have released := Works.release
    ((killOnNew setup (closing run)).run.modify fun state => { state with live := none })
  simp only [Run.state_modify, state, state_closing, show _ = _ from h] at released
  have killed := (works.trans (.modify (fun state => { state with live := none }) _)).trans released
  rw [List.append_nil] at killed
  have forgotten := (opened.trans killed).trans
    (.modify (fun state => { state with buffered := [] }) _)
  rw [List.append_nil] at forgotten
  exact forgotten

/-! ## After the work of closing -/

/-- **Nothing has changed** but perhaps the batch size: no event, no answer used up, and no other
part of the state. -/
def Resized (run after : Run α) : Prop :=
  ∃ size, after = run.modify fun state => { state with batchSize := size }

theorem Resized.refl (run : Run α) : Resized run run := ⟨run.state.batchSize, rfl⟩

theorem Resized.trans {first second third : Run α} (h : Resized first second)
    (h' : Resized second third) : Resized first third := by
  obtain ⟨size, rfl⟩ := h
  obtain ⟨size', rfl⟩ := h'
  exact ⟨size', rfl⟩

/-- **A run after the work of closing**: both flags are set, the server holds no cursor, and no
batch is there. -/
structure Over (run : Run α) : Prop where
  closed : run.state.closed = true
  finished : run.state.finished = true
  live : run.state.live = none
  buffered : run.state.buffered = []

/-- After the work of closing it is over, whatever the kill in it came to. -/
theorem Closes.over (h : Closes setup run after) : Over after := by
  constructor <;> rw [h.state]

/-- The batch size says nothing about whether it is over. -/
theorem Over.resized (h : Over run) (resized : Resized run after) : Over after := by
  obtain ⟨size, rfl⟩ := resized
  exact ⟨h.closed, h.finished, h.live, h.buffered⟩

/-- `run.markClosed = run`: to close a closed cursor changes nothing. -/
theorem markClosed_of_closed (closed : run.state.closed = true) : run.markClosed = run := by
  obtain ⟨⟨size, source, live, buffered, count, flag, finished, pinned⟩, script, issued,
    events⟩ := run
  obtain rfl : flag = true := closed
  rfl

/-- **No step does anything after the work of closing**: the batch size may be set, and every call
is refused with `.cursorClosed`. -/
theorem Step.over {given : List (Output α)} (h : Over run) (step : Step setup run given after) :
    Resized run after ∧ ∀ output ∈ given, output = .error .cursorClosed := by
  cases step with
  | shut =>
    rw [markClosed_of_closed h.closed]
    exact ⟨.refl run, by simp⟩
  | resize size => exact ⟨⟨_, rfl⟩, by simp⟩
  | deny closed => exact ⟨.refl run, by simp⟩
  | lack isOpen => exact absurd h.closed (by simp [isOpen])
  | hand ready => exact absurd h.buffered ready
  | fetch isOpen => exact absurd h.closed (by simp [isOpen])
  | finish closed unfinished => exact absurd h.finished (by simp [unfinished])

/-- Nothing happens along a path after the work of closing, and nothing but `.cursorClosed` is given
to the caller. -/
theorem Path.over {given : List (Output α)} (h : Over run) (path : Path setup run given after) :
    Resized run after ∧ ∀ output ∈ given, output = .error .cursorClosed := by
  induction path with
  | nil run => exact ⟨.refl run, by simp⟩
  | cons step rest ih =>
    obtain ⟨here, refused⟩ := step.over h
    obtain ⟨later, denied⟩ := ih (h.resized here)
    refine ⟨here.trans later, fun output listed => ?_⟩
    exact (List.mem_append.mp listed).elim (refused output) (denied output)

/-! ## Paths on which the work of closing is done -/

/-- **The work of closing is done on a path**, from `mid` to `done`, and nothing happens after it.
None of its errors is given to the caller: what is given before comes from the path to `mid`, and
what is given later is `.cursorClosed`. -/
def ClosesOnce (setup : Setup α) (run : Run α) (given : List (Output α)) (after : Run α) : Prop :=
  ∃ earlier mid done later, given = earlier ++ later ∧ Path setup run earlier mid ∧
    Closes setup mid done ∧ Resized done after ∧
    ∀ output ∈ later, output = .error .cursorClosed

/-- It is over when the work of closing was done, and stays so. -/
theorem ClosesOnce.over {given : List (Output α)} (h : ClosesOnce setup run given after) :
    Over after := by
  obtain ⟨earlier, mid, done, later, -, -, closes, resized, -⟩ := h
  exact closes.over.resized resized

/-- A step that finishes a cursor does the work of closing, and gives nothing to the caller. -/
theorem Step.closes {given : List (Output α)} (h : Sourced run)
    (unfinished : run.state.finished = false) (step : Step setup run given after)
    (finished : after.state.finished = true) : given = [] ∧ Closes setup run after := by
  cases step with
  | shut | resize | deny | lack | hand => exact absurd finished (by simp_all [Run.markClosed])
  | fetch isOpen empty unreached live =>
    obtain ⟨source, cursor, -, trip⟩ := getMore_trip setup h live
    exact absurd finished (by simp [trip.finished_eq, unfinished])
  | finish closed => exact ⟨rfl, finish_closes setup h closed unfinished⟩

/-- **The work of closing is done once** on every path to a finished run, by induction on the path:
`Step.closes` finds the step that does it, and `Path.over` says what follows. -/
theorem Path.closes {given : List (Output α)} (h : Sourced run)
    (unfinished : run.state.finished = false) (path : Path setup run given after)
    (finished : after.state.finished = true) : ClosesOnce setup run given after := by
  induction path with
  | nil run => exact absurd finished (by simp [unfinished])
  | @cons first second third here later step rest ih =>
    cases done : second.state.finished with
    | true =>
      -- It is done by this step, and nothing happens on the rest of the path.
      obtain ⟨rfl, closes⟩ := step.closes h unfinished done
      obtain ⟨resized, refused⟩ := rest.over closes.over
      exact ⟨[], first, second, later, rfl, .nil first, closes, resized, refused⟩
    | false =>
      obtain ⟨earlier, mid, last, later, rfl, path, closes⟩ := ih (step.sourced h) done finished
      exact ⟨here ++ earlier, mid, last, later, (List.append_assoc ..).symm, .cons step path,
        closes⟩

/-! ## After a cursor was closed -/

/-- **A cursor that was closed stays closed**, and asks for no more documents: `requests` are the
same after the step. -/
theorem Step.closed {given : List (Output α)} (h : Sourced run)
    (step : Step setup run given after) (closed : run.state.closed = true) :
    after.state.closed = true ∧ requests after.events = requests run.events := by
  cases step with
  | shut => exact ⟨rfl, rfl⟩
  | resize | deny | hand => exact ⟨closed, rfl⟩
  | lack isOpen => exact absurd closed (by simp [isOpen])
  | fetch isOpen => exact absurd closed (by simp [isOpen])
  | finish closed =>
    exact ⟨by rw [finish_state setup h closed], (finish_quietly setup h).requests_eq⟩

/-- A cursor that was closed stays closed along a path, and asks for no more documents. -/
theorem Path.closed {given : List (Output α)} (h : Sourced run)
    (path : Path setup run given after) (closed : run.state.closed = true) :
    after.state.closed = true ∧ requests after.events = requests run.events := by
  induction path with
  | nil run => exact ⟨closed, rfl⟩
  | cons step rest ih =>
    obtain ⟨still, same⟩ := step.closed h closed
    obtain ⟨later, others⟩ := ih (step.sourced h) still
    exact ⟨later, others.trans same⟩

/-! ## Round trips and the work of closing -/

/-- **Round trips are begun only while the cursor is open**: every one before `last`, which is the
run itself, or the run in which the work of closing was begun. Nothing happened after that work, and
the connection that is asked for in it is for a kill. -/
def BegunWhileOpen (setup : Setup α) (script : Script) (run : Run α) : Prop :=
  ∃ last, Throughout (WhileOpen script) last.events ∧
    (last = run ∨ ∃ done, Closes setup last done ∧ Resized done run)

/-- Round trips are begun only while the cursor is open along a path: `Path.watched` says so up to
the work of closing. -/
theorem Path.begunWhileOpen {first : List α} {script : Script} {given here : List (Output α)}
    (h : Delivery setup first script.fetches given run) (stopped : Stopped setup run)
    (watched : Watched setup script run) (unfinished : run.state.finished = false)
    (path : Path setup run here after) : BegunWhileOpen setup script after := by
  cases done : after.state.finished with
  | false => exact ⟨after, (path.watched h stopped watched done).begun, Or.inl rfl⟩
  | true =>
    obtain ⟨earlier, last, ended, later, -, before, closes, resized, -⟩ :=
      path.closes h.sourced unfinished done
    exact ⟨last, (before.watched h stopped watched closes.unfinished).begun,
      Or.inr ⟨ended, closes, resized⟩⟩

/-! ## Calls on a closed cursor -/

/-- A closed cursor does the work of closing, if it was not done, and `ensureOpen` fails. -/
theorem ensureOpen_closed (setup : Setup α) (closed : run.state.closed = true) :
    ensureOpen setup run = .fail .cursorClosed (close setup run) := by
  unfold ensureOpen
  rw [if_pos closed]

/-- A closed cursor does not say whether there is another batch: `hasNext` fails by `.cursorClosed`
and closes. -/
theorem hasNext_closed (setup : Setup α) (closed : run.state.closed = true) :
    hasNext setup run = .fail .cursorClosed (close setup run) := by
  rw [hasNext, ensureOpen_closed setup closed, Outcome.andThen_fail]

/-- A closed cursor has no next batch: `nextBatch` fails in the same way. -/
theorem nextBatch_closed (setup : Setup α) (closed : run.state.closed = true) :
    nextBatch setup run = .fail .cursorClosed (close setup run) := by
  rw [nextBatch, hasNext_closed setup closed, Outcome.andThen_fail]

/-- A closed cursor makes no round trip: `tryNext` fails in the same way. -/
theorem tryNext_closed (setup : Setup α) (closed : run.state.closed = true) :
    tryNext setup run = .fail .cursorClosed (close setup run) := by
  rw [tryNext, ensureOpen_closed setup closed, Outcome.andThen_fail]

/-- The iteration of a closed cursor fails in the same way. -/
theorem next_closed (setup : Setup α) (closed : run.state.closed = true) :
    next setup run = .fail .cursorClosed (close setup run) := by
  rw [next, hasNext_closed setup closed, Outcome.andThen_fail]

/-- **From a closed run to a later one nothing happens but the work of closing**, and that at most
once. Apart from it nothing changes but the batch size, before it and after it. -/
def OnlyCloses (setup : Setup α) (run after : Run α) : Prop :=
  Resized run after ∨ ∃ last done, Resized run last ∧ Closes setup last done ∧ Resized done after

/-- The work of closing is done once, however often it is asked for: what was over stays over. -/
theorem OnlyCloses.trans {first second third : Run α} (h : OnlyCloses setup first second)
    (h' : OnlyCloses setup second third) : OnlyCloses setup first third := by
  obtain resized | ⟨last, done, here, closes, there⟩ := h
  · obtain again | ⟨last, done, here, closes, there⟩ := h'
    · exact Or.inl (resized.trans again)
    · exact Or.inr ⟨last, done, resized.trans here, closes, there⟩
  · obtain again | ⟨later, _, meanwhile, closes', -⟩ := h'
    · exact Or.inr ⟨last, done, here, closes, there.trans again⟩
    · -- The cursor was finished by then.
      have finished := (closes.over.resized (there.trans meanwhile)).finished
      exact absurd finished (by simp [closes'.unfinished])

/-- Closing a closed cursor does nothing but the work of closing, and not even that if it was
done. -/
theorem onlyCloses_close (setup : Setup α) (h : Sourced run) (closed : run.state.closed = true) :
    OnlyCloses setup run (close setup run) := by
  rw [close, markClosed_of_closed closed]
  cases finished : run.state.finished with
  | true => exact Or.inl (.refl run)
  | false => exact Or.inr ⟨run, _, .refl run, finish_closes setup h closed finished, .refl _⟩

/-- The iteration of a closed cursor does nothing but the work of closing, which its first item
does. -/
theorem onlyCloses_collect (setup : Setup α) (h : Sourced run) (closed : run.state.closed = true)
    (most : Nat) : OnlyCloses setup run (collect setup most run).2 := by
  induction most generalizing run with
  | zero => exact Or.inl (.refl run)
  | succ most ih =>
    have rest := ih ((close_path setup run).sourced h) (closed_close setup h)
    rw [collect, next_closed setup closed]
    exact (onlyCloses_close setup h closed).trans rest

/-- Every item of the iteration of a closed cursor is a failure, so that there are `most` of
them. -/
theorem collect_closed (setup : Setup α) (h : Sourced run) (closed : run.state.closed = true)
    (most : Nat) : (collect setup most run).1 = List.replicate most (.error .cursorClosed) := by
  induction most generalizing run with
  | zero => rfl
  | succ most ih =>
    have rest := ih ((close_path setup run).sourced h) (closed_close setup h)
    rw [collect, next_closed setup closed]
    exact congrArg _ rest

namespace Call

/-- Whether a call looks for data, and so does the work of closing if the cursor was closed from
elsewhere. An iteration of no items does not. -/
def seeks : Call → Bool
  | hasNext | nextBatch | tryNext | next => true
  | collect most => most ≠ 0
  | _ => false

/-- What a call gives when it is refused because the cursor is closed; none if it is answered then,
as questions to the handle are. -/
def refusal? : Call → Option (Except CursorError (Answer α))
  | hasNext | nextBatch | tryNext | next | serverCursor | serverAddress =>
    some (.error .cursorClosed)
  | collect most => some (.ok (.batches (List.replicate most (.error .cursorClosed))))
  | _ => none

end Call

namespace Life

/-- **A call on a closed cursor is refused**: its result is `call.refusal?`, if it has one. -/
theorem refused_perform {life : Life α} (h : Sourced life.run)
    (closed : life.run.state.closed = true) (alive : life.dropped = false) {call : Call}
    {result : Except CursorError (Answer α)} (refused : result ∈ call.refusal?) :
    (life.perform call).1 = result := by
  have same : life.perform call = life.performAlive call := by rw [perform, alive]; rfl
  rw [same]
  cases call with
  | hasNext | nextBatch | tryNext | next | serverCursor | serverAddress =>
    obtain rfl := Option.some.inj refused
    simp [performAlive, after, hasNext_closed, nextBatch_closed, tryNext_closed, next_closed,
      serverCursor, serverAddress, closed, Outcome.fail, Except.map]
  | collect most =>
    obtain rfl := Option.some.inj refused
    exact congrArg (fun results => Except.ok (Answer.batches results))
      (collect_closed life.setup h closed most)
  | setBatchSize | batchSize | limit | count | ns | isClosed | close | handleClose
  | handleIsClosed | drop => exact absurd refused (by simp [Call.refusal?])

/-- **A call on a closed cursor does nothing but the work of closing**, whichever call it is. -/
theorem onlyCloses_perform {life : Life α} (h : Sourced life.run)
    (closed : life.run.state.closed = true) (call : Call) :
    OnlyCloses life.setup life.run (life.perform call).2.run := by
  have nothing : OnlyCloses life.setup life.run life.run := Or.inl (.refl life.run)
  have closes := onlyCloses_close life.setup h closed
  unfold perform
  split
  · exact nothing
  · cases call with
    | hasNext => simpa [performAlive, after, hasNext_closed, closed, Outcome.fail] using closes
    | nextBatch => simpa [performAlive, after, nextBatch_closed, closed, Outcome.fail] using closes
    | tryNext => simpa [performAlive, after, tryNext_closed, closed, Outcome.fail] using closes
    | next => simpa [performAlive, after, next_closed, closed, Outcome.fail] using closes
    | collect most => exact onlyCloses_collect life.setup h closed most
    | setBatchSize size => exact Or.inl ⟨size, rfl⟩
    | close | drop => exact closes
    | handleClose =>
      rw [performAlive, markClosed_of_closed closed]
      exact nothing
    | batchSize | limit | count | ns | serverCursor | serverAddress | isClosed | handleIsClosed =>
      exact nothing

/-- Calls on a closed cursor do nothing but the work of closing, which is done in one of them at
most. -/
theorem onlyCloses_performAll (calls : List Call) {life : Life α} (h : Sourced life.run)
    (closed : life.run.state.closed = true) :
    OnlyCloses life.setup life.run (performAll calls life).2.run := by
  induction calls generalizing life with
  | nil => exact Or.inl (.refl life.run)
  | cons call calls ih =>
    have path := perform_path call h
    have later := ih (path.sourced h) (path.closed h closed).1
    rw [setup_perform] at later
    exact (onlyCloses_perform h closed call).trans later

/-- **The first call that looks for data on a closed cursor does the work of closing**, and so does
a call that closes the cursor or drops it. -/
theorem finished_perform {life : Life α} (h : Sourced life.run) (alive : life.dropped = false)
    {call : Call}
    (settles : call = .close ∨ call = .drop ∨ call.seeks = true ∧ life.run.state.closed = true) :
    (life.perform call).2.run.state.finished = true := by
  have same : life.perform call = life.performAlive call := by rw [perform, alive]; rfl
  have done := finished_close life.setup h
  rw [same]
  obtain rfl | rfl | ⟨seeks, closed⟩ := settles
  · exact done
  · exact done
  · cases call with
    | hasNext => simpa [performAlive, after, hasNext_closed, closed, Outcome.fail] using done
    | nextBatch => simpa [performAlive, after, nextBatch_closed, closed, Outcome.fail] using done
    | tryNext => simpa [performAlive, after, tryNext_closed, closed, Outcome.fail] using done
    | next => simpa [performAlive, after, next_closed, closed, Outcome.fail] using done
    | collect most =>
      cases most with
      | zero => exact absurd seeks (by simp [Call.seeks])
      | succ most =>
        -- The first item does the work of closing, and nothing undoes it.
        have still := (close_path life.setup life.run).sourced h
        have rest : Path life.setup (close life.setup life.run) _ _ := collect_path still most
        have finished := rest.finished still done
        simpa [performAlive, collect, next_closed, closed, Outcome.fail] using finished
    | setBatchSize | batchSize | limit | count | ns | isClosed | close | handleClose
    | handleIsClosed | drop | serverCursor | serverAddress =>
      exact absurd seeks (by simp [Call.seeks])

/-- The work of closing is done only in calls that close the cursor, drop it or look for data; the
handle does no more than to set the flag. -/
theorem settles_of_finished {life : Life α} {call : Call}
    (unfinished : life.run.state.finished = false)
    (finished : (life.perform call).2.run.state.finished = true) :
    call = .close ∨ call = .drop ∨ call.seeks = true := by
  unfold perform at finished
  split at finished
  · exact absurd finished (by simp [unfinished])
  · cases call with
    | close => exact Or.inl rfl
    | drop => exact Or.inr (Or.inl rfl)
    | hasNext | nextBatch | tryNext | next => exact Or.inr (Or.inr rfl)
    | collect most =>
      cases most with
      | zero => exact absurd finished (by simp [performAlive, collect, unfinished])
      | succ most => exact Or.inr (Or.inr rfl)
    | setBatchSize | batchSize | limit | count | ns | isClosed | handleClose | handleIsClosed
    | serverCursor | serverAddress =>
      exact absurd finished (by simp [performAlive, unfinished, Run.markClosed])

/-- **The work of closing is done in one call**, which closes the cursor, drops it or looks for
data, and nothing happens in the calls after it. -/
def ClosesIn (life : Life α) (calls : List Call) : Prop :=
  ∃ earlier call later, calls = earlier ++ call :: later ∧
    (call = .close ∨ call = .drop ∨ call.seeks = true) ∧
    let before := (performAll earlier life).2
    let done := before.perform call
    before.run.state.finished = false ∧
      ClosesOnce life.setup before.run (given done.1) done.2.run ∧
      Resized done.2.run (performAll calls life).2.run

/-- The work of closing is done in one call if it is done, by induction on the calls. -/
theorem closesIn_of_finished (calls : List Call) {life : Life α} (h : Sourced life.run)
    (unfinished : life.run.state.finished = false)
    (finished : (performAll calls life).2.run.state.finished = true) : life.ClosesIn calls := by
  induction calls generalizing life with
  | nil => exact absurd finished (by simp [performAll, unfinished])
  | cons call calls ih =>
    have path := perform_path call h
    have sourced := path.sourced h
    cases done : (life.perform call).2.run.state.finished with
    | true =>
      have closes := path.closes h unfinished done
      exact ⟨[], call, calls, rfl, settles_of_finished unfinished done, unfinished, closes,
        ((performAll_path calls sourced).over closes.over).1⟩
    | false =>
      obtain ⟨earlier, other, later, rfl, settles, closes⟩ := ih sourced done finished
      rw [setup_perform] at closes
      exact ⟨call :: earlier, other, later, rfl, settles, closes⟩

/-- A cursor that was just made sent a kill only if its first batch reaches the limit. -/
theorem begin_stopped {first : Reply α} {options : Options}
    {decode : Document → Except DecodeError α} {source : Option Source}
    {connection : Option Connection} {script : Script}
    (hok : (begin first options decode source connection script).1 = .ok ()) :
    Stopped (Setup.of first options decode)
      (begin first options decode source connection script).2.run := by
  obtain ⟨live, state, -⟩ := (made_of_ok hok).state
  obtain ⟨work, cuts, -, works⟩ := begin_works hok
  intro killed
  refine Or.inl ?_
  rw [limitReached_congr (show _ = _ from congrArg (·.count) state)]
  refine cuts.reached fun idle => killed ?_
  rw [kills_begin works, idle, kills_nil]

/-- **A cursor that was just made began no round trip.** A connection is asked for only to kill the
server's cursor, at the limit, and nobody can have closed the cursor by then. -/
theorem begin_watched {first : Reply α} {options : Options}
    {decode : Document → Except DecodeError α} {source : Option Source}
    {connection : Option Connection} {script : Script}
    (hok : (begin first options decode source connection script).1 = .ok ()) :
    Watched (Setup.of first options decode) script
      (begin first options decode source connection script).2.run := by
  obtain ⟨live, state, -⟩ := (made_of_ok hok).state
  obtain ⟨work, cuts, -, works⟩ := begin_works hok
  set taken := absorb first (started options.batchSize source script)
  set run := (begin first options decode source connection script).2.run
  have before := started_asks_nothing options.batchSize first source script
  have uninquired : inquiries taken.events = 0 := (counts_of_asks_nothing before).1
  have unshut : Unshut script taken.events :=
    unshut_of_asks_nothing (kills_absorb_started ..) before
  -- The source is let go of and the given connection is given up.
  have after : ∀ event ∈ (if run.state.live.isNone && source.isSome then [.release] else []) ++
      connection.toList.map fun connection => (.giveUp connection.number : Event α),
      event.isInquiry = false ∧ event.request? = none := by
    intro event listed
    obtain listed | listed := List.mem_append.mp listed
    · split at listed <;> simp_all [Event.isInquiry, Event.request?]
    · obtain ⟨kept, -, rfl⟩ := List.mem_map.mp listed
      exact ⟨rfl, rfl⟩
  refine ⟨?_, fun _ unreached _ => ?_, ?_⟩
  · rw [works.events, throughout_append, throughout_append]
    exact ⟨throughout_whileOpen id before, cuts.whileOpen unshut,
      throughout_whileOpen (fun later => taken.events ++ (work ++ later)) after⟩
  · have idle : work = [] := by
      by_cases idle : work = []
      · exact idle
      · rw [limitReached_congr (show _ = taken.state.count from congrArg (·.count) state)]
          at unreached
        exact absurd (cuts.reached idle) (by simp [unreached])
    refine unshut_of_asks_nothing ?_ ?_
    · rw [kills_begin works, idle, kills_nil]
    · rw [works.events, idle, List.nil_append]
      exact fun event listed => (List.mem_append.mp listed).elim (before event) (after event)
  · rw [works.inquiries, works.events, inquiries_append taken.events, uninquired, Nat.zero_add]
    rfl

/-- **Closing is for good and complete.** Wherever the cursor is closed, in a call or from elsewhere
while an answer is waited for, it is closed from then on: if it is open, no call has closed it and
it was `Spared` by all answers since it was made. A round trip is begun only while the cursor is
open; one that was begun before the cursor was closed is brought to its end, so that its request may
be sent on a connection that took long to come. Once it is closed the cursor stays closed, refuses
every call that looks for data, and nothing happens but the work of closing.

That is done once, in the first call that closes the cursor, drops it or looks for data after it was
closed from elsewhere; after that nothing happens, and nothing changes but the batch size. -/
theorem closing_complete (first : Reply α) (options : Options)
    (decode : Document → Except DecodeError α) (source : Option Source)
    (connection : Option Connection) (script : Script) (calls : List Call)
    (hok : (begin first options decode source connection script).1 = .ok ()) :
    let made := (begin first options decode source connection script).2
    let life := (performAll calls made).2
    (life.run.state.closed = false →
        Spared made.run.script life.run.script ∧ ∀ call ∈ calls, call.closes = false) ∧
      BegunWhileOpen made.setup script life.run ∧
      (life.run.state.closed = true →
        (∀ more, let later := (performAll more life).2.run
          later.state.closed = true ∧ requests later.events = requests life.run.events ∧
            OnlyCloses life.setup life.run later) ∧
        (life.dropped = false → ∀ call, ∀ result ∈ call.refusal?, (life.perform call).1 = result)) ∧
      (life.dropped = false →
        ∀ call, (call = .close ∨ call = .drop ∨ call.seeks = true ∧ life.run.state.closed = true) →
          (life.perform call).2.run.state.finished = true) ∧
      (.drop ∈ calls → life.run.state.finished = true) ∧
      (life.run.state.finished = true →
        made.ClosesIn calls ∧ ∀ more, Resized life.run (performAll more life).2.run) := by
  intro made life
  have fresh := made_of_ok hok
  have path := performAll_path calls fresh.sourced
  have sourced := path.sourced fresh.sourced
  have unfinished : made.run.state.finished = false := by
    obtain ⟨live, state, -⟩ := fresh.state
    rw [state]
  have later (more : List Call) := performAll_path more sourced
  refine ⟨fun isOpen => ⟨(path.unclosed fresh.sourced isOpen).2, ?_⟩,
    path.begunWhileOpen fresh.delivery (begin_stopped hok) (begin_watched hok) unfinished,
    fun closed => ⟨fun more => ?_, ?_⟩, ?_, ?_, ?_⟩
  · exact uncalled_of_open calls fresh.sourced (by simp [begin]) isOpen
  · obtain ⟨still, same⟩ := (later more).closed sourced closed
    exact ⟨still, same, onlyCloses_performAll more sourced closed⟩
  · exact fun alive call result refused => refused_perform sourced closed alive refused
  · exact fun alive call settles => finished_perform sourced alive settles
  · exact finished_of_dropped calls fresh.sourced (by simp [made, begin])
  · intro finished
    exact ⟨closesIn_of_finished calls fresh.sourced unfinished finished,
      fun more => ((later more).over (path.closes fresh.sourced unfinished finished).over).1⟩

/-- A cursor that is closed from elsewhere while it waits for a connection asks for documents on it
all the same. It does the work of closing in the same call, and the batch is not handed out. -/
theorem closing_complete_while_connecting :
    let made := begin (Small.first [] 7) {} Small.decode (some (Small.source 3)) none
      ⟨[.granted none true], [Small.turn [1] 7], []⟩
    let after := performAll [.nextBatch] made.2
    made.1 = .ok () ∧ (requests after.2.run.events).length = 1 ∧
      handedOut (allGiven after.1) = [] ∧ after.2.run.state.finished = true ∧
      made.2.ClosesIn [.nextBatch] ∧
      ∀ more, Resized after.2.run (performAll more after.2).2.run :=
  ⟨rfl, by decide, by decide, by decide, (closing_complete (Small.first [] 7) {} Small.decode
    (some (Small.source 3)) none _ [.nextBatch] rfl).2.2.2.2.2 (by decide)⟩

end Life

end DocumentCursor.Cursor
