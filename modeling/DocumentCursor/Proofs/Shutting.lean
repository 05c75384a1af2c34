import DocumentCursor.Proofs.Closing

/-! # Cursors that are closed in a round trip

A cursor can be closed from elsewhere while it waits for a server. Looking for the next batch checks
for that after every round trip, so that a batch is handed out by an open cursor only, and a cursor
that was closed meanwhile does the work of closing before the call returns. Looking in one round
trip makes no such check: what that round trip brought is handed out in any case.

* **`Skips`**: round trips that brought nothing.
* **`Shut`**: how a call ends in one of whose round trips the cursor was closed.
* **`hasNext_openOrShut`**, **`nextBatch_openOrShut`** and **`next_openOrShut`**: a call leaves the
  cursor open, or it ends so.
* **`tryNext_ok_closed_iff`**: when a batch is handed out by a closed cursor.
* **`handed_out_while_open`**: so it is in every life of a cursor.
-/

namespace DocumentCursor.Cursor

variable {α β γ : Type} {setup : Setup α} {run : Run α}

/-! ## Calls in which the cursor is closed -/

/-- **Round trips that brought nothing**, one after the other. Each succeeded and left the cursor
open, with no batch to hand out. -/
inductive Skips (setup : Setup α) : Run α → Run α → Prop
  | nil (run : Run α) : Skips setup run run
  | cons {run last : Run α} (live : run.state.live.isSome)
      (ok : (getMore setup run).result = .ok ())
      (isOpen : (getMore setup run).run.state.closed = false)
      (empty : (getMore setup run).run.state.buffered = [])
      (rest : Skips setup (getMore setup run).run last) : Skips setup run last

/-- **How a call ends in whose last round trip the cursor was closed**: its failure and the run
after it. All round trips before that one are `Skips`. -/
inductive Shut (setup : Setup α) (run : Run α) : CursorError → Run α → Prop
  /-- The round trip succeeded. The work of closing is done, and the call is refused. -/
  | refused {last after : Run α} (skips : Skips setup run last)
      (isOpen : last.state.closed = false) (ok : (getMore setup last).result = .ok ())
      (closes : Closes setup (getMore setup last).run after) :
      Shut setup run .cursorClosed after
  /-- The round trip failed, and so does the call. -/
  | failed {last : Run α} {error : CursorError} (skips : Skips setup run last)
      (isOpen : last.state.closed = false) (failed : (getMore setup last).result = .error error)
      (closed : (getMore setup last).run.state.closed = true) :
      Shut setup run error (getMore setup last).run

/-- What ends so after a round trip that brought nothing ends so with it: `Skips.cons` in front of
the others. -/
theorem Shut.cons {error : CursorError} {after : Run α} (live : run.state.live.isSome)
    (ok : (getMore setup run).result = .ok ())
    (isOpen : (getMore setup run).run.state.closed = false)
    (empty : (getMore setup run).run.state.buffered = [])
    (h : Shut setup (getMore setup run).run error after) : Shut setup run error after := by
  cases h with
  | refused skips here done closes =>
    exact .refused (.cons live ok isOpen empty skips) here done closes
  | failed skips here failed closed =>
    exact .failed (.cons live ok isOpen empty skips) here failed closed

/-- **An outcome leaves the cursor open**, or the cursor was closed in the last round trip and the
outcome is the failure of `Shut`. -/
def OpenOrShut (setup : Setup α) (run : Run α) (outcome : Outcome α β) : Prop :=
  outcome.run.state.closed = false ∨
    ∃ error, outcome.result = .error error ∧ Shut setup run error outcome.run

namespace OpenOrShut

variable {outcome : Outcome α β}

/-- After a success the cursor is open: `OpenOrShut` of an outcome that is `.ok value` can only be
the first. -/
theorem isOpen (h : OpenOrShut setup run outcome) {value : β} (ok : outcome.result = .ok value) :
    outcome.run.state.closed = false := by
  obtain isOpen | ⟨error, failed, -⟩ := h
  · exact isOpen
  · exact absurd (ok.symm.trans failed) (by simp)

/-- What goes on after a success without a round trip is no matter, as it leaves `closed` as it
is. -/
theorem andThen {next : β → Run α → Outcome α γ} (h : OpenOrShut setup run outcome)
    (hnext : ∀ value, outcome.result = .ok value →
      (next value outcome.run).run.state.closed = outcome.run.state.closed) :
    OpenOrShut setup run (outcome.andThen next) := by
  have isOpen (value : β) (ok : outcome.result = .ok value) := h.isOpen ok
  obtain ⟨result, after⟩ := outcome
  cases result with
  | ok value => exact Or.inl ((hnext value rfl).trans (isOpen value rfl))
  | error error =>
    refine h.imp_right ?_
    rintro ⟨other, ⟨⟩, shut⟩
    exact ⟨error, rfl, shut⟩

end OpenOrShut

/-- An open cursor has not done the work of closing, if it had not when the path began: that work
closes it for good. -/
theorem Path.unfinished {given : List (Output α)} {after : Run α} (h : Sourced run)
    (path : Path setup run given after)
    (unfinished : run.state.closed = false → run.state.finished = false)
    (isOpen : after.state.closed = false) : after.state.finished = false := by
  cases flag : run.state.closed with
  | true => exact absurd isOpen (by simp [(path.closed h flag).1])
  | false =>
    cases finished : after.state.finished with
    | false => rfl
    | true => exact absurd isOpen (by simp [(path.closes h (unfinished flag) finished).over.closed])

/-- **Closing a cursor that was closed from elsewhere** does the work of closing:
`Closes setup run (close setup run)`. -/
theorem close_closes (setup : Setup α) (h : Sourced run) (closed : run.state.closed = true)
    (unfinished : run.state.finished = false) : Closes setup run (close setup run) := by
  have marked : run.markClosed = run := by
    obtain ⟨⟨size, source, live, buffered, count, flag, finished, pinned⟩, script, issued,
      events⟩ := run
    obtain rfl : flag = true := closed
    rfl
  have done : close setup run = finish setup run := by
    show (if run.markClosed.state.finished then run.markClosed else finish setup run.markClosed) = _
    rw [marked, unfinished]
    rfl
  rw [done]
  exact finish_closes setup h closed unfinished

/-- **Fetching until there is a batch** leaves the cursor open, or it was closed meanwhile. The
check after every round trip is what finds that out. -/
theorem fetchUntilBatch_openOrShut {fuel : Nat} (h : Asks setup run)
    (unfinished : run.state.finished = false) :
    OpenOrShut setup run (fetchUntilBatch setup fuel run) := by
  -- Each round trip starts from a run that asks for more and has not done the work of closing.
  induction fuel generalizing run with
  | zero => exact Or.inl h.isOpen
  | succ fuel ih =>
    rw [fetchUntilBatch]
    by_cases idle : run.state.live.isNone = true
    · rw [if_pos idle]
      exact Or.inl h.isOpen
    rw [if_neg idle]
    have live : run.state.live.isSome := by simpa [Option.isSome_iff_ne_none] using idle
    obtain ⟨_, _, -, trip⟩ := getMore_trip setup h.sourced live
    have still : (getMore setup run).run.state.finished = false := trip.finished_eq.trans unfinished
    cases result : (getMore setup run).result with
    | error error =>
      rw [Outcome.andThen_of_error result]
      cases closed : (getMore setup run).run.state.closed with
      | false => exact Or.inl closed
      | true => exact Or.inr ⟨error, rfl, .failed (.nil run) h.isOpen result closed⟩
    | ok value =>
      rw [Outcome.andThen_of_ok result]
      obtain ⟨sourced, -, unreached, -⟩ := (getMore_follows h live).tells () result
      cases closed : (getMore setup run).run.state.closed with
      | true =>
        rw [ensureOpen_closed setup closed, Outcome.andThen_fail]
        exact Or.inr ⟨_, rfl, .refused (.nil run) h.isOpen result
          (close_closes setup sourced closed still)⟩
      | false =>
        rw [ensureOpen_open setup closed, Outcome.andThen_pure]
        by_cases hb : (getMore setup run).run.state.buffered.isEmpty = true
        · have empty := List.isEmpty_iff.mp hb
          rw [if_pos hb]
          refine (ih ⟨sourced, closed, empty, unreached empty⟩ still).imp_right ?_
          rintro ⟨error, failed, shut⟩
          exact ⟨error, failed, shut.cons live result closed empty⟩
        · rw [if_neg hb]
          exact Or.inl closed

/-! ## Calls that look for data -/

/-- **Whether there is another batch** is answered by an open cursor, or the cursor was closed in
the last round trip. -/
theorem hasNext_openOrShut (h : Sourced run) (isOpen : run.state.closed = false)
    (unfinished : run.state.finished = false) : OpenOrShut setup run (hasNext setup run) := by
  unfold hasNext
  rw [ensureOpen_open setup isOpen, Outcome.andThen_pure]
  by_cases hb : run.state.buffered = []
  · rw [if_neg (by simp [hb])]
    cases unreached : limitReached setup run.state with
    | true => exact Or.inl isOpen
    | false => exact fetchUntilBatch_openOrShut ⟨h, isOpen, hb, unreached⟩ unfinished
  · rw [if_pos (by simpa using hb)]
    exact Or.inl isOpen

/-- A batch that is there is handed out by an open cursor without a round trip:
`nextBatch setup run = takeBuffered run`. -/
theorem nextBatch_ready (setup : Setup α) (isOpen : run.state.closed = false)
    (ready : run.state.buffered ≠ []) : nextBatch setup run = takeBuffered run := by
  rw [nextBatch, hasNext_ready setup isOpen ready, Outcome.andThen_pure]
  rfl

/-- **The next batch** is handed out by an open cursor, since handing out what `hasNext` found makes
no round trip. -/
theorem nextBatch_openOrShut (h : Sourced run) (isOpen : run.state.closed = false)
    (unfinished : run.state.finished = false) : OpenOrShut setup run (nextBatch setup run) := by
  refine (hasNext_openOrShut h isOpen unfinished).andThen fun more ok => ?_
  cases more <;> rfl

/-- **The next item of the iteration** is handed out by an open cursor, for the same reason. -/
theorem next_openOrShut (h : Sourced run) (isOpen : run.state.closed = false)
    (unfinished : run.state.finished = false) : OpenOrShut setup run (next setup run) := by
  refine (hasNext_openOrShut h isOpen unfinished).andThen fun more ok => ?_
  have knows := (hasNext_follows setup h).tells more ok
  cases more with
  | true =>
    rw [if_pos rfl, nextBatch_ready setup knows.isOpen (knows.ready rfl)]
    rfl
  | false => rfl

/-! ## Looking in one round trip -/

/-- **The cursor is closed in a round trip that succeeds**, and was open and had nothing to hand out
before it. -/
structure ClosedMeanwhile (setup : Setup α) (run : Run α) : Prop where
  asks : Asks setup run
  live : run.state.live.isSome
  ok : (getMore setup run).result = .ok ()
  closed : (getMore setup run).run.state.closed = true

/-- Handing out the batch that is there, if there is one: what `tryNext` does last, without looking
at `closed`. -/
def handOver (run : Run α) : Outcome α (Option (List α)) :=
  .pure (if run.state.buffered.isEmpty then none else some run.state.buffered)
    (run.modify fun state => { state with buffered := [] })

/-- Where no round trip would be made an open cursor hands out what is there:
`tryNext setup run = handOver run`. -/
theorem tryNext_idle (isOpen : run.state.closed = false)
    (idle : ¬(run.state.buffered = [] ∧ limitReached setup run.state = false ∧
      run.state.live.isSome)) : tryNext setup run = handOver run := by
  unfold tryNext
  rw [ensureOpen_open setup isOpen, Outcome.andThen_pure, if_neg]
  · rfl
  · simpa [and_assoc] using idle

/-- Where a round trip is made, what it brought is handed out after it: `getMore`, then `handOver`,
and no check in between. -/
theorem tryNext_asks (h : Asks setup run) (live : run.state.live.isSome) :
    tryNext setup run = (getMore setup run).andThen fun _ run => handOver run := by
  unfold tryNext
  rw [ensureOpen_open setup h.isOpen, Outcome.andThen_pure, if_pos]
  · rfl
  · simp [h.empty, h.unreached, live]

namespace ClosedMeanwhile

/-- What such a round trip brought is handed out by `tryNext`, and no more is done. -/
theorem tryNext_eq (h : ClosedMeanwhile setup run) :
    tryNext setup run = handOver (getMore setup run).run := by
  rw [tryNext_asks h.asks h.live, Outcome.andThen_of_ok h.ok]

/-- Looking for the next batch does the work of closing after such a round trip, and is refused:
`hasNext` fails by `.cursorClosed`. -/
theorem hasNext_eq (h : ClosedMeanwhile setup run) :
    hasNext setup run = .fail .cursorClosed (close setup (getMore setup run).run) := by
  unfold hasNext
  rw [ensureOpen_open setup h.asks.isOpen, Outcome.andThen_pure, if_neg (by simp [h.asks.empty]),
    if_neg (by simp [h.asks.unreached]), fetchUntilBatch,
    if_neg (by simpa [← Option.isSome_iff_ne_none] using h.live), Outcome.andThen_of_ok h.ok,
    ensureOpen_closed setup h.closed, Outcome.andThen_fail]

end ClosedMeanwhile

/-- **A look in one round trip succeeds and leaves the cursor closed** exactly if the cursor is
closed in that round trip, `ClosedMeanwhile setup run`. -/
theorem tryNext_ok_closed_iff (h : Sourced run) :
    (∃ batch, (tryNext setup run).result = .ok batch) ∧
        (tryNext setup run).run.state.closed = true ↔ ClosedMeanwhile setup run := by
  constructor
  · rintro ⟨⟨batch, ok⟩, closed⟩
    cases flag : run.state.closed with
    | true =>
      rw [tryNext_closed setup flag] at ok
      exact nomatch ok
    | false =>
      by_cases trips : run.state.buffered = [] ∧ limitReached setup run.state = false ∧
          run.state.live.isSome
      · obtain ⟨empty, unreached, live⟩ := trips
        have asks : Asks setup run := ⟨h, flag, empty, unreached⟩
        rw [tryNext_asks asks live] at ok closed
        cases result : (getMore setup run).result with
        | error error =>
          rw [Outcome.andThen_of_error result] at ok
          exact nomatch ok
        | ok value =>
          rw [Outcome.andThen_of_ok result] at closed
          exact ⟨asks, live, result, closed⟩
      · rw [tryNext_idle flag trips] at closed
        exact absurd flag (by simp [show run.state.closed = true from closed])
  · intro meanwhile
    rw [meanwhile.tryNext_eq]
    exact ⟨⟨_, rfl⟩, meanwhile.closed⟩

/-! ## Whole lives -/

/-- **An item of the iteration is the next one** after those before it: the item at `place` is what
`next` returns after `collect` of that many. -/
theorem collect_getElem? {item : Output α} (most place : Nat)
    (h : (collect setup most run).1[place]? = some item) :
    (next setup (collect setup place run).2).result = item.map some ∧
      (collect setup (place + 1) run).2 = (next setup (collect setup place run).2).run := by
  -- A failure is an item too and does not end the iteration, so both kinds of items lead on.
  induction place generalizing most run with
  | zero =>
    cases most with
    | zero => exact absurd h (by simp [collect])
    | succ most =>
      rw [collect] at h
      simp only [collect]
      cases result : (next setup run).result with
      | error error =>
        rw [result] at h
        obtain rfl : .error error = item := by simpa using h
        exact ⟨rfl, rfl⟩
      | ok batch =>
        rw [result] at h
        cases batch with
        | none => exact absurd h (by simp)
        | some batch =>
          obtain rfl : .ok batch = item := by simpa using h
          exact ⟨rfl, rfl⟩
  | succ place ih =>
    cases most with
    | zero => exact absurd h (by simp [collect])
    | succ most =>
      rw [collect] at h
      rw [collect, collect]
      cases result : (next setup run).result with
      | error error =>
        rw [result] at h
        exact ih most (by simpa using h)
      | ok batch =>
        rw [result] at h
        cases batch with
        | none => exact absurd h (by simp)
        | some batch => exact ih most (by simpa using h)

namespace Life

variable {life : Life α}

/-- A cursor that was not dropped answers every call:
`life.perform call = life.performAlive call`. -/
theorem perform_of_alive (alive : life.dropped = false) (call : Call) :
    life.perform call = life.performAlive call := by
  rw [perform, alive]
  rfl

/-- A cursor that was dropped answers its handle alone, and stays as it is. -/
theorem perform_of_dropped (dropped : life.dropped = true) {call : Call}
    (closes : call ≠ .handleClose) (asks : call ≠ .handleIsClosed) :
    life.perform call = (.ok .dropped, life) := by
  simp [perform, dropped, closes, asks]

/-- **A call succeeds only if it leaves the cursor open.** If the cursor is closed in a round trip
of the call, the call fails, and then it ends as `Shut` says. -/
structure Guards (life : Life α) (call : Call) : Prop where
  isOpen : ∀ answer, (life.perform call).1 = .ok answer →
    (life.perform call).2.run.state.closed = false
  shut : life.run.state.closed = false → (life.perform call).2.run.state.closed = true →
    ∃ error, (life.perform call).1 = .error error ∧
      Shut life.setup life.run error (life.perform call).2.run

/-- A call does so if a closed cursor refuses it, and an open one is open after it or was closed in
a round trip of it. -/
theorem Guards.of_openOrShut {call : Call} {answer : β → Answer α} {outcome : Outcome α β}
    (same : life.perform call = life.after answer outcome)
    (refused : life.run.state.closed = true →
      outcome = .fail .cursorClosed (close life.setup life.run))
    (h : life.run.state.closed = false → OpenOrShut life.setup life.run outcome) :
    life.Guards call := by
  constructor
  · rintro value ok
    rw [same] at ok ⊢
    cases closed : life.run.state.closed with
    | true =>
      rw [refused closed] at ok
      exact nomatch ok
    | false =>
      cases result : outcome.result with
      | error error => simp [after, result, Except.map] at ok
      | ok value => exact (h closed).isOpen result
  · intro isOpen closed
    rw [same] at closed ⊢
    obtain still | ⟨error, failed, shut⟩ := h isOpen
    · exact absurd closed (by simp [after, still])
    · exact ⟨error, by simp [after, failed, Except.map], shut⟩

/-- **The calls that fetch until there is a batch** succeed only if they leave the cursor open:
`life.Guards call` for `hasNext`, `nextBatch` and `next`. -/
theorem guards_perform (h : Sourced life.run) (alive : life.dropped = false)
    (unfinished : life.run.state.closed = false → life.run.state.finished = false) {call : Call}
    (fetches : call = .hasNext ∨ call = .nextBatch ∨ call = .next) : life.Guards call := by
  have same := perform_of_alive alive call
  obtain rfl | rfl | rfl := fetches
  · exact .of_openOrShut same (hasNext_closed life.setup)
      fun isOpen => hasNext_openOrShut h isOpen (unfinished isOpen)
  · exact .of_openOrShut same (nextBatch_closed life.setup)
      fun isOpen => nextBatch_openOrShut h isOpen (unfinished isOpen)
  · exact .of_openOrShut same (next_closed life.setup)
      fun isOpen => next_openOrShut h isOpen (unfinished isOpen)

/-- **Items of the iteration are handed out by an open cursor**, each as the next one after those
before it. -/
theorem collect_handed (h : Sourced life.run) (alive : life.dropped = false)
    (unfinished : life.run.state.closed = false → life.run.state.finished = false)
    {most place : Nat} {results : List (Output α)} {batch : List α}
    (collected : (life.perform (.collect most)).1 = .ok (.batches results))
    (handed : results[place]? = some (.ok batch)) :
    (life.perform (.collect (place + 1))).2.run.state.closed = false := by
  rw [perform_of_alive alive] at collected ⊢
  obtain rfl : (collect life.setup most life.run).1 = results := by
    simpa [performAlive] using collected
  obtain ⟨result, after⟩ := collect_getElem? most place handed
  have path : Path life.setup life.run _ _ := collect_path h place
  have still := path.unfinished h unfinished
  show (collect life.setup (place + 1) life.run).2.state.closed = false
  rw [after]
  cases closed : (collect life.setup place life.run).2.state.closed with
  | true =>
    rw [next_closed life.setup closed] at result
    cases result
  | false => exact (next_openOrShut (path.sourced h) closed (still closed)).isOpen result

/-- **Data is handed out by an open cursor, unless it is looked for in one round trip.** A call that
fetches until there is a batch succeeds only if it leaves the cursor open, and so does every item of
the iteration. If the cursor is closed in a round trip of such a call and that round trip succeeds,
the call does the work of closing and is refused. A look in one round trip does neither: it succeeds
then, hands out what the round trip brought, and leaves the work of closing to the next call. -/
theorem handed_out_while_open (first : Reply α) (options : Options)
    (decode : Document → Except DecodeError α) (source : Option Source)
    (connection : Option Connection) (script : Script) (calls : List Call)
    (hok : (begin first options decode source connection script).1 = .ok ()) :
    let life := (performAll calls (begin first options decode source connection script).2).2
    life.dropped = false →
      (∀ call, call = .hasNext ∨ call = .nextBatch ∨ call = .next → life.Guards call) ∧
      (∀ most place results batch, (life.perform (.collect most)).1 = .ok (.batches results) →
        results[place]? = some (.ok batch) →
        (life.perform (.collect (place + 1))).2.run.state.closed = false) ∧
      ((∃ answer, (life.perform .tryNext).1 = .ok answer) ∧
          (life.perform .tryNext).2.run.state.closed = true ↔
        ClosedMeanwhile life.setup life.run) ∧
      (ClosedMeanwhile life.setup life.run →
        life.perform .tryNext =
            life.after .batch (handOver (getMore life.setup life.run).run) ∧
          (life.perform .tryNext).2.run.state.finished = false ∧
          (life.perform .hasNext).1 = .error .cursorClosed ∧
          Closes life.setup (getMore life.setup life.run).run
            (life.perform .hasNext).2.run) := by
  intro life alive
  have fresh := made_of_ok hok
  have path := performAll_path calls fresh.sourced
  have sourced : Sourced life.run := path.sourced fresh.sourced
  have unfinished : life.run.state.closed = false → life.run.state.finished = false := by
    refine path.unfinished fresh.sourced fun _ => ?_
    obtain ⟨live, state, -⟩ := fresh.state
    rw [state]
  refine ⟨fun call => guards_perform sourced alive unfinished,
    fun most place results batch => collect_handed sourced alive unfinished, ?_, ?_⟩
  · rw [perform_of_alive alive, ← tryNext_ok_closed_iff sourced]
    refine and_congr_left fun _ => ?_
    show (∃ answer, (tryNext life.setup life.run).result.map Answer.batch = .ok answer) ↔ _
    cases (tryNext life.setup life.run).result <;> simp [Except.map]
  · intro meanwhile
    obtain ⟨source, cursor, -, trip⟩ := getMore_trip life.setup sourced meanwhile.live
    have still := trip.finished_eq.trans (unfinished meanwhile.asks.isOpen)
    have given : life.perform .tryNext =
        life.after .batch (handOver (getMore life.setup life.run).run) := by
      rw [perform_of_alive alive, ← meanwhile.tryNext_eq]
      rfl
    have refused : life.perform .hasNext = life.after .flag
        (.fail .cursorClosed (close life.setup (getMore life.setup life.run).run)) := by
      rw [perform_of_alive alive, ← meanwhile.hasNext_eq]
      rfl
    rw [given, refused]
    exact ⟨rfl, still, rfl, close_closes life.setup (trip.sourced sourced) meanwhile.closed still⟩

/-- A cursor that is closed while it fetches hands out nothing when it fetches until there is a
batch. -/
theorem handed_out_while_open_fetching :
    let made := begin (Small.first [] 7) {} Small.decode (some (Small.source 3)) none
      ⟨[], [⟨(Small.turn [1] 7).response, true⟩], []⟩
    made.1 = .ok () ∧ made.2.dropped = false ∧ made.2.Guards .nextBatch ∧
      (made.2.perform .nextBatch).2.run.state.closed = true :=
  ⟨rfl, rfl, (handed_out_while_open (Small.first [] 7) {} Small.decode (some (Small.source 3)) none
    _ [] rfl rfl).1 _ (Or.inr (Or.inl rfl)), by decide⟩

/-- A look in one round trip hands out a batch although the cursor was closed while it was fetched,
and leaves the work of closing undone. -/
theorem tryNext_handed_out_when_closed :
    let made := begin (Small.first [] 7) {} Small.decode (some (Small.source 3)) none
      ⟨[], [⟨(Small.turn [1] 7).response, true⟩], []⟩
    let after := performAll [.tryNext] made.2
    made.1 = .ok () ∧ handedOut (allGiven after.1) = [[1]] ∧
      after.2.run.state.closed = true ∧ after.2.run.state.finished = false :=
  ⟨rfl, by decide, by decide, by decide⟩

end Life

end DocumentCursor.Cursor
