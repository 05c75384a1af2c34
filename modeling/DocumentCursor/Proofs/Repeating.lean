import DocumentCursor.Proofs.Retrying

/-! # Looking in one round trip again and again

A look in one round trip makes at most one, whatever state the cursor is in. Who looks so again for
as long as nothing is found and there may be more gets what the next batch would have been: the two
are written apart, one with a loop and one without, but they go the same way.

* **`tryNext_once`**: a look in one round trip asks for documents at most once.
* **`Continues`** and **`Repeats`**: looking again for as long as there may be more.
* **`Repeats.unique`** and **`repeats_nextBatch`**: looking again ends in one way, which is that of
  the next batch.
* **`tryNext_step_by_step`**: so it is in every life of a cursor.
-/

namespace DocumentCursor.Cursor

variable {α : Type} {setup : Setup α} {run : Run α} {connection : Connection} {source : Source}
  {cursor : ServerCursor} {error : CursorError}

/-! ## One round trip at most -/

/-- **At most one round trip was made** from one run to a later one: documents were asked for at
most once, and a cursor was killed at most once. An open cursor kills only after it asked, and a
closed one does not ask. -/
structure Once (run after : Run α) (work : List (Event α)) : Prop where
  events : after.events = run.events ++ work
  asked : (requests work).length ≤ 1
  killed : (kills work).length ≤ 1
  killedAfter : run.state.closed = false → (kills work).length ≤ (requests work).length
  silent : run.state.closed = true → requests work = []

/-- Where nothing happens no round trip is made: runs with the same `events` are `Once` with no
work. -/
theorem Once.of_eq {after : Run α} (same : after.events = run.events) : Once run after [] :=
  ⟨by rw [same, List.append_nil], Nat.zero_le _, Nat.zero_le _, fun _ => Nat.le_refl _,
    fun _ => rfl⟩

/-- A round trip is one: `getMore` of an open cursor is `Once`. -/
theorem getMore_once (setup : Setup α) (h : Sourced run) (live : run.state.live.isSome)
    (isOpen : run.state.closed = false) : ∃ work, Once run (getMore setup run).run work := by
  obtain ⟨source, cursor, -, -, passage⟩ := exists_passage setup h live
  have closing : run.state.closed = true → False := by simp [isOpen]
  cases passage with
  | refused unpinned result state works =>
    exact ⟨_, works.events, by simp [Event.request?], by simp, fun _ => by simp,
      fun closed => (closing closed).elim⟩
  | @made connection opening said state opens talk state_eq works =>
    -- Getting a connection and giving it up sends nothing.
    obtain ⟨unasked, unkilled⟩ := requests_of_sent?_eq opens.sent?_eq
    have settled : ∀ event ∈ (if keeps setup connection state then [] else
        [(.giveUp connection.number : Event α)]), event.sent? = none := by
      split <;> simp [Event.sent?]
    obtain ⟨unasked', unkilled'⟩ := requests_of_sent?_eq settled
    have one : (requests said).length = 1 ∧ (kills said).length ≤ 1 := by
      generalize (getMore setup run).result = result at talk
      cases talk with
      | failed received => simp [asking]
      | @taken reply received last => cases reply.cursor <;> simp [asking, Event.request?]
      | gone received names reached read => simp [asking, killing, Event.request?]
      | kept received names reached read => simp [asking, killing]
    refine ⟨_, works.events, ?_, ?_, fun _ => ?_, fun closed => (closing closed).elim⟩ <;>
      simp [unasked, unasked', unkilled, unkilled', one.1, one.2]

/-- The work of closing kills at most one cursor and asks for nothing, so `Closes` is `Once`. -/
theorem Closes.once {after : Run α} (h : Closes setup run after) : ∃ work, Once run after work := by
  obtain ⟨work, discarding, works⟩ := h.works
  have quiet : requests work = [] ∧ (kills work).length ≤ 1 := by
    cases discarding <;> simp [killing, Event.request?]
  have giveUps : ∀ event ∈ run.state.pinned.toList.map fun connection =>
      (.giveUp connection.number : Event α), event.sent? = none := by
    simp [Event.sent?]
  have release : ∀ event ∈ (if run.state.live.isSome then [(.release : Event α)] else []),
      event.sent? = none := by
    split <;> simp [Event.sent?]
  obtain ⟨unasked, unkilled⟩ := requests_of_sent?_eq giveUps
  obtain ⟨unasked', unkilled'⟩ := requests_of_sent?_eq release
  refine ⟨_, works.events, ?_, ?_, fun isOpen => absurd h.closed (by simp [isOpen]),
    fun _ => ?_⟩ <;> simp [unasked, unasked', unkilled, unkilled', quiet.1, quiet.2]

/-- **A look in one round trip makes at most one**, in every state: `tryNext` is `Once` on an open
cursor, on a closed one and on one that was closed from elsewhere. -/
theorem tryNext_once (setup : Setup α) (h : Sourced run) :
    ∃ work, Once run (tryNext setup run).run work := by
  cases closed : run.state.closed with
  | true =>
    rw [tryNext_closed setup closed]
    show ∃ work, Once run (close setup run) work
    cases finished : run.state.finished with
    | true =>
      have done : close setup run = run.markClosed := if_pos finished
      exact ⟨[], .of_eq (congrArg (·.events) done)⟩
    | false => exact (close_closes setup h closed finished).once
  | false =>
    by_cases asks : run.state.buffered = [] ∧ limitReached setup run.state = false ∧
        run.state.live.isSome
    · obtain ⟨empty, unreached, live⟩ := asks
      obtain ⟨work, once⟩ := getMore_once setup h live closed
      have events := events_tryNext ⟨h, closed, empty, unreached⟩ live
      exact ⟨work, events.trans once.events, once.asked, once.killed, once.killedAfter,
        once.silent⟩
    · rw [tryNext_idle closed asks]
      exact ⟨[], .of_eq rfl⟩

/-! ## Errors of round trips -/

/-- What is reported when a cursor is not killed is `.command` of a refusal, or `.transport` as the
connection broke. -/
theorem readKill_error {response : Response Unit}
    (failed : readKill connection response = .error error) :
    (∃ failure, error = .command failure) ∨ ∃ cause, error = .transport cause := by
  have checking {document : Document} (refused : checked document = .error error) :
      ∃ failure, error = .command failure := by
    cases found : Failure.check document with
    | ok document => simp [checked, found] at refused
    | error failure =>
      refine ⟨failure, ?_⟩
      simpa [checked, found, eq_comm] using refused
  unfold readKill at failed
  split at failed
  · cases response with
    | success value => cases failed
    | reply document =>
      cases read : checked document with
      | ok reply => simp [Response.toCommand, Except.bind, Except.map, read] at failed
      | error cause =>
        obtain rfl : cause = error := by
          simpa [Response.toCommand, Except.bind, Except.map, read] using failed
        exact Or.inl (checking read)
    | failure refusal raised =>
      rw [Response.Reports.checked (.refusal raised)] at failed
      exact Or.inl ⟨refusal, (Except.error.inj failed).symm⟩
    | broken cause => exact Or.inr ⟨cause, (Except.error.inj failed).symm⟩
  · cases response with
    | success value | reply document => cases failed
    | failure refusal raised => exact Or.inl ⟨refusal, (Except.error.inj failed).symm⟩
    | broken cause => exact Or.inr ⟨cause, (Except.error.inj failed).symm⟩

/-- A round trip that brings nothing does not say that there is no next batch: no error of `Misses`
is `.noSuchElement`. -/
theorem Misses.ne_noSuchElement (h : Misses setup source cursor run error) :
    error ≠ .noSuchElement := by
  cases h with
  | refused => simp
  | faulty connected faulty =>
    cases faulty with
    | unread unread =>
      cases unread with
      | refused commands reports =>
        unfold CursorError.ofFailure
        split <;> simp
      | broken | failed | garbled => simp
    | undecoded => simp

/-- **No round trip fails for there being no next batch**, so `.noSuchElement` of `nextBatch` always
means the end. -/
theorem getMore_ne_noSuchElement (held : run.state.source = some source)
    (names : run.state.live = some cursor) :
    (getMore setup run).result ≠ .error .noSuchElement := by
  intro failed
  obtain misses | ⟨reply, next, uncut⟩ := misses_or_uncut held names failed
  · exact misses.ne_noSuchElement rfl
  · -- All that can fail after the reply is to kill its cursor.
    obtain ⟨connection, -, refuses⟩ := uncut.refuses
    obtain ⟨failure, same⟩ | ⟨cause, same⟩ := readKill_error refuses
    · exact absurd same (by simp)
    · exact absurd same (by simp)

/-! ## Looking again and again -/

namespace Life

/-- **A look in one round trip found nothing, and there may be more**: `tryNext` gave `none`, the
server holds a cursor, and the limit is not reached. -/
structure Continues (life : Life α) : Prop where
  nothing : (life.perform .tryNext).1 = .ok (.batch none)
  live : (life.perform .tryNext).2.run.state.live.isSome
  unreached : limitReached life.setup (life.perform .tryNext).2.run.state = false

/-- **Looking in one round trip again and again**, for as long as nothing is found and there may be
more: the result of the last look, and the life after it. -/
inductive Repeats : Life α → Except CursorError (Answer α) × Life α → Prop
  | stop {life : Life α} (done : ¬life.Continues) : Repeats life (life.perform .tryNext)
  | again {life : Life α} {outcome : Except CursorError (Answer α) × Life α}
      (goes : life.Continues) (rest : Repeats (life.perform .tryNext).2 outcome) :
      Repeats life outcome

/-- Looking again and again ends in one way: `Repeats life` holds of one outcome at most. -/
theorem Repeats.unique {life : Life α} {outcome other : Except CursorError (Answer α) × Life α}
    (h : Repeats life outcome) (h' : Repeats life other) : outcome = other := by
  induction h with
  | stop done =>
    cases h' with
    | stop => rfl
    | again goes => exact absurd goes done
  | again goes rest ih =>
    cases h' with
    | stop done => exact absurd goes done
    | again _ others => exact ih others

/-- A result for which it is no error that there is no next batch: `.noSuchElement` becomes the
`none` that `tryNext` gives there. -/
def orNone : Except CursorError (Answer α) → Except CursorError (Answer α)
  | .error .noSuchElement => .ok (.batch none)
  | result => result

/-- The next batch, or none if there is none: `nextBatch` with its result by `orNone`. -/
def nextBatchOrNone (life : Life α) : Except CursorError (Answer α) × Life α :=
  (orNone (life.perform .nextBatch).1, (life.perform .nextBatch).2)

variable {life : Life α}

/-- **Where no round trip is made** a look finds the next batch, or none if there is none: `tryNext`
is `nextBatchOrNone`, and looking stops. -/
theorem tryNext_of_idle (alive : life.dropped = false) (isOpen : life.run.state.closed = false)
    (idle : ¬(life.run.state.buffered = [] ∧ limitReached life.setup life.run.state = false ∧
      life.run.state.live.isSome)) :
    life.perform .tryNext = life.nextBatchOrNone ∧ ¬life.Continues := by
  obtain ready | spent := ready_or_spent isOpen idle
  · have hands := handsOver_of_ready alive isOpen ready
    have looked := hands.takes .tryNext (by simp)
    rw [nextBatchOrNone, hands.takes .nextBatch (by simp), looked]
    refine ⟨rfl, fun goes => ?_⟩
    have nothing := goes.nothing
    rw [looked] at nothing
    exact absurd nothing (by simp)
  · have looked : life.perform .tryNext = (.ok (.batch none), life) := by
      rw [perform_of_alive alive, performAlive, spent.tryNext_eq]
      rfl
    have missed : life.perform .nextBatch = (.error .noSuchElement, life) := by
      rw [perform_of_alive alive, performAlive, spent.nextBatch_eq]
      rfl
    rw [nextBatchOrNone, looked, missed]
    refine ⟨rfl, fun goes => idle ⟨spent.empty, ?_, ?_⟩⟩
    · simpa [looked] using goes.unreached
    · simpa [looked] using goes.live

/-- **Where a round trip fails** a look fails as the next batch does, and looking stops. -/
theorem tryNext_of_failed {error : CursorError} (alive : life.dropped = false)
    (asks : Asks life.setup life.run) (live : life.run.state.live.isSome)
    (failed : (getMore life.setup life.run).result = .error error) :
    life.perform .tryNext = life.nextBatchOrNone ∧ ¬life.Continues := by
  have looked : life.perform .tryNext =
      (.error error, { life with run := (getMore life.setup life.run).run }) := by
    rw [perform_of_alive alive, performAlive, tryNext_asks asks live,
      Outcome.andThen_of_error failed]
    rfl
  have missed : life.perform .nextBatch =
      (.error error, { life with run := (getMore life.setup life.run).run }) := by
    rw [perform_of_alive alive, performAlive, nextBatch_again asks live,
      Outcome.andThen_of_error failed]
    rfl
  refine ⟨?_, fun goes => ?_⟩
  · obtain ⟨cursor, names⟩ := Option.isSome_iff_exists.mp live
    obtain ⟨source, held⟩ := Option.isSome_iff_exists.mp (asks.sourced.trans live)
    have other : error ≠ .noSuchElement := fun same =>
      getMore_ne_noSuchElement held names (same ▸ failed)
    rw [nextBatchOrNone, looked, missed, orNone]
    rintro same
    exact other (Except.error.inj same)
  · have nothing := goes.nothing
    rw [looked] at nothing
    exact absurd nothing (by simp)

/-- **Where a round trip succeeds** a look hands out what it brought, and the next batch is that
which comes then: `nextBatchOrNone` is that of the life after the round trip. -/
theorem perform_of_fetched (alive : life.dropped = false) (asks : Asks life.setup life.run)
    (live : life.run.state.live.isSome) (ok : (getMore life.setup life.run).result = .ok ()) :
    let fetched : Life α := { life with run := (getMore life.setup life.run).run }
    life.perform .tryNext = life.after .batch (handOver fetched.run) ∧
      life.nextBatchOrNone = fetched.nextBatchOrNone := by
  intro fetched
  have still : fetched.dropped = false := alive
  have next : life.perform .nextBatch = fetched.perform .nextBatch := by
    rw [perform_of_alive alive, perform_of_alive still, performAlive, performAlive,
      nextBatch_again asks live, Outcome.andThen_of_ok ok]
    rfl
  refine ⟨?_, by rw [nextBatchOrNone, nextBatchOrNone, next]⟩
  rw [perform_of_alive alive, performAlive, tryNext_asks asks live, Outcome.andThen_of_ok ok]

/-- **Looking again and again ends as the next batch does**: `Repeats life life.nextBatchOrNone`, by
induction on the round trips to come. -/
theorem repeats_nextBatch {life : Life α} (alive : life.dropped = false) (h : Sourced life.run)
    (isOpen : life.run.state.closed = false) (calm : Calm life.run.script) :
    Repeats life life.nextBatchOrNone := by
  by_cases idle : life.run.state.buffered = [] ∧ limitReached life.setup life.run.state = false ∧
      life.run.state.live.isSome
  · obtain ⟨empty, unreached, live⟩ := idle
    have asks : Asks life.setup life.run := ⟨h, isOpen, empty, unreached⟩
    cases result : (getMore life.setup life.run).result with
    | error error =>
      obtain ⟨same, stops⟩ := tryNext_of_failed alive asks live result
      rw [← same]
      exact .stop stops
    | ok value =>
      obtain ⟨looked, next⟩ := perform_of_fetched alive asks live result
      obtain ⟨sourced, -⟩ := (getMore_follows asks live).tells () result
      obtain ⟨_, _, -, trip⟩ := getMore_trip life.setup h live
      have still : (getMore life.setup life.run).run.state.closed = false :=
        (calm.closed_trip trip).trans isOpen
      let fetched : Life α := { life with run := (getMore life.setup life.run).run }
      have left : fetched.dropped = false := alive
      by_cases pending : fetched.run.state.buffered = [] ∧
          limitReached fetched.setup fetched.run.state = false ∧ fetched.run.state.live.isSome
      · -- The look found nothing, and the next batch is that of the looks to come.
        obtain ⟨nothing, below, goes⟩ := pending
        have kept : life.perform .tryNext = (.ok (.batch none), fetched) := by
          rw [looked, handOver_empty nothing]
          rfl
        have continues : life.Continues :=
          ⟨by rw [kept], by rw [kept]; exact goes, by rw [kept]; exact below⟩
        have fewer : fetched.run.tripsLeft < life.run.tripsLeft :=
          asks.tripsLeft_getMore live result
        have rest := repeats_nextBatch left sourced still (calm.trip trip)
        rw [next]
        exact .again continues (by rw [kept]; exact rest)
      · -- A look from here would make no round trip, and so it ends as this one does.
        have same : life.perform .tryNext = fetched.perform .tryNext := by
          rw [looked, perform_of_alive left, performAlive, tryNext_idle still pending]
          rfl
        obtain ⟨ends, stops⟩ := tryNext_of_idle left still pending
        rw [next, ← ends, ← same]
        refine .stop fun goes => stops ⟨?_, ?_, ?_⟩
        · rw [← same]
          exact goes.nothing
        · rw [← same]
          exact goes.live
        · rw [← same]
          exact goes.unreached
  · obtain ⟨same, stops⟩ := tryNext_of_idle alive isOpen idle
    rw [← same]
    exact .stop stops
termination_by life.run.tripsLeft

/-! ## Whole lives -/

/-- **The next batch is looked for one round trip at a time.** A look in one round trip asks for
documents at most once and kills at most one cursor, whatever state the cursor is in. On an open
cursor that nobody closes from elsewhere, looking so again for as long as nothing is found and there
may be more ends in one way: with the result of the next batch, but for an end that is no error, and
with all that the next batch leaves. -/
theorem tryNext_step_by_step (first : Reply α) (options : Options)
    (decode : Document → Except DecodeError α) (source : Option Source)
    (connection : Option Connection) (script : Script) (calls : List Call)
    (hok : (begin first options decode source connection script).1 = .ok ()) :
    let life := (performAll calls (begin first options decode source connection script).2).2
    (∃ work, Once life.run (life.perform .tryNext).2.run work) ∧
      (life.run.state.closed = false → Calm life.run.script →
        ∀ outcome, life.Repeats outcome ↔ outcome = life.nextBatchOrNone) := by
  intro life
  have fresh := made_of_ok hok
  have sourced : Sourced life.run := (performAll_path calls fresh.sourced).sourced fresh.sourced
  constructor
  · cases dropped : life.dropped with
    | true =>
      rw [perform_of_dropped dropped (by simp) (by simp)]
      exact ⟨[], .of_eq rfl⟩
    | false =>
      rw [perform_of_alive dropped]
      exact tryNext_once life.setup sourced
  · intro isOpen calm outcome
    have ends := repeats_nextBatch (alive_of_open hok calls isOpen) sourced isOpen calm
    constructor
    · exact fun repeated => repeated.unique ends
    · rintro rfl
      exact ends

/-- Two looks are made: the first finds nothing, and the second finds the batch that the next batch
is. -/
theorem tryNext_step_by_step_second :
    let life := (begin (Small.first [] 7) {} Small.decode (some (Small.source 3)) none
      ⟨[], [Small.turn [] 8, Small.turn [1] 9], []⟩).2
    let second := (life.perform .tryNext).2
    (∃ work, Once life.run second.run work) ∧
      second.perform .tryNext = life.nextBatchOrNone ∧
      (second.perform .tryNext).1 = .ok (.batch (some [1])) := by
  intro life second
  obtain ⟨once, ends⟩ := tryNext_step_by_step (Small.first [] 7) {} Small.decode
    (some (Small.source 3)) none ⟨[], [Small.turn [] 8, Small.turn [1] 9], []⟩ [] rfl
  have alike : ∀ outcome, life.Repeats outcome ↔ outcome = life.nextBatchOrNone :=
    ends rfl ⟨nofun, by decide, by decide⟩
  have found : (second.perform .tryNext).1 = .ok (.batch (some [1])) := rfl
  have stops : ¬second.Continues := fun goes => absurd (found.symm.trans goes.nothing) (by simp)
  have repeated : life.Repeats (second.perform .tryNext) :=
    .again ⟨rfl, rfl, by decide⟩ (.stop stops)
  exact ⟨once, (alike _).mp repeated, found⟩

end Life

end DocumentCursor.Cursor
