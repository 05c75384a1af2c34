import DocumentCursor.Proofs.RoundTripReplies
import DocumentCursor.Proofs.Leasing

/-! # Trying again

A round trip that fails before its reply is taken over leaves no trace: the next look for a batch
asks for the same again. Once a reply was taken over only one thing can fail, which is to kill the
server's cursor when the limit is reached; then the batch is there, and the next look hands it out
without a round trip.

* **`Untouched`**: what is left after a round trip that brought nothing.
* **`Uncut`**: a reply reaches the limit, but its cursor cannot be killed.
* **`FailsIn`**: every call that looks for data fails by the round trip that fails in it.
* **`Retries`** and **`HandsOver`**: what the next call does then.
* **`failed_fetch_leaves_no_trace`**: so it is in every life of a cursor.
-/

namespace DocumentCursor.Cursor

variable {α : Type} {setup : Setup α} {run last after : Run α} {connection : Connection}
  {source : Source} {cursor next : ServerCursor} {error : CursorError} {reply : Reply α}

/-! ## Round trips that bring nothing -/

/-- **Nothing has changed** but that a connection may be kept now. No reply was taken over, nothing
was killed, and the source was neither held on to nor let go of. A connection that was kept is still
the one that is kept. -/
structure Untouched (run after : Run α) : Prop where
  state : after.state = { run.state with pinned := after.state.pinned }
  pinned : run.state.pinned.isSome → after.state.pinned = run.state.pinned
  unheard : accepted after.events = accepted run.events
  unkilled : kills after.events = kills run.events
  unheld : retains after.events = retains run.events
  unreleased : releases after.events = releases run.events

/-- The connection that is kept, if there is one, may be kept after a round trip: the cursor is set
to `exhaust` and the connection supports it. -/
def Pinnable (setup : Setup α) (run : Run α) : Prop :=
  ∀ connection, run.state.pinned = some connection →
    setup.exhaust = true ∧ connection.capability.supportsExhaust = true

/-- A connection that is kept was kept because it may be: `Leased` gives `Pinnable`. -/
theorem Leased.pinnable {origin : Option Source} {grants : List Grant}
    (h : Leased setup origin grants run) : Pinnable setup run := by
  intro kept pinned
  obtain ⟨-, exhausts, supports, -⟩ := h.kept kept pinned
  exact ⟨exhausts, supports⟩

/-- **A round trip that brings nothing** leaves everything as it was: `Misses` gives `Untouched` of
the run after `getMore`. -/
theorem untouched_of_misses (held : run.state.source = some source)
    (names : run.state.live = some cursor) (calm : Calm run.script)
    (pinnable : Pinnable setup run) (misses : Misses setup source cursor run error) :
    Untouched run (getMore setup run).run := by
  cases misses with
  | refused unpinned refuses =>
    have refused := (connect_eq_error_iff held).mpr ⟨unpinned, _, _, _, rfl, refuses⟩
    rw [getMore_refused setup held refused]
    refine ⟨by simp [calm.nextGrant], fun _ => rfl, ?_, ?_, ?_, ?_⟩ <;>
      simp [Event.accepted?, Event.isRetain, Event.isRelease]
  | @faulty connection _ connected faulty =>
    obtain ⟨opening, said, state, opens, talk, state_eq, events⟩ :=
      getMore_said setup held names connected
    have nothing := receive_eq_error_iff.mpr faulty
    generalize (getMore setup run).result = result at talk
    cases talk with
    | failed received =>
      have heard_eq : heard setup run = { run.state with pinned := none } := by
        simp [heard, calm.tripCloses]
      refine ⟨?_, ?_, ?_, ?_, ?_, ?_⟩
      · rw [state_eq, heard_eq]
      · -- The connection that was kept is the one that was got, and it is kept again.
        intro some
        obtain ⟨kept, pinned⟩ := Option.isSome_iff_exists.mp some
        obtain ⟨exhausts, supports⟩ := pinnable kept pinned
        have same : (connect run).result = .ok kept := by rw [connect, pinned]; rfl
        obtain rfl := Except.ok.inj (same.symm.trans connected)
        rw [state_eq, heard_eq, pinned]
        simp [keeps, exhausts, supports, names]
      all_goals
        rw [events]
        cases opens <;> split <;>
          simp [asking, Event.accepted?, Event.isRetain, Event.isRelease]
    | taken received => exact absurd (received.symm.trans nothing) (by simp)
    | gone received => exact absurd (received.symm.trans nothing) (by simp)
    | kept received => exact absurd (received.symm.trans nothing) (by simp)

/-! ## Replies whose cursor cannot be killed -/

/-- **A reply reaches the limit, but its cursor cannot be killed.** It is taken over all the same,
and `refuses` says why the kill failed. -/
structure Uncut (setup : Setup α) (source : Source) (cursor : ServerCursor) (run : Run α)
    (reply : Reply α) (next : ServerCursor) (error : CursorError) : Prop where
  brought : brings setup source cursor run = .ok reply
  further : reply.cursor = some next
  reached : limitReached setup (absorb reply run).state = true
  refuses : ∃ connection, (connect run).result = .ok connection ∧
    readKill connection run.killTurn.response = .error error

/-- **A round trip whose reply cannot be cut off fails**, but the reply was taken over: its
documents are buffered and counted, and `live` is its cursor. -/
theorem state_of_uncut (held : run.state.source = some source)
    (names : run.state.live = some cursor) (calm : Calm run.script)
    (uncut : Uncut setup source cursor run reply next error) :
    (getMore setup run).result = .error error ∧
      (getMore setup run).run.state = { run.state with
        live := some next
        count := Saturating.add run.state.count (Saturating.clamp reply.documents.length)
        buffered := reply.documents
        pinned := (getMore setup run).run.state.pinned } := by
  obtain ⟨connection, connected, refuses⟩ := uncut.refuses
  obtain ⟨result, -, -, state⟩ :=
    state_of_cut held names calm connected uncut.brought uncut.further uncut.reached
  exact ⟨result.trans refuses, state error refuses⟩

/-- **A round trip fails in no other way**: an error of `getMore` comes by `Misses` or by
`Uncut`. -/
theorem misses_or_uncut (held : run.state.source = some source)
    (names : run.state.live = some cursor) (failed : (getMore setup run).result = .error error) :
    Misses setup source cursor run error ∨
      ∃ reply next, Uncut setup source cursor run reply next error := by
  cases brought : brings setup source cursor run with
  | error cause =>
    obtain rfl := Except.error.inj (failed.symm.trans (result_of_missed held names brought))
    exact Or.inl ((brings_eq_error_iff held).mp brought)
  | ok reply =>
    obtain ⟨connection, connected, received⟩ := brings_eq_ok_iff.mp brought
    obtain ⟨opening, said, state, opens, talk, -⟩ := getMore_said setup held names connected
    rw [failed] at talk
    cases talk with
    | failed nothing => exact absurd (received.symm.trans nothing) (by simp)
    | kept again further reached read =>
      obtain rfl := Except.ok.inj (received.symm.trans again)
      exact Or.inr ⟨_, _, brought, further, (limitReached_congr rfl).trans reached, connection,
        connected, read⟩

/-! ## Looking again -/

/-- Round trips that brought nothing are a path: `Skips` is a `Path` on which no documents were
taken. -/
theorem Skips.path (h : Skips setup run last) (asks : Asks setup run) :
    Path setup run [] last := by
  induction h with
  | nil => exact .nil _
  | @cons run last live ok isOpen empty rest ih =>
    have step : Step setup run (failures (getMore setup run).result) (getMore setup run).run :=
      .fetch asks.isOpen asks.empty asks.unreached live
    rw [ok] at step
    exact .cons step (ih (Skips.asks (.cons live ok isOpen empty (.nil _)) asks))

/-- What round trips leave of a script is as calm as the script: `Skips` keeps `Calm`. -/
theorem Skips.calm (h : Skips setup run last) (asks : Asks setup run) (calm : Calm run.script) :
    Calm last.script := by
  induction h with
  | nil => exact calm
  | cons live ok isOpen empty rest ih =>
    obtain ⟨_, _, -, trip⟩ := getMore_trip setup asks.sourced live
    exact ih (Skips.asks (.cons live ok isOpen empty (.nil _)) asks) (calm.trip trip)

/-- What a round trip does is done by every call that makes it first: the events of `getMore` are a
prefix of those after it and `rest`. -/
theorem getMore_grows {β : Type} {rest : Run α → Outcome α β} (asks : Asks setup run)
    (live : run.state.live.isSome)
    (grows : ∀ run, Sourced run → run.events <+: (rest run).run.events) :
    (getMore setup run).run.events <+:
      ((getMore setup run).andThen fun _ run => rest run).run.events := by
  cases result : (getMore setup run).result with
  | error error =>
    rw [Outcome.andThen_of_error result]
    exact List.prefix_rfl
  | ok value =>
    rw [Outcome.andThen_of_ok result]
    obtain ⟨sourced, -⟩ := (getMore_follows asks live).tells () result
    exact grows _ sourced

/-- What a round trip does is done when a batch is looked for, by `hasNext_again`. -/
theorem hasNext_grows (asks : Asks setup run) (live : run.state.live.isSome) :
    (getMore setup run).run.events <+: (hasNext setup run).run.events := by
  rw [hasNext_again asks live]
  exact getMore_grows asks live fun run sourced =>
    (hasNext_follows setup sourced).path.grows sourced

/-- Where a round trip is made on a connection, it asks for documents there: `requests` grows by one
`fetchRequest`, whatever is read then. -/
theorem requests_getMore (held : run.state.source = some source)
    (names : run.state.live = some cursor) (connected : (connect run).result = .ok connection) :
    requests (getMore setup run).run.events =
      requests run.events ++ [fetchRequest setup connection source cursor run.state] := by
  rw [requests_eq_reduceOption, attempts_getMore setup held names, List.reduceOption_append,
    ← requests_eq_reduceOption, attempt, connected]
  rfl

namespace Life

variable {life : Life α}

/-- **Every call that looks for data fails by a round trip that fails in it**, and leaves what that
leaves. A look in one round trip does so if that is the first. -/
structure FailsIn (life : Life α) (last : Run α) (error : CursorError) : Prop where
  looks : ∀ call, call = .hasNext ∨ call = .nextBatch ∨ call = .next →
    life.perform call = (.error error, { life with run := (getMore life.setup last).run })
  tries : last = life.run →
    life.perform .tryNext = (.error error, { life with run := (getMore life.setup last).run })

/-- **The next look asks for the same**: for more of the same cursor, and for as many documents as
the state says, if there is a connection to be had. -/
structure Retries (life : Life α) (source : Source) (cursor : ServerCursor) (state : State α) :
    Prop where
  looks : ∀ connection, (connect life.run).result = .ok connection → ∃ more,
    requests (life.perform .hasNext).2.run.events = requests life.run.events ++
      fetchRequest life.setup connection source cursor state :: more
  tries : ∀ connection, (connect life.run).result = .ok connection →
    requests (life.perform .tryNext).2.run.events = requests life.run.events ++
      [fetchRequest life.setup connection source cursor state]

/-- **A batch is there**, and every call that looks for data finds it. Nothing happens then. -/
structure HandsOver (life : Life α) (documents : List α) : Prop where
  looks : life.perform .hasNext = (.ok (.flag true), life)
  takes : ∀ call, call = .nextBatch ∨ call = .tryNext ∨ call = .next →
    life.perform call = (.ok (.batch (some documents)),
      { life with run := life.run.modify fun state => { state with buffered := [] } })

/-- Every call that looks for data fails by the first round trip that fails in it: `FailsIn` after
any `Skips`. -/
theorem failsIn_of_failed (alive : life.dropped = false) (asks : Asks life.setup life.run)
    (skips : Skips life.setup life.run last) (live : last.state.live.isSome)
    (failed : (getMore life.setup last).result = .error error) : life.FailsIn last error := by
  have looked : hasNext life.setup life.run = .fail error (getMore life.setup last).run := by
    rw [skips.hasNext_eq asks, hasNext_again (skips.asks asks) live,
      Outcome.andThen_of_error failed]
  constructor
  · intro call looks
    rw [perform_of_alive alive]
    obtain rfl | rfl | rfl := looks
    · rw [performAlive, looked]
      rfl
    · rw [performAlive, nextBatch, looked]
      rfl
    · rw [performAlive, Cursor.next, looked]
      rfl
  · rintro rfl
    rw [perform_of_alive alive, performAlive, tryNext_asks asks live,
      Outcome.andThen_of_error failed]
    rfl

/-- A cursor from which more would be asked for asks for that: `Asks` gives `Retries` of its own
state. -/
theorem retries_of_asks (alive : life.dropped = false) (asks : Asks life.setup life.run)
    (held : life.run.state.source = some source) (names : life.run.state.live = some cursor) :
    life.Retries source cursor life.run.state := by
  have live : life.run.state.live.isSome := by rw [names]; rfl
  constructor
  · intro connection connected
    obtain ⟨work, events⟩ := hasNext_grows asks live
    refine ⟨requests work, ?_⟩
    rw [perform_of_alive alive]
    show requests (hasNext life.setup life.run).run.events = _
    rw [← events, requests_append, requests_getMore held names connected, List.append_assoc]
    rfl
  · intro connection connected
    rw [perform_of_alive alive, ← requests_getMore held names connected]
    show requests (tryNext life.setup life.run).run.events = _
    rw [events_tryNext asks live]

/-- A batch that is there is handed out: `HandsOver` of `buffered`, if the cursor is open. -/
theorem handsOver_of_ready (alive : life.dropped = false) (isOpen : life.run.state.closed = false)
    (ready : life.run.state.buffered ≠ []) : life.HandsOver life.run.state.buffered := by
  have looked := hasNext_ready life.setup isOpen ready
  have taken := nextBatch_ready life.setup isOpen ready
  constructor
  · rw [perform_of_alive alive, performAlive, looked]
    rfl
  · intro call takes
    rw [perform_of_alive alive]
    obtain rfl | rfl | rfl := takes
    · rw [performAlive, taken]
      rfl
    · rw [performAlive, tryNext_idle isOpen (fun h => ready h.1), handOver,
        if_neg (by simpa using ready)]
      rfl
    · rw [performAlive, Cursor.next, looked, Outcome.andThen_pure, if_pos rfl, taken]
      rfl

/-- **The next look after a round trip that brought nothing asks for the same**: `Untouched` keeps
all that `fetchRequest` reads. -/
theorem retries_of_untouched {failed : Life α} (alive : failed.dropped = false)
    (here : Asks failed.setup last) (held : last.state.source = some source)
    (names : last.state.live = some cursor) (untouched : Untouched last failed.run) :
    failed.Retries source cursor last.state := by
  -- What decides about the next look is as it was.
  have state := untouched.state
  have again : Asks failed.setup failed.run := by
    refine ⟨?_, ?_, ?_, ?_⟩
    · rw [Sourced, state]
      exact here.sourced
    · rw [state]
      exact here.isOpen
    · rw [state]
      exact here.empty
    · exact (limitReached_congr (by rw [state])).trans here.unreached
  have retries : failed.Retries source cursor failed.run.state :=
    retries_of_asks alive again (by rw [state]; exact held) (by rw [state]; exact names)
  rw [state] at retries
  exact ⟨retries.looks, retries.tries⟩

/-- **The next call after a reply that cannot be cut off hands out its batch**, which is not empty
since it reached the limit. -/
theorem handsOver_of_uncut {failed : Life α} (alive : failed.dropped = false)
    (here : Asks failed.setup last)
    (uncut : Uncut failed.setup source cursor last reply next error)
    (state : failed.run.state = { last.state with
      live := some next
      count := Saturating.add last.state.count (Saturating.clamp reply.documents.length)
      buffered := reply.documents
      pinned := failed.run.state.pinned }) : failed.HandsOver reply.documents := by
  -- An empty batch counts nothing, and so it does not reach the limit.
  have ready : reply.documents ≠ [] := fun none => by
    have unreached := unreached_of_empty here.unreached none
    exact absurd (uncut.reached.symm.trans unreached) (by simp)
  have hands : failed.HandsOver failed.run.state.buffered :=
    handsOver_of_ready alive (by rw [state]; exact here.isOpen) (by rw [state]; exact ready)
  rw [state] at hands
  exact hands

/-- **A failed round trip leaves no trace.** Whatever round trip of a call fails before its reply is
taken over, in whatever way, the call fails by its error, everything is as it was before it but that
a connection may be kept, and the next look asks for the same again if it gets a connection. A round
trip fails in one other way only: its reply reaches the limit, but the cursor cannot be killed. Then
the reply is taken over, its cursor stays, and the next call hands out the batch and does nothing
else. -/
theorem failed_fetch_leaves_no_trace (first : Reply α) (options : Options)
    (decode : Document → Except DecodeError α) (source : Option Source)
    (connection : Option Connection) (script : Script) (calls : List Call)
    (hok : (begin first options decode source connection script).1 = .ok ()) :
    let life := (performAll calls (begin first options decode source connection script).2).2
    life.run.state.closed = false → life.run.state.buffered = [] →
      limitReached life.setup life.run.state = false → Calm life.run.script →
      ∀ last cursor, Skips life.setup life.run last → last.state.live = some cursor →
        let failed : Life α := { life with run := (getMore life.setup last).run }
        ∃ source, last.state.source = some source ∧
          (∀ error, Misses life.setup source cursor last error →
            life.FailsIn last error ∧ Untouched last failed.run ∧
              failed.Retries source cursor last.state) ∧
          (∀ error reply next, Uncut life.setup source cursor last reply next error →
            life.FailsIn last error ∧
              failed.run.state = { last.state with
                live := some next
                count := Saturating.add last.state.count
                  (Saturating.clamp reply.documents.length)
                buffered := reply.documents
                pinned := failed.run.state.pinned } ∧
              failed.HandsOver reply.documents) ∧
          ∀ error, (getMore life.setup last).result = .error error →
            Misses life.setup source cursor last error ∨
              ∃ reply next, Uncut life.setup source cursor last reply next error := by
  intro life isOpen empty unreached calm last cursor skips names failed
  have alive : life.dropped = false := alive_of_open hok calls isOpen
  have fresh := made_of_ok hok
  have lived := performAll_path calls fresh.sourced
  have asks : Asks life.setup life.run := ⟨lived.sourced fresh.sourced, isOpen, empty, unreached⟩
  have live : last.state.live.isSome := by rw [names]; rfl
  have here := skips.asks asks
  have still := skips.calm asks calm
  obtain ⟨source, held⟩ := Option.isSome_iff_exists.mp (here.sourced.trans live)
  have pinnable : Pinnable life.setup last := by
    have same : life.setup = Setup.of first options decode := setup_performAll calls _
    have path := lived.trans (same ▸ skips.path asks)
    exact same ▸ (path.leased fresh.delivery (begin_leased hok)).pinnable
  have fails {error : CursorError} (result : (getMore life.setup last).result = .error error) :
      life.FailsIn last error := failsIn_of_failed alive asks skips live result
  refine ⟨source, held, fun error misses => ?_, fun error reply next uncut => ?_,
    fun error => misses_or_uncut held names⟩
  · have untouched := untouched_of_misses held names still pinnable misses
    exact ⟨fails (result_of_missed held names ((brings_eq_error_iff held).mpr misses)), untouched,
      retries_of_untouched alive here held names untouched⟩
  · obtain ⟨result, state⟩ := state_of_uncut held names still uncut
    exact ⟨fails result, state, handsOver_of_uncut alive here uncut state⟩

/-- The second document of a batch is not decoded. The call fails, and the next one asks for the
same again. -/
theorem failed_fetch_leaves_no_trace_undecoded :
    let turns := [Small.turn [1, 0] 8, Small.turn [1] 0]
    let life := (begin (Small.first [] 7) {} Small.decode (some (Small.source 3)) none
      ⟨[], turns, []⟩).2
    let error : CursorError := .decode (DecodeError.missingField "x").message
    let failed : Life Nat := { life with run := (getMore life.setup life.run).run }
    life.perform .hasNext = (.error error, failed) ∧ Untouched life.run failed.run ∧
      ∃ more, requests (failed.perform .hasNext).2.run.events =
        .getMore Small.ns 7 0 :: .getMore Small.ns 7 0 :: more := by
  intro turns life error failed
  obtain ⟨source, held, missed, -⟩ := failed_fetch_leaves_no_trace (Small.first [] 7) {}
    Small.decode (some (Small.source 3)) none ⟨[], turns, []⟩ [] rfl rfl rfl (by decide)
    ⟨nofun, by decide, nofun⟩ life.run ⟨7, Small.ns, by decide⟩ (.nil _) rfl
  obtain rfl : Small.source 3 = source := Option.some.inj held
  obtain ⟨fails, untouched, retries⟩ := missed error ((brings_eq_error_iff rfl).mp rfl)
  have again : failed.Retries (Small.source 3) ⟨7, Small.ns, by decide⟩ life.run.state := retries
  obtain ⟨more, asked⟩ := again.looks ⟨2, 3⟩ rfl
  have before : requests failed.run.events = [.getMore Small.ns 7 0] := rfl
  refine ⟨fails.looks _ (Or.inl rfl), untouched, more, ?_⟩
  rw [asked, before]
  rfl

end Life

end DocumentCursor.Cursor
