import DocumentCursor.Proofs.CallPaths

/-! # Holding on to the source

A cursor holds on to its source when it is made, and lets go of it when the server holds no cursor
any more: after the first batch, after a fetch, after a kill, or when it is closed. The two stay
paired through everything that can go wrong in between.

* **`Paired`**: the source is held on to once, and exactly as long as the server holds a cursor.
* **`Step.paired`**: every step keeps it so, and no step fails for want of a source.
* **`source_held_while_live`**: so it is in every life of a cursor.
-/

namespace DocumentCursor.Cursor

variable {α : Type} {setup : Setup α} {run after : Run α}

/-! ## Events of a step -/

/-- What holds of every event that is no `retain` holds throughout events without one:
`retains events = 0` says that there is none. -/
theorem throughout_of_retains_eq {P : List (Event α) → Event α → Prop} {events : List (Event α)}
    (h : retains events = 0) (hP : ∀ before event, event.isRetain = false → P before event) :
    Throughout P events := by
  rintro before event after rfl
  refine hP before event ?_
  rw [retains, List.countP_eq_zero] at h
  simpa using h event (by simp)

/-- **The source is not held on to in a round trip**, and it is let go of if the server holds no
cursor after it: once if `live` is none then, and not at all otherwise. -/
theorem Trip.work {source : Source} {cursor : ServerCursor} {outcome : Outcome α Unit}
    (trip : Trip setup source cursor run outcome) (hl : run.state.live = some cursor) :
    ∃ work, outcome.run.events = run.events ++ work ∧ retains work = 0 ∧
      releases work = if outcome.run.state.live.isNone then 1 else 0 := by
  cases trip with
  | refused result listed state quietly =>
    obtain ⟨work, events, quiet⟩ := quietly.events
    exact ⟨work, events, quiet.retains_eq, by simp [quiet.releases_eq, state, hl]⟩
  | failed pinned result received state exchanged =>
    -- What is sent is no release, and around it there is none either.
    obtain ⟨before, rest, events, still, quiet⟩ := exchanged.events
    refine ⟨_, events, ?_, ?_⟩
    · simp [still.retains_eq, quiet.retains_eq, Event.isRetain]
    · simp [still.releases_eq, quiet.releases_eq, Event.isRelease, state, hl]
  | brought pinned live closed received state exchanged goes cuts shuts result =>
    obtain ⟨before, rest, events, still, quiet⟩ := exchanged.events
    refine ⟨_, events, ?_, ?_⟩
    · simp [still.retains_eq, quiet.retains_eq, Event.isRetain]
    · simp [still.releases_eq, quiet.releases_eq, Event.isRelease, state]

/-! ## The invariant -/

/-- **The source is held on to once, as long as the server holds a cursor.** The counts are those of
all events so far, so that a `retain` without its `release` would show in them for good. -/
structure Paired (run : Run α) : Prop where
  sourced : run.state.source.isSome = run.state.live.isSome
  /-- It is held on to now as often as it was held on to and not let go of. -/
  held : retains run.events = releases run.events + if run.state.live.isSome then 1 else 0
  once : retains run.events ≤ 1
  /-- It is not held on to once more after it was let go of. -/
  first : Throughout (fun before event => event.isRetain = true → releases before = 0) run.events
  /-- Nothing is left to hold on to when the work of closing was done. -/
  ended : run.state.finished = true → run.state.live = none

namespace Paired

/-- The source stays paired when it is not held on to again, and let go of with the cursor: the
`balance` says that a release makes up for a cursor that ended. -/
theorem extend (h : Paired run) {work : List (Event α)} (sourced : Sourced after)
    (events : after.events = run.events ++ work) (none : retains work = 0)
    (balance : (if run.state.live.isSome then 1 else 0) =
      releases work + if after.state.live.isSome then 1 else 0)
    (ended : after.state.finished = true → after.state.live = .none) : Paired after where
  sourced := sourced
  held := by
    have held := h.held
    rw [balance] at held
    rw [events, retains_append, releases_append, none, held]
    omega
  once := by
    rw [events, retains_append, none]
    exact h.once
  first := by
    rw [events, throughout_append]
    exact ⟨h.first, throughout_of_retains_eq none fun _ _ quiet retain => by simp [quiet] at retain⟩
  ended := ended

/-- The source stays paired when nothing happens to it, whatever else of the state changes. -/
theorem keep (h : Paired run) (events : after.events = run.events)
    (source : after.state.source = run.state.source) (live : after.state.live = run.state.live)
    (finished : after.state.finished = run.state.finished) : Paired after := by
  have none : after.events = run.events ++ [] := by rw [events, List.append_nil]
  refine h.extend ?_ none rfl ?_ ?_
  · rw [Sourced, source, live]
    exact h.sourced
  · rw [live]
    simp
  · rw [finished, live]
    exact h.ended

end Paired

/-! ## Steps -/

/-- **Every step keeps the source paired**, a round trip and the work of closing included. -/
theorem Step.paired {given : List (Output α)} (h : Paired run) (step : Step setup run given after) :
    Paired after := by
  cases step with
  | shut | resize | deny | lack | hand => exact h.keep rfl rfl rfl rfl
  | fetch isOpen empty unreached live =>
    obtain ⟨source, cursor, hl, trip⟩ := getMore_trip setup h.sourced live
    obtain ⟨work, events, none, released⟩ := trip.work hl
    -- The server held a cursor before the round trip. It holds one still, or there was a release.
    refine h.extend (trip.sourced h.sourced) events none ?_ fun finished => ?_
    · rw [released, live]
      cases (getMore setup run).run.state.live <;> rfl
    · rw [trip.finished_eq] at finished
      exact absurd (h.ended finished) (by simp [hl])
  | finish closed unfinished =>
    have state := finish_state setup h.sourced closed
    obtain ⟨work, events, quiet⟩ := (finish_quietly setup h.sourced).events
    refine h.extend ?_ events quiet.retains_eq ?_ fun _ => by rw [state]
    · rw [Sourced, state]
      rfl
    · rw [quiet.releases_eq, state, h.sourced]
      rfl

/-- **No step fails for want of a source**: `.missingConnectionSource` is not among what a step
gives to the caller, since a round trip is made only while the server holds a cursor. -/
theorem Step.ne_missing {given : List (Output α)} (h : Sourced run)
    (step : Step setup run given after) : .error .missingConnectionSource ∉ given := by
  cases step with
  | shut | resize | finish => exact List.not_mem_nil
  | deny | lack => simp [CursorError.cursorClosed]
  | hand => simp
  | fetch isOpen empty unreached live =>
    obtain ⟨source, cursor, -, trip⟩ := getMore_trip setup h live
    have named := trip.ne_missing
    cases hr : (getMore setup run).result with
    | error error =>
      intro listed
      simp only [failures, outputs, List.mem_singleton, Except.error.injEq] at listed
      exact named (by rw [hr, listed])
    | ok value => exact List.not_mem_nil

/-! ## Whole lives -/

/-- A cursor that was just made holds on to its source as long as the server holds a cursor: it was
held on to once, and let go of if the first batch was all there is. -/
theorem Made.paired {batchSize : Int32} {first : Reply α} {source : Option Source}
    {script : Script} (h : Made setup batchSize first source script run) : Paired run := by
  obtain ⟨live, state, -⟩ := h.state
  obtain ⟨work, events, quiet⟩ := h.quietly.events
  have sourced := h.sourced
  rw [events_absorb] at events
  have retained : retains run.events = if source.isSome then 1 else 0 := by
    rw [events]
    cases source <;> simp [started, quiet.retains_eq, Event.isRetain]
  have released :
      releases run.events = if run.state.live.isNone && source.isSome then 1 else 0 := by
    rw [events]
    cases source <;> simp [started, quiet.releases_eq, Event.isRelease]
  refine ⟨sourced, ?_, ?_, ?_, by simp [state]⟩
  · -- A source is held on to when there is one, and let go of when the first batch is the last.
    rw [retained, released]
    rw [Sourced, state] at sourced
    rw [state]
    cases source <;> cases live <;> simp_all
  · rw [retained]
    split <;> omega
  · rw [events, throughout_append]
    refine ⟨by cases source <;> simp [started, Event.isRetain], ?_⟩
    refine throughout_of_retains_eq quiet.retains_eq fun _ _ other retain => ?_
    simp [other] at retain

/-- Along a path the source stays paired, and nothing fails for want of it. -/
theorem Path.paired {given : List (Output α)} (h : Paired run) (path : Path setup run given after) :
    Paired after ∧ .error .missingConnectionSource ∉ given := by
  induction path with
  | nil run => exact ⟨h, List.not_mem_nil⟩
  | cons step rest ih =>
    have rest := ih (step.paired h)
    exact ⟨rest.1, by simpa using ⟨step.ne_missing h.sourced, rest.2⟩⟩

namespace Life

/-- **The source is held on to exactly while the server holds a cursor**, over the whole life of a
cursor and whatever happens in it. It is held on to at most once, and not at all when the cursor
cannot be made. It has been let go of when the cursor is dropped: `retains` and `releases` are the
same then. No call fails for want of it. -/
theorem source_held_while_live (first : Reply α) (options : Options)
    (decode : Document → Except DecodeError α) (source : Option Source)
    (connection : Option Connection) (script : Script) (calls : List Call) :
    let made := begin first options decode source connection script
    let after := performAll calls made.2
    match made.1 with
    | .error _ => retains made.2.run.events = 0
    | .ok () =>
      Paired after.2.run ∧
        (.drop ∈ calls → retains after.2.run.events = releases after.2.run.events) ∧
        .error .missingConnectionSource ∉ allGiven after.1 := by
  intro made after
  obtain ⟨⟨error, failed⟩, quiet⟩ | ⟨ok, fresh⟩ :=
    begin_made first options decode source connection script
  · rw [show made.1 = .error error from failed]
    exact quiet.retains_eq
  · rw [show made.1 = .ok () from ok]
    have path := performAll_path calls fresh.sourced
    obtain ⟨paired, named⟩ := path.paired fresh.paired
    refine ⟨paired, fun drop => ?_, named⟩
    have finished := finished_of_dropped calls fresh.sourced nofun drop
    rw [paired.held, paired.ended finished]
    rfl

end Life

end DocumentCursor.Cursor
