import DocumentCursor.Proofs.QuietStretches

/-! # What a round trip leaves behind

The cases of `Round` say step by step what a round trip does. Most properties of runs need less: the
state after it, and of its events only the request for documents and the reply that was taken over.

* **`Trip`**: a round trip found no connection, or failed, or brought a reply.
* **`getMore_trip`**: every round trip goes so while the source is held.
-/

namespace DocumentCursor.Cursor

open Net

variable {α : Type} {setup : Setup α} {connection : Connection} {source : Source}
  {cursor : ServerCursor} {run : Run α}

/-- **The source is held exactly as long as the server holds a cursor**: `source` and `live` are
there together, or neither is. -/
def Sourced (run : Run α) : Prop := run.state.source.isSome = run.state.live.isSome

/-! ## Round trips -/

/-- A connection is opened quietly, be it one that was kept or a new one. -/
theorem Opened.quietly {opened : Run α} (h : Opened run connection opened) :
    Quietly 0 run opened := by
  cases h with
  | kept pinned => exact .modify _ _
  | made unpinned => exact .granted run

/-- **What a round trip leaves behind.** Of the state all is said; of the events, only what is not
quiet: the request for documents, and the reply that was taken over. -/
inductive Trip (setup : Setup α) (source : Source) (cursor : ServerCursor) (run : Run α) :
    Outcome α Unit → Prop
  /-- There was no connection to be had. -/
  | refused {outcome : Outcome α Unit} {error : TransportError} {closes : Bool}
      (result : outcome.result = .error (.transport error))
      (listed : .refused error closes ∈ run.script.grants)
      (state : outcome.run.state =
        { run.state with closed := run.state.closed || run.openingCloses })
      (quietly : Quietly 0 run outcome.run) :
      Trip setup source cursor run outcome
  /-- Documents were asked for, but none were received. -/
  | failed {outcome : Outcome α Unit} {error : CursorError} {connection : Connection}
      (pinned : Option Connection)
      (result : outcome.result = .error error)
      (received : receive setup connection source cursor (run.fetchTurn setup.ns).response =
        .error error)
      (state : outcome.run.state = { run.state with
        closed := run.state.closed || run.tripCloses setup.ns, pinned })
      (exchanged : Exchanged 0
        [.send connection.number (fetchRequest setup connection source cursor run.state)]
        run outcome.run) :
      Trip setup source cursor run outcome
  /-- A reply was taken over. When it reaches the limit its cursor is killed, and it is an error if
  that fails. The source is held on to as long as the server holds a cursor then. -/
  | brought {outcome : Outcome α Unit} {connection : Connection} {reply : Reply α}
      (pinned : Option Connection) (live : Option ServerCursor) (closed : Bool)
      (received : receive setup connection source cursor (run.fetchTurn setup.ns).response =
        .ok reply)
      (state : outcome.run.state = { run.state with
        source := if live.isNone then none else some source
        live
        buffered := reply.documents
        count := Saturating.add run.state.count (Saturating.clamp reply.documents.length)
        closed := run.state.closed || run.tripCloses setup.ns || closed
        pinned })
      (exchanged : Exchanged (if live.isNone then 1 else 0)
        [.send connection.number (fetchRequest setup connection source cursor run.state),
          .accept reply.documents reply.cursor]
        run outcome.run)
      (goes : live = reply.cursor ∨ live = none ∧ limitReached setup outcome.run.state = true)
      (cuts : limitReached setup outcome.run.state = true → outcome.result = .ok () → live = none)
      (shuts : closed = true → run.killTurn.closes = true)
      (result : outcome.result = .ok () ∨ limitReached setup outcome.run.state = true ∧
        ∃ error, outcome.result = .error error ∧
          readKill connection run.killTurn.response = .error error) :
      Trip setup source cursor run outcome

/-- `limitReached setup state` is a matter of `state.count` alone. -/
theorem limitReached_congr {state other : State α} (h : state.count = other.count) :
    limitReached setup state = limitReached setup other := by
  unfold limitReached
  rw [h]

/-- `opened.fetchTurn ns = run.fetchTurn ns`: no answer to a fetch is used up while a connection is
opened. -/
theorem Opened.fetchTurn {opened : Run α} (h : Opened run connection opened) (ns : Namespace) :
    opened.fetchTurn ns = run.fetchTurn ns := by
  unfold Run.fetchTurn
  rw [h.quietly.fetches]

/-- `opened.killTurn = run.killTurn`: and no answer to a kill. -/
theorem Opened.killTurn {opened : Run α} (h : Opened run connection opened) :
    opened.killTurn = run.killTurn := by
  cases h <;> rfl

/-- What becomes of a connection after a fetch changes nothing of the state but `pinned`. -/
theorem exists_state_settle (setup : Setup α) (connection : Connection) (run : Run α) :
    ∃ pinned, (settle setup connection run).state = { run.state with pinned } :=
  ⟨_, state_settle setup connection run⟩

/-- A fetch that fails on a connection that was opened exchanges one event, the request for
documents, whatever quiet events end the round trip. -/
theorem Opened.asked {opened after : Run α} (h : Opened run connection opened)
    (closing : Quietly 0 (askFetch setup connection source cursor opened) after) :
    Exchanged 0 [.send connection.number (fetchRequest setup connection source cursor run.state)]
      run after := by
  refine h.quietly.exchanged ?_ rfl closing
  rw [events_askFetch, h.state_eq]
  rfl

/-- A fetch that brings a reply on a connection that was opened exchanges two events: the request
for documents and the `accept` of the reply. -/
theorem Opened.absorbed {n : Nat} {opened after : Run α} {reply : Reply α}
    (h : Opened run connection opened)
    (closing : Quietly n (absorb reply (askFetch setup connection source cursor opened)) after) :
    Exchanged n
      [.send connection.number (fetchRequest setup connection source cursor run.state),
        .accept reply.documents reply.cursor] run after := by
  refine h.quietly.exchanged ?_ rfl closing
  rw [events_absorb, events_askFetch, h.state_eq, List.append_assoc]
  rfl

/-- A fetch whose reply reaches the limit is a trip, whether the kill succeeds or fails: the reply
was taken over before that, and only the cursor and the result depend on the kill. -/
theorem Killed.trip {opened : Run α} {reply : Reply α} {next : ServerCursor}
    {outcome : Outcome α Unit} (connected : Opened run connection opened)
    (hs : run.state.source = some source)
    (received : receive setup connection source cursor (run.fetchTurn setup.ns).response =
      .ok reply)
    (names : reply.cursor = some next)
    (reached : limitReached setup
      (absorb reply (askFetch setup connection source cursor opened)).state = true)
    (killed : Killed setup connection source next
      (absorb reply (askFetch setup connection source cursor opened)) outcome) :
    Trip setup source cursor run
      ((outcome.andThen fun _ run => .pure () (releaseIfExhausted run)).always
        (settle setup connection)) := by
  have unpinned := connected.state_eq
  have turn := connected.fetchTurn setup.ns
  have killTurn : (absorb reply (askFetch setup connection source cursor opened)).killTurn =
      run.killTurn := connected.killTurn
  have quiet := killed.quietly
  obtain ⟨live, state, ended⟩ := killed.state
  rw [killTurn] at state ended
  obtain ⟨result, after⟩ := outcome
  simp only at state ended quiet
  -- The kill counts nothing, so the limit is reached as it was before the kill.
  have count : after.state.count =
      (absorb reply (askFetch setup connection source cursor opened)).state.count := by
    rw [state]
  rw [limitReached_congr count.symm] at reached
  obtain ⟨rfl, rfl⟩ | ⟨rfl, error, rfl, read⟩ := ended
  · obtain ⟨pinned, settled⟩ :=
      exists_state_settle setup connection (releaseIfExhausted after)
    have released := Quietly.releaseIfExhausted after
    simp only [state, state_absorb, state_askFetch, unpinned, hs, Option.isSome_some,
      Option.isNone_none, Bool.and_true, if_true] at released
    refine .brought pinned none run.killTurn.closes received ?_
      (connected.absorbed ((quiet.zero_trans released).trans_zero (.settle _ _ _)))
      (Or.inr ⟨rfl, ?_⟩) (fun _ _ => rfl) id (Or.inl rfl)
    · show (settle setup connection (releaseIfExhausted after)).state = _
      rw [settled]
      simp [state, unpinned, turn, hs, Run.tripCloses, Bool.or_assoc]
    · show limitReached setup (settle setup connection (releaseIfExhausted after)).state = true
      rw [← reached, settled]
      exact limitReached_congr (by simp)
  · obtain ⟨pinned, settled⟩ := exists_state_settle setup connection after
    refine .brought pinned reply.cursor run.killTurn.closes received ?_ ?_ (Or.inl rfl)
      (fun _ ok => absurd ok (by simp [Outcome.andThen])) id (Or.inr ⟨?_, error, rfl, read⟩)
    · show (settle setup connection after).state = _
      rw [settled]
      simp [state, unpinned, turn, hs, names, Run.tripCloses, Bool.or_assoc]
    · rw [if_neg (by simp [names])]
      exact connected.absorbed (quiet.trans_zero (.settle _ _ _))
    · show limitReached setup (settle setup connection after).state = true
      rw [← reached, settled]
      exact limitReached_congr rfl

/-- A fetch on a connection that was opened, followed by `settle`, is a trip in each of the cases of
`Fetched`. -/
theorem Fetched.trip {opened : Run α} {outcome : Outcome α Unit}
    (connected : Opened run connection opened) (hs : run.state.source = some source)
    (h : Fetched setup connection source cursor opened outcome) :
    Trip setup source cursor run (outcome.always (settle setup connection)) := by
  have unpinned := connected.state_eq
  have turn := connected.fetchTurn setup.ns
  obtain ⟨pinned, settled⟩ := exists_state_settle setup connection outcome.run
  cases h with
  | failed received =>
    refine .failed pinned rfl (turn ▸ received) ?_ (connected.asked (.settle _ _ _))
    rw [Outcome.run_always, settled]
    simp only [state_askFetch, unpinned, turn, Run.tripCloses, Bool.or_assoc]
  | @taken reply received last =>
    have released := Quietly.releaseIfExhausted
      (absorb reply (askFetch setup connection source cursor opened))
    simp only [state_absorb, state_askFetch, unpinned, hs, Option.isSome_some, Bool.and_true]
      at released
    refine .brought pinned reply.cursor false (turn ▸ received) ?_
      (connected.absorbed (released.trans_zero (.settle _ _ _))) (Or.inl rfl) (fun reached _ => ?_)
      (by simp) (Or.inl rfl)
    · rw [Outcome.run_always, settled]
      simp only [state_releaseIfExhausted, state_absorb, state_askFetch, unpinned, turn, hs,
        Run.tripCloses, Bool.or_assoc, Bool.or_false]
    · refine last ?_
      rw [← reached, Outcome.run_always, settled]
      exact limitReached_congr (by simp)
  | cut received names reached killed =>
    exact killed.trip connected hs (turn ▸ received) names reached

/-- Every `Round` is a `Trip`, with or without a connection. -/
theorem Round.trip {outcome : Outcome α Unit} (hs : run.state.source = some source)
    (h : Round setup source cursor run outcome) : Trip setup source cursor run outcome := by
  cases h with
  | refused unpinned listed =>
    exact .refused rfl listed (by simp [Run.openingCloses, unpinned]) (.refused run)
  | made connected fetched => exact fetched.trip connected hs

/-- **A round trip is a trip** while the server holds a cursor, because the source is held then. -/
theorem getMore_trip (setup : Setup α) (h : Sourced run) (live : run.state.live.isSome) :
    ∃ source cursor, run.state.live = some cursor ∧
      Trip setup source cursor run (getMore setup run) := by
  obtain ⟨cursor, hl⟩ := Option.isSome_iff_exists.mp live
  obtain ⟨source, hs⟩ := Option.isSome_iff_exists.mp (h.trans live)
  exact ⟨source, cursor, hl, (getMore_round setup hs hl).trip hs⟩

/-! ## What is so after every round trip -/

namespace Trip

variable {outcome : Outcome α Unit}

/-- `Sourced` is kept by a trip: where the server's cursor ends, the source is let go of. -/
theorem sourced (trip : Trip setup source cursor run outcome) (h : Sourced run) :
    Sourced outcome.run := by
  cases trip with
  | refused result listed state quietly => simpa [Sourced, state] using h
  | failed pinned result received state exchanged => simpa [Sourced, state] using h
  | brought pinned live closed received state exchanged goes cuts shuts result =>
    cases live <;> simp [Sourced, state]

/-- The work of closing is no part of a round trip, so that `finished` stays. -/
theorem finished_eq (trip : Trip setup source cursor run outcome) :
    outcome.run.state.finished = run.state.finished := by
  cases trip with
  | refused result listed state => rw [state]
  | failed pinned result received state => rw [state]
  | brought pinned live closed received state => rw [state]

/-- What has happened stays: `run.events` is a prefix of the events after the trip. -/
theorem grows (trip : Trip setup source cursor run outcome) :
    run.events <+: outcome.run.events := by
  cases trip with
  | refused result listed state quietly => exact quietly.grows
  | failed pinned result received state exchanged => exact exchanged.grows
  | brought pinned live closed received state exchanged => exact exchanged.grows

/-- **A round trip does not fail for want of a source**, in any of its cases. -/
theorem ne_missing (trip : Trip setup source cursor run outcome) :
    outcome.result ≠ .error .missingConnectionSource := by
  cases trip with
  | refused result => simp [result]
  | failed pinned result received =>
    intro missing
    obtain rfl := Except.error.inj (result.symm.trans missing)
    exact receive_ne_missing _ received
  | brought pinned live closed received state exchanged goes cuts shuts result =>
    intro missing
    obtain ok | ⟨-, error, failed, read⟩ := result
    · simp [ok] at missing
    · obtain rfl := Except.error.inj (failed.symm.trans missing)
      exact readKill_ne_missing _ _ read

end Trip

end DocumentCursor.Cursor
