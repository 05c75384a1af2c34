import DocumentCursor.Proofs.RoundTripReplies

/-! # Searching for a batch

To look for a batch is to make one round trip after the other for as long as they bring empty
batches of a cursor that goes on. The answer of the search is decided by the first round trip that
brings anything else, and the search ends with it.

* **`Searches`**: how a search goes, by what its round trips bring.
* **`Searches.hasNext_eq`**: a search that goes so is what looking for a batch does.
* **`exists_searches`**: every search goes in some way.
* **`Searches.attempts`**: a search asks for each of its cursors once, in turn.
* **`hasNext_fetches_as_needed`**: so it is in every life of a cursor.
-/

namespace DocumentCursor.Cursor

variable {α : Type} {setup : Setup α} {run after : Run α} {connection : Connection}
  {source : Source} {cursor next : ServerCursor} {reply : Reply α}
  {cursors : List ServerCursor} {result : Except CursorError Bool}

/-! ## Searches -/

/-- **How a search for a batch goes**: the cursors that it asks for in turn, its answer, and the run
after it. Only `skip` goes on; every other case is the last round trip. -/
inductive Searches (setup : Setup α) (source : Source) :
    Run α → List ServerCursor → Except CursorError Bool → Run α → Prop
  /-- An empty batch of a cursor that goes on is skipped, and what goes on is asked for. -/
  | skip {run after : Run α} {cursor next : ServerCursor} {cursors : List ServerCursor}
      {reply : Reply α} {result : Except CursorError Bool}
      (asked : run.state.live = some cursor)
      (brought : brings setup source cursor run = .ok reply) (empty : reply.documents = [])
      (further : reply.cursor = some next)
      (rest : Searches setup source (getMore setup run).run (next :: cursors) result after) :
      Searches setup source run (cursor :: next :: cursors) result after
  /-- Nothing is brought. -/
  | fail {run : Run α} {cursor : ServerCursor} {error : CursorError}
      (asked : run.state.live = some cursor)
      (missed : brings setup source cursor run = .error error) :
      Searches setup source run [cursor] (.error error) (getMore setup run).run
  /-- An empty batch of a cursor that does not go on is the last one. -/
  | last {run : Run α} {cursor : ServerCursor} {reply : Reply α}
      (asked : run.state.live = some cursor)
      (brought : brings setup source cursor run = .ok reply) (empty : reply.documents = [])
      (final : reply.cursor = none) :
      Searches setup source run [cursor] (.ok false) (getMore setup run).run
  /-- A batch that does not reach the limit, or whose cursor does not go on. -/
  | batch {run : Run α} {cursor : ServerCursor} {reply : Reply α}
      (asked : run.state.live = some cursor)
      (brought : brings setup source cursor run = .ok reply) (filled : reply.documents ≠ [])
      (final : limitReached setup (absorb reply run).state = true → reply.cursor = none) :
      Searches setup source run [cursor] (.ok true) (getMore setup run).run
  /-- A batch that reaches the limit. The cursor is killed, and it is an error if that fails. -/
  | cut {run : Run α} {connection : Connection} {cursor next : ServerCursor} {reply : Reply α}
      (asked : run.state.live = some cursor) (connected : (connect run).result = .ok connection)
      (brought : brings setup source cursor run = .ok reply) (filled : reply.documents ≠ [])
      (further : reply.cursor = some next)
      (reached : limitReached setup (absorb reply run).state = true) :
      Searches setup source run [cursor]
        ((readKill connection run.killTurn.response).map fun _ => true) (getMore setup run).run

/-- **A run from which more is asked for**: `Asks`, of a source that is held, in a calm script. -/
structure Seeks (setup : Setup α) (source : Source) (run : Run α) : Prop where
  asks : Asks setup run
  calm : Calm run.script
  held : run.state.live.isSome → run.state.source = some source

/-- **An empty batch is skipped**: more is asked for after it, by the same `batchSize` and `count`,
so by the same number. -/
theorem Seeks.skip (h : Seeks setup source run) (names : run.state.live = some cursor)
    (brought : brings setup source cursor run = .ok reply) (empty : reply.documents = []) :
    (getMore setup run).result = .ok () ∧
      (getMore setup run).run.state.live = reply.cursor ∧
      (getMore setup run).run.state.batchSize = run.state.batchSize ∧
      (getMore setup run).run.state.count = run.state.count ∧
      Seeks setup source (getMore setup run).run := by
  have live : run.state.live.isSome := by rw [names]; rfl
  have unreached := unreached_of_empty h.asks.unreached empty
  obtain ⟨ok, state⟩ := state_of_taken (h.held live) names h.calm brought
    fun reached => absurd (reached.symm.trans unreached) (by simp)
  obtain ⟨sourced, -, still, -⟩ := (getMore_follows h.asks live).tells () ok
  obtain ⟨_, _, -, trip⟩ := getMore_trip setup h.asks.sourced live
  have nothing : (getMore setup run).run.state.buffered = [] := by rw [state]; exact empty
  have count : (getMore setup run).run.state.count = run.state.count := by
    rw [state]
    simp only [empty, List.length_nil, add_clamp_zero]
  refine ⟨ok, by rw [state], by rw [state], count, ⟨sourced, ?_, nothing, still nothing⟩,
    h.calm.trip trip, fun goes => ?_⟩
  · rw [h.calm.closed_trip trip]
    exact h.asks.isOpen
  · rw [state] at goes ⊢
    simp only [Option.isSome_iff_ne_none, ne_eq] at goes
    simp [goes]

/-- **A search that goes in some way** is what looking for a batch does: `Searches` gives
`hasNext = ⟨result, after⟩`. -/
theorem Searches.hasNext_eq (h : Searches setup source run cursors result after)
    (seeks : Seeks setup source run) : hasNext setup run = ⟨result, after⟩ := by
  have lives {run : Run α} {cursor : ServerCursor} (asked : run.state.live = some cursor) :
      run.state.live.isSome := by rw [asked]; rfl
  -- Each way to go is one round trip, and the look goes on from what it left: it skips the batch,
  -- is at the end, or finds the batch ready.
  induction h with
  | skip asked brought empty further rest ih =>
    obtain ⟨ok, -, -, -, still⟩ := seeks.skip asked brought empty
    rw [hasNext_again seeks.asks (lives asked), Outcome.andThen_of_ok ok]
    exact ih still
  | fail asked missed =>
    have failed := result_of_missed (seeks.held (lives asked)) asked missed
    rw [hasNext_again seeks.asks (lives asked), Outcome.andThen_of_error failed]
    rfl
  | last asked brought empty final =>
    obtain ⟨ok, live, -, -, still⟩ := seeks.skip asked brought empty
    have spent : Spent setup _ :=
      ⟨still.asks.isOpen, still.asks.empty, Or.inr (live.trans final)⟩
    rw [hasNext_again seeks.asks (lives asked), Outcome.andThen_of_ok ok, spent.hasNext_eq]
    rfl
  | batch asked brought filled final =>
    obtain ⟨ok, state⟩ := state_of_taken (seeks.held (lives asked)) asked seeks.calm brought final
    rw [hasNext_again seeks.asks (lives asked), Outcome.andThen_of_ok ok,
      hasNext_ready setup (by rw [state]; exact seeks.asks.isOpen) (by rw [state]; exact filled)]
    rfl
  | @cut run connection cursor next reply asked connected brought filled further reached =>
    obtain ⟨killed, closed, buffered, -⟩ := state_of_cut (seeks.held (lives asked)) asked seeks.calm
      connected brought further reached
    rw [hasNext_again seeks.asks (lives asked)]
    cases read : readKill connection run.killTurn.response with
    | error error =>
      rw [Outcome.andThen_of_error (killed.trans read)]
      rfl
    | ok value =>
      rw [Outcome.andThen_of_ok (killed.trans read),
        hasNext_ready setup (closed.trans seeks.asks.isOpen) (by rw [buffered]; exact filled)]
      rfl

/-- **Every search goes in some way**: for an open cursor with nothing to hand out there are such
cursors, by induction on `tripsLeft`. -/
theorem exists_searches {run : Run α} {cursor : ServerCursor} (seeks : Seeks setup source run)
    (asked : run.state.live = some cursor) :
    ∃ cursors result after, Searches setup source run (cursor :: cursors) result after := by
  cases brought : brings setup source cursor run with
  | error error => exact ⟨[], _, _, .fail asked brought⟩
  | ok reply =>
    by_cases empty : reply.documents = []
    · cases further : reply.cursor with
      | none => exact ⟨[], _, _, .last asked brought empty further⟩
      | some next =>
        obtain ⟨ok, live, -, -, still⟩ := seeks.skip asked brought empty
        -- What goes on after an empty batch has one round trip less to come.
        have fewer := seeks.asks.tripsLeft_getMore (by rw [asked]; rfl) ok
        obtain ⟨cursors, result, after, rest⟩ := exists_searches still (live.trans further)
        exact ⟨next :: cursors, result, after, .skip asked brought empty further rest⟩
    · by_cases final : limitReached setup (absorb reply run).state = true → reply.cursor = none
      · exact ⟨[], _, _, .batch asked brought empty final⟩
      · obtain ⟨reached, named⟩ := Classical.not_imp.mp final
        obtain ⟨next, further⟩ := Option.ne_none_iff_exists'.mp named
        obtain ⟨connection, connected, -⟩ := brings_eq_ok_iff.mp brought
        exact ⟨[], _, _, .cut asked connected brought empty further reached⟩
termination_by run.tripsLeft

/-- **An attempt for a cursor** asks for more of it, and for as many documents as the state says, so
it is `some` `fetchRequest`; if no connection was to be had it is `none`. -/
def Tries (setup : Setup α) (source : Source) (state : State α) (cursor : ServerCursor)
    (attempt : Option Request) : Prop :=
  ∀ request ∈ attempt, ∃ connection,
    request = fetchRequest setup connection source cursor state

/-- How many documents are asked for is a matter of `batchSize` and `count` alone, so `Tries` goes
to any state that agrees on them. -/
theorem Tries.congr {state other : State α} {attempt : Option Request}
    (size : state.batchSize = other.batchSize) (count : state.count = other.count)
    (h : Tries setup source state cursor attempt) : Tries setup source other cursor attempt := by
  intro request asked
  obtain ⟨connection, rfl⟩ := h request asked
  exact ⟨connection, by simp only [fetchRequest, size, count]⟩

/-- A round trip tries its cursor: `Tries` holds of its `attempt`. -/
theorem tries_attempt (setup : Setup α) (source : Source) (cursor : ServerCursor) (run : Run α) :
    Tries setup source run.state cursor (attempt setup source cursor run) := by
  intro request asked
  obtain ⟨connection, -, rfl⟩ := Option.map_eq_some_iff.mp asked
  exact ⟨connection, rfl⟩

/-- **A search tries each of its cursors once**, in turn, and always for as many documents as the
state before the search says: `List.Forall₂ (Tries …) cursors tries`. -/
theorem Searches.attempts (h : Searches setup source run cursors result after)
    (seeks : Seeks setup source run) :
    ∃ tries, attempts after.events = attempts run.events ++ tries ∧
      List.Forall₂ (Tries setup source run.state) cursors tries := by
  have one {run : Run α} {cursor : ServerCursor} (asked : run.state.live = some cursor)
      (seeks : Seeks setup source run) :
      Cursor.attempts (getMore setup run).run.events =
        Cursor.attempts run.events ++ [attempt setup source cursor run] :=
    attempts_getMore setup (seeks.held (by rw [asked]; rfl)) asked
  induction h with
  | @skip run after cursor next cursors reply result asked brought empty further rest ih =>
    obtain ⟨-, -, size, count, still⟩ := seeks.skip asked brought empty
    obtain ⟨tries, events, each⟩ := ih still
    refine ⟨attempt setup source cursor run :: tries, ?_, .cons (tries_attempt _ _ _ _) ?_⟩
    · rw [events, one asked seeks, List.append_assoc]
      rfl
    · exact each.imp fun _ _ tried => tried.congr size count
  | fail asked | last asked | batch asked | cut asked =>
    exact ⟨_, one asked seeks, .cons (tries_attempt _ _ _ _) .nil⟩

/-! ## Whole lives -/

namespace Life

/-- **A batch is looked for by as many round trips as it takes.** Where nothing is there to be
handed out and more can be asked for, a call makes one round trip after the other, each for the
cursor that the one before it reported and all for the same number of documents, until one brings
anything but an empty batch of a cursor that goes on. That one decides the answer. In every other
open state the call answers at once. -/
theorem hasNext_fetches_as_needed (first : Reply α) (options : Options)
    (decode : Document → Except DecodeError α) (source : Option Source)
    (connection : Option Connection) (script : Script) (calls : List Call)
    (hok : (begin first options decode source connection script).1 = .ok ()) :
    let life := (performAll calls (begin first options decode source connection script).2).2
    let asks := life.run.state.buffered = [] ∧
      limitReached life.setup life.run.state = false ∧ life.run.state.live.isSome
    life.run.state.closed = false →
      (asks → Calm life.run.script → ∃ source cursor, life.run.state.source = some source ∧
        life.run.state.live = some cursor ∧
        (∃ cursors result after,
          Searches life.setup source life.run (cursor :: cursors) result after) ∧
        ∀ cursors result after, Searches life.setup source life.run cursors result after →
          life.perform .hasNext = (result.map .flag, { life with run := after }) ∧
          ∃ tries, attempts after.events = attempts life.run.events ++ tries ∧
            List.Forall₂ (Tries life.setup source life.run.state) cursors tries) ∧
      (¬asks → life.perform .hasNext = (.ok (.flag (!life.run.state.buffered.isEmpty)), life)) := by
  intro life asks isOpen
  have alive : life.dropped = false := alive_of_open hok calls isOpen
  have fresh := made_of_ok hok
  have sourced : Sourced life.run := (performAll_path calls fresh.sourced).sourced fresh.sourced
  constructor
  · rintro ⟨empty, unreached, live⟩ calm
    obtain ⟨cursor, names⟩ := Option.isSome_iff_exists.mp live
    obtain ⟨source, held⟩ := Option.isSome_iff_exists.mp (sourced.trans live)
    have seeks : Seeks life.setup source life.run :=
      ⟨⟨sourced, isOpen, empty, unreached⟩, calm, fun _ => held⟩
    refine ⟨source, cursor, held, names, exists_searches seeks names, ?_⟩
    intro cursors result after searches
    refine ⟨?_, searches.attempts seeks⟩
    rw [perform_of_alive alive, performAlive, searches.hasNext_eq seeks]
    rfl
  · intro idle
    rw [perform_of_alive alive, performAlive]
    obtain ready | spent := ready_or_spent isOpen idle
    · rw [hasNext_ready life.setup isOpen ready]
      cases batch : life.run.state.buffered with
      | nil => exact absurd batch ready
      | cons document rest => rfl
    · rw [spent.hasNext_eq, spent.empty]
      rfl

/-- Two empty batches are skipped, and the third round trip brings a batch. Each asks for the cursor
that the one before it reported. -/
theorem hasNext_fetches_as_needed_third :
    let turns := [Small.turn [] 8, Small.turn [] 9, Small.turn [1] 9]
    let life := (begin (Small.first [] 7) {} Small.decode (some (Small.source 3)) none
      ⟨[], turns, []⟩).2
    ∃ after tries, life.perform .hasNext = (.ok (.flag true), { life with run := after }) ∧
      attempts after.events = attempts life.run.events ++ tries ∧
      List.Forall₂ (Tries life.setup (Small.source 3) life.run.state)
        [⟨7, Small.ns, by decide⟩, ⟨8, Small.ns, by decide⟩, ⟨9, Small.ns, by decide⟩] tries := by
  intro turns life
  obtain ⟨source, cursor, held, -, -, runs⟩ := (hasNext_fetches_as_needed (Small.first [] 7) {}
    Small.decode (some (Small.source 3)) none ⟨[], turns, []⟩ [] rfl rfl).1
    ⟨rfl, by decide, rfl⟩ ⟨nofun, by decide, nofun⟩
  obtain rfl : Small.source 3 = source := Option.some.inj held
  have brought : brings life.setup (Small.source 3) ⟨9, Small.ns, by decide⟩
      (getMore life.setup (getMore life.setup life.run).run).run = .ok (Small.first [1] 9) := rfl
  have searches : Searches life.setup (Small.source 3) life.run _ (.ok true) _ :=
    .skip rfl rfl rfl rfl (.skip rfl rfl rfl rfl (.batch rfl brought (by decide) (by decide)))
  obtain ⟨looked, tries, events, each⟩ := runs _ _ _ searches
  exact ⟨_, tries, looked, events, each⟩

end Life

end DocumentCursor.Cursor
