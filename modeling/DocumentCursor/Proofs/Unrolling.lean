import DocumentCursor.Proofs.Shutting

/-! # Looking again

A cursor looks for a batch in a loop of round trips. A caller who makes one round trip and looks
again gets the same, and so the loop is a matter of single round trips: no theorem about it has to
speak of how often it goes round.

* **`Run.tripsLeft`** and **`Asks.tripsLeft_getMore`**: a bound on the round trips to come.
* **`fetchUntilBatch_fuel`**: fuel beyond that is no matter.
* **`hasNext_again`** and **`nextBatch_again`**: to look is to make a round trip and to look again.
* **`Skips.hasNext_eq`**: round trips that brought nothing are no matter for what comes then.
* **`Spent`**: a cursor at its end, which says so whenever it is asked.
* **`Calm`**: nobody closes the cursor from elsewhere.
-/

namespace DocumentCursor.Cursor

variable {α β γ : Type} {setup : Setup α} {run last : Run α}

/-- Going on twice is going on once with both: `andThen` is associative. -/
theorem Outcome.andThen_assoc {δ : Type} (outcome : Outcome α β)
    (next : β → Run α → Outcome α γ) (later : γ → Run α → Outcome α δ) :
    (outcome.andThen next).andThen later =
      outcome.andThen fun value run => (next value run).andThen later := by
  obtain ⟨result, after⟩ := outcome
  cases result <;> rfl

/-! ## Round trips to come -/

/-- **A bound on the round trips to come**: the answers that are left in `script.fetches`, and one
more as long as the server holds a cursor. It is the measure that the loop of `fetchUntilBatch` goes
down by. -/
def Run.tripsLeft (run : Run α) : Nat := run.script.fetches.length + run.state.live.toList.length

/-- `tripsLeft ≤ fetches.length + 1`: beyond the answers that are left there is one round trip at
most. -/
theorem Run.tripsLeft_le (run : Run α) : run.tripsLeft ≤ run.script.fetches.length + 1 :=
  Nat.add_le_add_left Option.length_toList_le _

/-- As long as the server holds a cursor, `live.isSome`, there is a round trip to come. -/
theorem Run.tripsLeft_pos (live : run.state.live.isSome) : 0 < run.tripsLeft := by
  obtain ⟨cursor, names⟩ := Option.isSome_iff_exists.mp live
  simp [Run.tripsLeft, names]

/-- **A round trip that succeeds is one less to come**: it takes an answer, or there was none and
`live` is `none` after it. -/
theorem Asks.tripsLeft_getMore (h : Asks setup run) (live : run.state.live.isSome)
    (ok : (getMore setup run).result = .ok ()) :
    (getMore setup run).run.tripsLeft < run.tripsLeft := by
  obtain ⟨-, fetches, -, ended⟩ := (getMore_follows h live).tells () ok
  cases turns : run.script.fetches with
  | nil =>
    have none : (getMore setup run).run.tripsLeft = 0 := by
      simp [Run.tripsLeft, fetches, turns, ended turns]
    rw [none]
    exact Run.tripsLeft_pos live
  | cons turn rest =>
    obtain ⟨cursor, names⟩ := Option.isSome_iff_exists.mp live
    have whole : run.tripsLeft = rest.length + 2 := by simp [Run.tripsLeft, turns, names]
    have most := (getMore setup run).run.tripsLeft_le
    rw [fetches, turns, List.tail_cons] at most
    omega

/-! ## The loop -/

/-- Nothing is fetched while the server holds no cursor: with `live = none` the loop is
`.pure false run`, whatever the fuel. -/
theorem fetchUntilBatch_idle (setup : Setup α) (fuel : Nat) (idle : run.state.live = none) :
    fetchUntilBatch setup fuel run = .pure false run := by
  cases fuel with
  | zero => rfl
  | succ fuel => rw [fetchUntilBatch, if_pos (by rw [idle]; rfl)]

/-- While the server holds a cursor a round trip is made, then `closed` is checked again, and the
loop goes on only if there is no batch. -/
theorem fetchUntilBatch_succ (setup : Setup α) (fuel : Nat) (live : run.state.live.isSome) :
    fetchUntilBatch setup (fuel + 1) run =
      (getMore setup run).andThen fun _ run => (ensureOpen setup run).andThen fun _ run =>
        if run.state.buffered.isEmpty then fetchUntilBatch setup fuel run else .pure true run := by
  rw [fetchUntilBatch, if_neg (by simpa [← Option.isSome_iff_ne_none] using live)]

/-- **Fuel beyond the round trips to come is no matter** for the loop: any two amounts of at least
`run.tripsLeft` give the same outcome. By induction on the fuel, as `tripsLeft` goes down with every
round trip. -/
theorem fetchUntilBatch_fuel {fuel other : Nat} (h : Asks setup run)
    (enough : run.tripsLeft ≤ fuel) (also : run.tripsLeft ≤ other) :
    fetchUntilBatch setup fuel run = fetchUntilBatch setup other run := by
  -- A round trip takes one unit of both fuels, and is one less to come.
  induction fuel generalizing run other with
  | zero =>
    have idle : run.state.live = none := by
      cases names : run.state.live with
      | none => rfl
      | some cursor =>
        have live : run.state.live.isSome := by rw [names]; rfl
        have pos := Run.tripsLeft_pos live
        omega
    rw [fetchUntilBatch_idle setup 0 idle, fetchUntilBatch_idle setup other idle]
  | succ fuel ih =>
    cases names : run.state.live with
    | none => rw [fetchUntilBatch_idle setup _ names, fetchUntilBatch_idle setup _ names]
    | some cursor =>
      have live : run.state.live.isSome := by rw [names]; rfl
      have pos := Run.tripsLeft_pos live
      obtain ⟨other, rfl⟩ : ∃ less, other = less + 1 := ⟨other - 1, by omega⟩
      rw [fetchUntilBatch_succ setup _ live, fetchUntilBatch_succ setup _ live]
      cases result : (getMore setup run).result with
      | error error => rw [Outcome.andThen_of_error result, Outcome.andThen_of_error result]
      | ok value =>
        rw [Outcome.andThen_of_ok result, Outcome.andThen_of_ok result]
        obtain ⟨sourced, -, unreached, -⟩ := (getMore_follows h live).tells () result
        have fewer := h.tripsLeft_getMore live result
        cases closed : (getMore setup run).run.state.closed with
        | true => rw [ensureOpen_closed setup closed, Outcome.andThen_fail, Outcome.andThen_fail]
        | false =>
          rw [ensureOpen_open setup closed, Outcome.andThen_pure, Outcome.andThen_pure]
          by_cases hb : (getMore setup run).run.state.buffered.isEmpty = true
          · have empty := List.isEmpty_iff.mp hb
            rw [if_pos hb, if_pos hb]
            exact ih ⟨sourced, closed, empty, unreached empty⟩ (by omega) (by omega)
          · rw [if_neg hb, if_neg hb]

/-- Where more would be asked for, `hasNext` is the loop with fuel for every answer that is left. -/
theorem hasNext_asks (h : Asks setup run) :
    hasNext setup run = fetchUntilBatch setup (run.script.fetches.length + 2) run := by
  unfold hasNext
  rw [ensureOpen_open setup h.isOpen, Outcome.andThen_pure, if_neg (by simp [h.empty]),
    if_neg (by simp [h.unreached])]

/-- **To look for a batch is to make a round trip and to look again**: `hasNext = getMore` and then
`hasNext`, which is how the fuel drops out of the reasoning. -/
theorem hasNext_again (h : Asks setup run) (live : run.state.live.isSome) :
    hasNext setup run = (getMore setup run).andThen fun _ run => hasNext setup run := by
  rw [hasNext_asks h, fetchUntilBatch_succ setup _ live]
  cases result : (getMore setup run).result with
  | error error => rw [Outcome.andThen_of_error result, Outcome.andThen_of_error result]
  | ok value =>
    rw [Outcome.andThen_of_ok result, Outcome.andThen_of_ok result]
    obtain ⟨sourced, -, unreached, -⟩ := (getMore_follows h live).tells () result
    cases closed : (getMore setup run).run.state.closed with
    | true => rw [ensureOpen_closed setup closed, Outcome.andThen_fail, hasNext_closed setup closed]
    | false =>
      rw [ensureOpen_open setup closed, Outcome.andThen_pure]
      by_cases hb : (getMore setup run).run.state.buffered.isEmpty = true
      · have empty := List.isEmpty_iff.mp hb
        have asks : Asks setup (getMore setup run).run :=
          ⟨sourced, closed, empty, unreached empty⟩
        rw [if_pos hb, hasNext_asks asks]
        have fewer := h.tripsLeft_getMore live result
        have most := run.tripsLeft_le
        have still := (getMore setup run).run.tripsLeft_le
        exact fetchUntilBatch_fuel asks (by omega) (by omega)
      · rw [if_neg hb, hasNext_ready setup closed fun empty => hb (List.isEmpty_iff.mpr empty)]

/-- **To get the next batch is to make a round trip and to get the next batch then**, since
`nextBatch` is `hasNext` and then taking what is buffered. -/
theorem nextBatch_again (h : Asks setup run) (live : run.state.live.isSome) :
    nextBatch setup run = (getMore setup run).andThen fun _ run => nextBatch setup run := by
  unfold nextBatch
  rw [hasNext_again h live, Outcome.andThen_assoc]

/-- A look in one round trip makes that round trip, and nothing happens after it: `tryNext` and
`getMore` leave the same `events`. -/
theorem events_tryNext (h : Asks setup run) (live : run.state.live.isSome) :
    (tryNext setup run).run.events = (getMore setup run).run.events := by
  rw [tryNext_asks h live]
  cases result : (getMore setup run).result with
  | error error => rw [Outcome.andThen_of_error result]; rfl
  | ok value => rw [Outcome.andThen_of_ok result]; rfl

/-! ## Round trips that brought nothing -/

/-- Round trips that brought nothing leave a run from which more would be asked for: `Skips` keeps
`Asks`. -/
theorem Skips.asks (h : Skips setup run last) (asks : Asks setup run) : Asks setup last := by
  induction h with
  | nil => exact asks
  | cons live ok isOpen empty rest ih =>
    obtain ⟨sourced, -, unreached, -⟩ := (getMore_follows asks live).tells () ok
    exact ih ⟨sourced, isOpen, empty, unreached empty⟩

/-- **Round trips that brought nothing are no matter** for what is found then: `hasNext` is the same
outcome from either end of `Skips`. -/
theorem Skips.hasNext_eq (h : Skips setup run last) (asks : Asks setup run) :
    hasNext setup run = hasNext setup last := by
  induction h with
  | nil => rfl
  | cons live ok isOpen empty rest ih =>
    rw [hasNext_again asks live, Outcome.andThen_of_ok ok]
    exact ih (Skips.asks (.cons live ok isOpen empty (.nil _)) asks)

/-! ## The end -/

/-- Where no batch is there none is handed out: `handOver run = .pure none run`. -/
theorem handOver_empty (empty : run.state.buffered = []) : handOver run = .pure none run := by
  have taken := takeBuffered_empty empty
  rw [handOver, if_pos (by simp [empty])]
  exact congrArg (fun outcome : Outcome α (List α) => Outcome.pure none outcome.run) taken

/-- **A cursor at its end**: it is open, there is nothing left to hand out, and there is nothing
more to ask for, as the limit is reached or the server holds no cursor. -/
structure Spent (setup : Setup α) (run : Run α) : Prop where
  isOpen : run.state.closed = false
  empty : run.state.buffered = []
  ended : limitReached setup run.state = true ∨ run.state.live = none

namespace Spent

/-- At its end a cursor finds nothing: `hasNext` is `false` and leaves the run as it is. -/
theorem hasNext_eq (h : Spent setup run) : hasNext setup run = .pure false run := by
  unfold hasNext
  rw [ensureOpen_open setup h.isOpen, Outcome.andThen_pure, if_neg (by simp [h.empty])]
  obtain reached | idle := h.ended
  · rw [if_pos reached]
  · rw [fetchUntilBatch_idle setup _ idle, ite_self]

/-- At its end a cursor has no next batch: `nextBatch` fails by `.noSuchElement`. -/
theorem nextBatch_eq (h : Spent setup run) :
    nextBatch setup run = .fail .noSuchElement run := by
  rw [nextBatch, h.hasNext_eq]
  rfl

/-- At its end a cursor has no next item: `next` is `none`, where `nextBatch` would fail. -/
theorem next_eq (h : Spent setup run) : next setup run = .pure none run := by
  rw [next, h.hasNext_eq]
  rfl

/-- At its end a cursor finds nothing in one round trip, and makes none: `tryNext` is `none`. -/
theorem tryNext_eq (h : Spent setup run) : tryNext setup run = .pure none run := by
  have idle : ¬(run.state.buffered = [] ∧ limitReached setup run.state = false ∧
      run.state.live.isSome) := by
    rintro ⟨-, unreached, live⟩
    obtain reached | none := h.ended
    · exact absurd (reached.symm.trans unreached) (by simp)
    · simp [none] at live
  rw [tryNext_idle h.isOpen idle, handOver_empty h.empty]

end Spent

/-- **Where an open cursor makes no round trip** it has a batch or is at its end, so `Asks` with a
live cursor, a batch and `Spent` are all there is. -/
theorem ready_or_spent (isOpen : run.state.closed = false)
    (idle : ¬(run.state.buffered = [] ∧ limitReached setup run.state = false ∧
      run.state.live.isSome)) :
    run.state.buffered ≠ [] ∨ Spent setup run := by
  by_cases empty : run.state.buffered = []
  · refine Or.inr ⟨isOpen, empty, ?_⟩
    cases reached : limitReached setup run.state with
    | true => exact Or.inl rfl
    | false =>
      refine Or.inr ?_
      simpa [empty, reached] using idle
  · exact Or.inl empty

/-! ## Scripts in which nobody closes the cursor -/

/-- **Nobody closes the cursor from elsewhere** while it waits for a connection or an answer: no
`closes` flag is set in the script. -/
structure Calm (script : Script) : Prop where
  grants : ∀ grant ∈ script.grants, grant.closes = false
  fetches : ∀ turn ∈ script.fetches, turn.closes = false
  kills : ∀ turn ∈ script.kills, turn.closes = false

namespace Calm

/-- The cursor is open when the source answers: `nextGrant.closes` is `false`. -/
theorem nextGrant (h : Calm run.script) : run.nextGrant.closes = false := by
  obtain last | listed := run.nextGrant_cases
  · rw [last]
    rfl
  · exact h.grants _ listed

/-- The cursor stays open while a round trip opens its connection, be it one that is kept or one
that is acquired. -/
theorem openingCloses (h : Calm run.script) : run.openingCloses = false := by
  rw [Run.openingCloses, h.nextGrant, Bool.and_false]

/-- The next answer to a fetch comes while the cursor is open, also the answer there is when the
script has run out. -/
theorem fetchTurn (h : Calm run.script) (ns : Namespace) : (run.fetchTurn ns).closes = false := by
  unfold Run.fetchTurn
  cases turns : run.script.fetches with
  | nil => rfl
  | cons turn rest => exact h.fetches turn (by rw [turns]; exact List.mem_cons_self)

/-- The next answer to a kill comes while the cursor is open. -/
theorem killTurn (h : Calm run.script) : run.killTurn.closes = false := by
  unfold Run.killTurn
  cases turns : run.script.kills with
  | nil => rfl
  | cons turn rest => exact h.kills turn (by rw [turns]; exact List.mem_cons_self)

/-- A round trip is calm up to the answer to its request for documents: `tripCloses` is
`openingCloses` or the flag of that answer. -/
theorem tripCloses (h : Calm run.script) (ns : Namespace) : run.tripCloses ns = false := by
  rw [Run.tripCloses, h.openingCloses, h.fetchTurn, Bool.or_self]

/-- What is left of a script is as calm as the script: `Calm` goes to suffixes of all three
lists. -/
theorem of_suffix {script left : Script} (h : Calm script) (grants : left.grants <:+ script.grants)
    (fetches : left.fetches <:+ script.fetches) (kills : left.kills <:+ script.kills) :
    Calm left :=
  ⟨fun grant listed => h.grants grant (grants.subset listed),
    fun turn listed => h.fetches turn (fetches.subset listed),
    fun turn listed => h.kills turn (kills.subset listed)⟩

/-- What a round trip leaves of a script is as calm as the script, by `Calm.of_suffix`. -/
theorem trip {source : Source} {cursor : ServerCursor} {outcome : Outcome α Unit}
    (h : Calm run.script) (trip : Trip setup source cursor run outcome) :
    Calm outcome.run.script := by
  cases trip with
  | refused result listed state quietly =>
    exact h.of_suffix quietly.grants (quietly.fetches ▸ List.suffix_rfl) quietly.kills
  | failed pinned result received state exchanged =>
    exact h.of_suffix exchanged.grants (exchanged.fetches ▸ List.tail_suffix _) exchanged.kills
  | brought pinned live closed received state exchanged =>
    exact h.of_suffix exchanged.grants (exchanged.fetches ▸ List.tail_suffix _) exchanged.kills

/-- **In a calm script a round trip leaves the cursor open**, or closed as it was: `closed` does not
change. -/
theorem closed_trip {source : Source} {cursor : ServerCursor} {outcome : Outcome α Unit}
    (h : Calm run.script) (trip : Trip setup source cursor run outcome) :
    outcome.run.state.closed = run.state.closed := by
  cases trip with
  | refused result listed state => simp [state, h.openingCloses]
  | failed pinned result received state => simp [state, h.tripCloses]
  | brought pinned live closed received state exchanged goes cuts shuts =>
    have unshut : closed = false := by
      cases closed with
      | false => rfl
      | true => exact absurd (shuts rfl) (by simp [h.killTurn])
    simp [state, h.tripCloses, unshut]

end Calm

/-! ## Open cursors -/

namespace Life

/-- **An open cursor was not dropped**: after any calls `closed = false` gives `dropped = false`, so
calls on it do something. -/
theorem alive_of_open {first : Reply α} {options : Options}
    {decode : Document → Except DecodeError α} {source : Option Source}
    {connection : Option Connection} {script : Script}
    (hok : (begin first options decode source connection script).1 = .ok ()) (calls : List Call)
    (isOpen : (performAll calls
      (begin first options decode source connection script).2).2.run.state.closed = false) :
    (performAll calls (begin first options decode source connection script).2).2.dropped =
      false := by
  have dropped := closed_of_dropped calls (made_of_ok hok).sourced (by simp [begin])
  cases alive : (performAll calls
      (begin first options decode source connection script).2).2.dropped with
  | false => rfl
  | true => exact absurd (dropped alive) (by simp [isOpen])

end Life

end DocumentCursor.Cursor
