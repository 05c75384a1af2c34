import DocumentCursor.Proofs.CallPaths

/-! # What a server has left to return

A server that returns given documents may cut them into answers in any way. As long as nothing fails
and nobody closes the cursor, every round trip moves some of them to the batch that is there, and
every call that looks for data finds out whether there are any left.

* **`Serving`**: a server that returns given documents and then ends.
* **`Smooth`**: nothing fails but fetches.
* **`Arrived`**: a round trip that succeeds.
* **`Serves`**: what is left to be handed out, and how often it can be asked for at most.
* **`Serves.getMore`** and **`Serves.hasNext`**: round trips and calls leave it as it is.
-/

namespace DocumentCursor.Cursor

variable {α : Type} {setup : Setup α} {run after : Run α}

/-! ## Servers -/

/-- An answer that brings the given documents, and names a cursor to ask for more or none, on
whatever connection it arrives. Nobody closes the cursor before it does. -/
structure Brings (setup : Setup α) (turn : Turn Batch) (documents : List α) (more : Bool) :
    Prop where
  quiet : turn.closes = false
  received : ∀ connection source cursor, ∃ reply,
    receive setup connection source cursor turn.response = .ok reply ∧
      reply.documents = documents ∧ reply.cursor.isSome = more

/-- An answer that carries a batch brings its documents, and names a cursor if `id ≠ 0`. -/
theorem brings_success {documents : List Document} {id : Int64} {name : String} {ns : Namespace}
    {items : List α} (hname : Namespace.parse name = .ok ns)
    (hitems : decodeAll setup documents = .ok items) :
    Brings setup ⟨.success ⟨documents, id, name⟩, false⟩ items (id ≠ 0) := by
  refine ⟨rfl, fun connection source cursor => ?_⟩
  obtain ⟨ns, address, received⟩ :=
    receive_success setup connection source cursor ⟨documents, id, name⟩ hname hitems
  refine ⟨_, received, rfl, ?_⟩
  by_cases h : id = 0 <;> simp [Reply.of, ServerCursor.of?, h]

/-- **A server that returns the given documents**, cut into answers in any way, and names a cursor
until it has returned them all. The last answer may come later than the last document, and any
answer may be empty. -/
inductive Serving (setup : Setup α) : List α → List (Turn Batch) → Prop
  | more {documents rest : List α} {turn : Turn Batch} {turns : List (Turn Batch)}
      (brings : Brings setup turn documents true) (later : Serving setup rest turns) :
      Serving setup (documents ++ rest) (turn :: turns)
  | last {documents : List α} {turn : Turn Batch} {turns : List (Turn Batch)}
      (brings : Brings setup turn documents false) : Serving setup documents (turn :: turns)

/-- The next answer of such a server brings documents, and it returns the others later:
`documents = here ++ later`. -/
theorem Serving.next {documents : List α} (h : Serving setup documents run.script.fetches) :
    ∃ here later more, documents = here ++ later ∧
      Brings setup (run.fetchTurn setup.ns) here more ∧
      (more = true → Serving setup later run.script.fetches.tail) ∧ (more = false → later = []) ∧
      run.script.fetches ≠ [] := by
  unfold Run.fetchTurn
  generalize run.script.fetches = turns at h
  cases h with
  | more brings later => exact ⟨_, _, true, rfl, brings, fun _ => later, nofun, nofun⟩
  | last brings =>
    exact ⟨_, [], false, (List.append_nil _).symm, brings, nofun, fun _ => rfl, nofun⟩

/-- **A script without failures**, but for those of fetches: every connection that is asked for is
granted, every kill succeeds, and nobody closes the cursor meanwhile. -/
structure Smooth (script : Script) : Prop where
  grants : ∀ grant ∈ script.grants, ∃ version, grant = .granted version false
  kills : ∀ turn ∈ script.kills, turn.closes = false ∧
    ∀ connection, readKill connection turn.response = .ok ()

/-- `readKill connection (.success ()) = .ok ()`: a success is read as one, whatever the
protocol. -/
theorem readKill_success (connection : Connection) :
    readKill connection (.success ()) = .ok () := by
  unfold readKill
  split <;> rfl

namespace Smooth

variable {script : Script}

/-- The next kill succeeds, and nobody closes the cursor meanwhile, also after the end of
`script.kills`. -/
theorem next (h : Smooth script) :
    (script.kills.headD ⟨.success (), false⟩).closes = false ∧ ∀ connection,
      readKill connection (script.kills.headD ⟨.success (), false⟩).response = .ok () := by
  cases hk : script.kills with
  | nil => exact ⟨rfl, readKill_success⟩
  | cons turn turns => exact h.kills turn (by rw [hk]; exact List.mem_cons_self)

/-- `run.openingCloses = false`: nobody closes the cursor while its source looks for a
connection. -/
theorem openingCloses (h : Smooth run.script) : run.openingCloses = false := by
  rw [Run.openingCloses, Bool.and_eq_false_iff]
  refine Or.inr ?_
  obtain last | listed := run.nextGrant_cases
  · rw [last]
    rfl
  · obtain ⟨version, granted⟩ := h.grants _ listed
    rw [granted]
    rfl

/-- `KillFails script` does not hold: there are connections to be had, and no kill is refused. -/
theorem not_killFails (h : Smooth script) : ¬ KillFails script := by
  rintro (⟨error, closes, listed⟩ | ⟨connection, error, read⟩)
  · obtain ⟨version, granted⟩ := h.grants _ listed
    exact absurd granted (by simp)
  · rw [h.next.2 connection] at read
    exact absurd read (by simp)

/-- The answers that are left are without failures, since they are among those that there were. -/
theorem of_suffix {later : Script} (h : Smooth script) (grants : later.grants <:+ script.grants)
    (kills : later.kills <:+ script.kills) : Smooth later :=
  ⟨fun grant listed => h.grants grant (grants.subset listed),
    fun turn listed => h.kills turn (kills.subset listed)⟩

end Smooth

/-! ## Round trips that succeed -/

/-- **A round trip brought the given documents**, with more to come or not. The server's cursor is
gone when there are no more, or when the limit is reached, because the kill then succeeds. -/
structure Arrived (setup : Setup α) (run : Run α) (documents : List α) (more : Bool)
    (outcome : Outcome α Unit) : Prop where
  ok : outcome.result = .ok ()
  isOpen : outcome.run.state.closed = false
  buffered : outcome.run.state.buffered = documents
  kept : outcome.run.state.live.isSome → more = true
  gone : outcome.run.state.live = none →
    more = false ∨ limitReached setup outcome.run.state = true
  cut : limitReached setup outcome.run.state = true → outcome.run.state.live = none
  fetches : outcome.run.script.fetches = run.script.fetches.tail
  smooth : Smooth outcome.run.script

/-- **A round trip succeeds** when the next answer brings documents and nothing else fails, in the
one case of `Trip` in which a reply is taken over. -/
theorem Trip.arrived {source : Source} {cursor : ServerCursor} {outcome : Outcome α Unit}
    (trip : Trip setup source cursor run outcome) (isOpen : run.state.closed = false)
    (smooth : Smooth run.script) {documents : List α} {more : Bool}
    (brings : Brings setup (run.fetchTurn setup.ns) documents more) :
    Arrived setup run documents more outcome := by
  have killed := smooth.next
  cases trip with
  | refused result listed =>
    obtain ⟨version, granted⟩ := smooth.grants _ listed
    exact absurd granted (by simp)
  | @failed error connection pinned result missed =>
    obtain ⟨reply, received, -⟩ := brings.received connection source cursor
    rw [missed] at received
    exact absurd received (by simp)
  | @brought connection reply pinned live closed got state exchanged goes cuts shuts result =>
    -- The reply that was taken over is the one that the answer brings.
    obtain ⟨other, received, hdocuments, names⟩ := brings.received connection source cursor
    rw [got] at received
    obtain rfl : reply = other := Except.ok.inj received
    -- Neither does the kill at the limit fail, nor is the cursor closed during it.
    have ok : outcome.result = .ok () := by
      refine result.resolve_right ?_
      rintro ⟨-, error, -, read⟩
      rw [show readKill connection run.killTurn.response = .ok () from killed.2 connection] at read
      exact absurd read (by simp)
    have calm : run.killTurn.closes = false := killed.1
    have still : closed = false := by
      cases hc : closed with
      | true => exact absurd (shuts hc) (by simp [calm])
      | false => rfl
    have buffered : outcome.run.state.buffered = reply.documents := by rw [state]
    have held : outcome.run.state.live = live := by rw [state]
    refine ⟨ok, ?_, buffered.trans hdocuments, ?_, ?_, ?_, exchanged.fetches,
      smooth.of_suffix exchanged.grants exchanged.kills⟩
    · rw [state, still]
      simp [isOpen, Run.tripCloses, smooth.openingCloses, brings.quiet]
    · intro some
      rw [held] at some
      obtain rfl | ⟨rfl, -⟩ := goes
      · rw [← names, some]
      · exact absurd some (by simp)
    · intro none
      rw [held] at none
      obtain rfl | ⟨-, reached⟩ := goes
      · refine Or.inl ?_
        rw [← names, none]
        rfl
      · exact Or.inr reached
    · intro reached
      rw [held]
      exact cuts reached ok

/-! ## What is left to be handed out -/

/-- **What is left to be handed out**: the batch that is there and what the server will return,
unless the limit cuts it off. At most `n` calls hand out something or bring the end nearer, one for
each answer and one for the batch that is there. -/
structure Serves (setup : Setup α) (left : List α) (n : Nat) (run : Run α) : Prop where
  sourced : Sourced run
  isOpen : run.state.closed = false
  unfinished : run.state.finished = false
  smooth : Smooth run.script
  split : ∃ rest, left = run.state.buffered ++ rest ∧
    (run.state.live.isSome → Serving setup rest run.script.fetches) ∧
    (run.state.live = none → rest = [] ∨ limitReached setup run.state = true)
  cut : limitReached setup run.state = true → run.state.live = none
  calls : run.script.fetches.length + (if run.state.buffered = [] then 0 else 1) ≤ n

namespace Serves

variable {left : List α} {n : Nat}

/-- **A round trip moves documents** from the server to the batch that is there; what is left stays
the same, and one answer is used up. -/
theorem getMore (h : Serves setup left n run) (empty : run.state.buffered = [])
    (live : run.state.live.isSome) :
    ∃ after, Cursor.getMore setup run = .pure () after ∧ Serves setup left n after ∧
      after.script.fetches.length < n := by
  obtain ⟨rest, whole, serving, -⟩ := h.split
  obtain ⟨here, later, more, split, brings, serves, ends, turns⟩ := (serving live).next
  obtain ⟨source, cursor, -, trip⟩ := getMore_trip setup h.sourced live
  have arrived := trip.arrived h.isOpen h.smooth brings
  -- One answer fewer is left, and there may be a batch for it.
  have length := List.length_pos_iff.mpr turns
  have tail := congrArg List.length arrived.fetches
  rw [List.length_tail] at tail
  have calls := h.calls
  rw [empty, if_pos rfl, Nat.add_zero] at calls
  refine ⟨(Cursor.getMore setup run).run, ?_, ⟨trip.sourced h.sourced, arrived.isOpen,
    trip.finished_eq.trans h.unfinished, arrived.smooth, ⟨later, ?_, ?_, ?_⟩, arrived.cut, ?_⟩,
    by omega⟩
  · have ok := arrived.ok
    generalize Cursor.getMore setup run = outcome at ok
    obtain ⟨result, after⟩ := outcome
    obtain rfl : result = .ok () := ok
    rfl
  · rw [whole, empty, List.nil_append, split, arrived.buffered]
  · intro some
    rw [arrived.fetches]
    exact serves (arrived.kept some)
  · exact fun none => (arrived.gone none).imp_left ends
  · split <;> omega

/-- **Handing out a batch** leaves what comes after it, with one call fewer to be made. -/
theorem hand (h : Serves setup left n run) (ready : run.state.buffered ≠ []) :
    ∃ later fewer, left = run.state.buffered ++ later ∧ n = fewer + 1 ∧
      Serves setup later fewer (run.modify fun state => { state with buffered := [] }) := by
  obtain ⟨rest, whole, serving, ended⟩ := h.split
  have calls := h.calls
  rw [if_neg ready] at calls
  refine ⟨rest, n - 1, whole, by omega, h.sourced, h.isOpen, h.unfinished, h.smooth,
    ⟨rest, rfl, serving, ended⟩, h.cut, ?_⟩
  show run.script.fetches.length + 0 ≤ n - 1
  omega

/-- The batch size says nothing about what is left, since the server may cut its answers in any
way. -/
theorem resize (h : Serves setup left n run) (size : Int32) :
    Serves setup left n (run.modify fun state => { state with batchSize := size }) :=
  ⟨h.sourced, h.isOpen, h.unfinished, h.smooth, h.split, h.cut, h.calls⟩

/-- Fetching until there is a batch succeeds, whatever the fuel is, and leaves what is left as it
is. -/
theorem fetchUntilBatch (h : Serves setup left n run) (empty : run.state.buffered = [])
    (fuel : Nat) :
    ∃ more after, Cursor.fetchUntilBatch setup fuel run = .pure more after ∧
      Serves setup left n after := by
  -- Whether the fuel reaches is no matter here: what is left stays what it is after every fetch.
  induction fuel generalizing run with
  | zero => exact ⟨false, run, rfl, h⟩
  | succ fuel ih =>
    rw [Cursor.fetchUntilBatch]
    by_cases hl : run.state.live.isNone = true
    · rw [if_pos hl]
      exact ⟨false, run, rfl, h⟩
    · have live : run.state.live.isSome := by simpa [Option.isSome_iff_ne_none] using hl
      obtain ⟨after, got, serves, -⟩ := h.getMore empty live
      rw [if_neg hl, got, Outcome.andThen_pure, ensureOpen_open setup serves.isOpen,
        Outcome.andThen_pure]
      by_cases hb : after.state.buffered.isEmpty = true
      · rw [if_pos hb]
        exact ih serves (List.isEmpty_iff.mp hb)
      · rw [if_neg hb]
        exact ⟨true, after, rfl, serves⟩

/-- **Whether there is another batch** is found out without a failure, and what is left stays as it
is. -/
theorem hasNext (h : Serves setup left n run) :
    ∃ more after, Cursor.hasNext setup run = .pure more after ∧ Serves setup left n after ∧
      Knows setup more after := by
  obtain ⟨more, after, looked, serves⟩ :
      ∃ more after, Cursor.hasNext setup run = .pure more after ∧ Serves setup left n after := by
    by_cases hb : run.state.buffered = []
    · unfold Cursor.hasNext
      rw [ensureOpen_open setup h.isOpen, Outcome.andThen_pure, if_neg (by simp [hb])]
      split
      · exact ⟨false, run, rfl, h⟩
      · exact h.fetchUntilBatch hb _
    · exact ⟨true, run, hasNext_ready setup h.isOpen hb, h⟩
  have knows := (hasNext_follows setup h.sourced).tells
  rw [looked] at knows
  exact ⟨more, after, looked, serves, knows more rfl⟩

end Serves

/-- What is left of a cursor that was just made is what the server returns: the first batch, and
after it `rest`. -/
theorem Made.serves {batchSize : Int32} {first : Reply α} {source : Option Source}
    {script : Script} {rest : List α} (h : Made setup batchSize first source script run)
    (smooth : Smooth script) (hrest : first.cursor = none → rest = [])
    (hserving : first.cursor.isSome → Serving setup rest script.fetches) :
    Serves setup (first.documents ++ rest) (script.fetches.length + 1) run := by
  obtain ⟨live, state, goes, cuts⟩ := h.state
  have smooth' := smooth.of_suffix h.quietly.grants h.quietly.kills
  have fetches : run.script.fetches = script.fetches := h.quietly.fetches
  refine ⟨h.sourced, by rw [state], by rw [state], smooth', ⟨rest, by rw [state], ?_, ?_⟩, ?_, ?_⟩
  · intro some
    rw [state] at some
    rw [fetches]
    obtain rfl | ⟨rfl, -⟩ := goes
    · exact hserving some
    · exact absurd some (by simp)
  · intro none
    rw [state] at none
    obtain rfl | ⟨-, reached⟩ := goes
    · exact Or.inl (hrest none)
    · exact Or.inr reached
  · intro reached
    rw [state]
    exact (cuts reached).resolve_right smooth.not_killFails
  · rw [fetches]
    split <;> omega

end DocumentCursor.Cursor
