import DocumentCursor.Proofs.RoundTripSummary

/-! # The beginning and the end of a cursor

A cursor begins with the first batch of a query, and when it is closed nothing is left of it but its
count and its batch size.

* **`finish_state`** and **`finish_quietly`**: the work of closing.
* **`create_made`**: a cursor is `Made`, or nothing happens.
-/

namespace DocumentCursor.Cursor

open Net

variable {α : Type} {setup : Setup α} {run : Run α}

/-! ## The work of closing -/

/-- The run when the work of closing has given up the connection that was kept, before it kills the
server's cursor. -/
def closing (run : Run α) : Run α :=
  unpin (run.modify fun state => { state with finished := true })

@[simp] theorem state_closing (run : Run α) :
    (closing run).state = { run.state with finished := true, pinned := none } :=
  state_unpin _

/-- Giving up a connection is quiet, and `closing` does nothing else that is an event. -/
theorem Quietly.closing (run : Run α) : Quietly 0 run (Cursor.closing run) :=
  (Quietly.modify _ run).zero_trans (.unpin _)

/-- What the work of closing does next is to kill the server's cursor, on a connection of its
own. -/
theorem closing_pruned (setup : Setup α) (h : Sourced run) :
    Pruned (closing run) (killOnNew setup (closing run)).run :=
  killOnNew_pruned setup (by simp only [state_closing]; exact h.trans)

/-- **After the work of closing** nothing is left but the count and the batch size: `source`,
`live`, `buffered` and `pinned` are empty, and both flags are set. That the cursor was closed before
is what makes the answers of that work of no consequence. -/
theorem finish_state (setup : Setup α) (h : Sourced run) (hc : run.state.closed = true) :
    (finish setup run).state =
      ⟨run.state.batchSize, none, none, [], run.state.count, true, true, none⟩ := by
  obtain ⟨live, closed, state, -⟩ := (closing_pruned setup h).state
  show ((release ((killOnNew setup (closing run)).run.modify _)).modify _).state = _
  simp only [Run.state_modify, state_release, state, state_closing, hc, Bool.true_or]

/-- **The work of closing is quiet**, and the source is let go of if it was held, whatever the
acquire and the kill in it come to. -/
theorem finish_quietly (setup : Setup α) (h : Sourced run) :
    Quietly (if run.state.source.isSome then 1 else 0) run (finish setup run) := by
  have pruned := closing_pruned setup h
  obtain ⟨live, closed, state, -⟩ := pruned.state
  have killed : Quietly 0 run
      ((killOnNew setup (closing run)).run.modify fun state => { state with live := none }) :=
    ((Quietly.closing run).zero_trans pruned.quietly).zero_trans (.of_eq rfl rfl)
  have released := Quietly.release
    ((killOnNew setup (closing run)).run.modify fun state => { state with live := none })
  simp only [Run.state_modify, state, state_closing] at released
  exact (killed.zero_trans released).trans_zero (.of_eq rfl rfl)

/-! ## The making of a cursor -/

/-- Killing the server's cursor after the first batch is quiet, and changes `live` only. It is gone
if the limit was reached and the kill succeeded, and stays otherwise. Nobody can close the cursor
then, so the flag `closed` stays as it is. -/
theorem killIfReached_quietly (setup : Setup α) (connection : Option Connection) (run : Run α)
    (hs : run.state.live.isSome → run.state.source.isSome) (hc : run.state.closed = false) :
    Quietly 0 run (killIfReached setup connection run) ∧
      ∃ live, (killIfReached setup connection run).state = { run.state with live } ∧
        (live = run.state.live ∨ live = none ∧ limitReached setup run.state = true) ∧
        (limitReached setup run.state = true → live = none ∨ KillFails run.script) := by
  unfold killIfReached
  by_cases reached : limitReached setup run.state = true
  · rw [if_pos reached]
    -- On which connection the kill is made is no matter for what it leaves behind.
    have pruned : ∀ after : Run α, Pruned run after →
        Quietly 0 run (after.modify fun state => { state with closed := false }) ∧
          ∃ live, (after.modify fun state => { state with closed := false }).state =
              { run.state with live } ∧
            (live = run.state.live ∨ live = none ∧ limitReached setup run.state = true) ∧
            (limitReached setup run.state = true → live = none ∨ KillFails run.script) := by
      rintro after ⟨quiet, live, closed, state, ended⟩
      refine ⟨quiet.zero_trans (.modify _ _), live, ?_, ?_, fun _ => ended.imp_right And.right⟩
      · simp only [Run.state_modify, state, ← hc]
      · exact ended.elim (fun h => Or.inr ⟨h, reached⟩) fun h => Or.inl h.1
    cases connection with
    | none => exact pruned _ (killOnNew_pruned setup hs)
    | some connection => exact pruned _ (killOn_pruned setup connection hs)
  · rw [if_neg reached]
    exact ⟨.of_eq rfl rfl, run.state.live, rfl, Or.inl rfl, fun h => absurd h reached⟩

/-- The run when the source is held on to and nothing has been received: the first thing that
happens to a cursor, if it has a source. -/
def started (batchSize : Int32) (source : Option Source) (script : Script) : Run α :=
  ⟨.initial batchSize source, script, 0, if source.isSome then [.retain] else []⟩

/-- **A cursor that was just made**: it holds the first batch and has counted it, it is open, it
keeps no connection, and it holds its source exactly if the server holds a cursor. -/
structure Made (setup : Setup α) (batchSize : Int32) (first : Reply α) (source : Option Source)
    (script : Script) (run : Run α) : Prop where
  sourced : Sourced run
  state : ∃ live, run.state =
    ⟨batchSize, if live.isNone then none else source, live, first.documents,
      Saturating.add 0 (Saturating.clamp first.documents.length), false, false, none⟩ ∧
    (live = first.cursor ∨ live = none ∧ limitReached setup run.state = true) ∧
    (limitReached setup run.state = true → live = none ∨ KillFails script)
  quietly : Quietly (if run.state.live.isNone && source.isSome then 1 else 0)
    (absorb first (started batchSize source script)) run

/-- A cursor is refused before anything happens, or its source is held on to, its first batch is
taken over by `absorb`, and `killIfReached` and `releaseIfExhausted` follow. -/
theorem create_cases (setup : Setup α) (batchSize : Int32) (first : Reply α)
    (source : Option Source) (connection : Option Connection) (script : Script) :
    let outcome := create setup batchSize first source connection script
    (∃ error, outcome.result = .error error) ∧ outcome.run.events = [] ∨
      (first.cursor.isSome → source.isSome) ∧
        outcome = .pure () (releaseIfExhausted (killIfReached setup connection
          (absorb first (started batchSize source script)))) := by
  intro outcome
  by_cases hneg : setup.maxTimeMs < 0
  · have refused : outcome = .fail (.invalidArgument
        ("maxTimeMS must be >= 0, got " ++ toString setup.maxTimeMs.toInt))
          ⟨.initial batchSize none, script, 0, []⟩ := if_pos hneg
    exact Or.inl ⟨⟨_, congrArg Outcome.result refused⟩, congrArg (·.run.events) refused⟩
  by_cases hmissing : (first.cursor.isSome && source.isNone) = true
  · have refused : outcome = .fail .missingConnectionSource
        ⟨.initial batchSize none, script, 0, []⟩ := (if_neg hneg).trans (if_pos hmissing)
    exact Or.inl ⟨⟨_, congrArg Outcome.result refused⟩, congrArg (·.run.events) refused⟩
  refine Or.inr ⟨fun names => ?_, ?_⟩
  · cases source with
    | none => simp [names] at hmissing
    | some source => rfl
  · cases source <;> exact (if_neg hneg).trans (if_neg hmissing)

/-- **What the first batch leaves is a cursor that was just made**, if there is a source when the
server holds a cursor. None of the answers of the script can prevent that. -/
theorem made_of_held (setup : Setup α) (batchSize : Int32) {first : Reply α}
    {source : Option Source} (connection : Option Connection) (script : Script)
    (held : first.cursor.isSome → source.isSome) :
    Made setup batchSize first source script (releaseIfExhausted (killIfReached setup connection
      (absorb first (started batchSize source script)))) := by
  set taken := absorb first (started batchSize source script) with htaken
  obtain ⟨quiet, live, state, goes, cuts⟩ := killIfReached_quietly setup connection taken held rfl
  set killed := killIfReached setup connection taken
  have final : (releaseIfExhausted killed).state =
      ⟨batchSize, if live.isNone then none else source, live, first.documents,
        Saturating.add 0 (Saturating.clamp first.documents.length), false, false, none⟩ := by
    simp only [state_releaseIfExhausted, state, htaken, state_absorb]
    rfl
  -- Neither the kill nor the release counts anything, so the limit is reached as before them.
  have same : limitReached setup (releaseIfExhausted killed).state =
      limitReached setup taken.state := limitReached_congr (by rw [final]; rfl)
  refine ⟨?_, ⟨live, final, ?_⟩, ?_⟩
  · rw [Sourced, final]
    cases hl : live with
    | none => rfl
    | some cursor =>
      obtain rfl | ⟨none, -⟩ := goes
      · exact held (by rw [show first.cursor = some cursor from hl]; rfl)
      · exact absurd (none.symm.trans hl) (by simp)
  · rw [← same] at goes cuts
    exact ⟨goes, cuts⟩
  · have released := Quietly.releaseIfExhausted killed
    simp only [state, htaken, state_absorb] at released
    rw [final]
    exact quiet.zero_trans released

/-- **A cursor is made, or the source is not touched**: where `create` fails there are no events at
all. -/
theorem create_made (setup : Setup α) (batchSize : Int32) (first : Reply α)
    (source : Option Source) (connection : Option Connection) (script : Script) :
    let outcome := create setup batchSize first source connection script
    (∃ error, outcome.result = .error error) ∧ outcome.run.events = [] ∨
      outcome.result = .ok () ∧ Made setup batchSize first source script outcome.run := by
  intro outcome
  obtain refused | ⟨held, made⟩ := create_cases setup batchSize first source connection script
  · exact Or.inl refused
  · rw [show outcome = _ from made]
    exact Or.inr ⟨rfl, made_of_held setup batchSize connection script held⟩

end DocumentCursor.Cursor
