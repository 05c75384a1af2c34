import DocumentCursor.Proofs.CreateAndFinish

/-! # Paths of a cursor

Whatever is asked of a cursor, it does by steps of a few kinds: it fetches a batch, hands one out,
does the work of closing, or only notes or reports something. A `Path` is a sequence of such steps
with what they give to the caller. What each step preserves holds therefore in all runs.

* **`Step`** and **`Path`**, with `Path.invariant` for what every step preserves.
* **`Step.sourced`**: the source is held as long as the server holds a cursor, after every step.
* **`Step.finished`**: the work of closing is done for good.
* **`Step.grows`**: what has happened stays.
-/

namespace DocumentCursor.Cursor

open Net

variable {α β : Type} {setup : Setup α} {run after : Run α}

/-! ## Steps -/

/-- What is given to a caller: `.ok` of a batch that is handed out, or the error of a failure. -/
abbrev Output (α : Type) := Except CursorError (List α)

/-- What is given to a caller with a result: what `handed` says of a success, or the failure. -/
def outputs (handed : β → List (Output α)) : Except CursorError β → List (Output α)
  | .ok value => handed value
  | .error error => [.error error]

/-- What is given to a caller with a result that hands out nothing. -/
def failures (result : Except CursorError β) : List (Output α) := outputs (fun _ => []) result

/-- **A step of a cursor**, with what it gives to the caller. -/
inductive Step (setup : Setup α) : Run α → List (Output α) → Run α → Prop
  /-- The cursor is marked as closed, here or from elsewhere. -/
  | shut (run : Run α) : Step setup run [] run.markClosed
  /-- Another batch size is set. -/
  | resize (run : Run α) (size : Int32) :
      Step setup run [] (run.modify fun state => { state with batchSize := size })
  /-- A call on a closed cursor is refused. -/
  | deny {run : Run α} (closed : run.state.closed = true) :
      Step setup run [.error .cursorClosed] run
  /-- There is no next batch. -/
  | lack {run : Run α} (isOpen : run.state.closed = false) (empty : run.state.buffered = [])
      (ended : limitReached setup run.state = true ∨ run.state.live = none) :
      Step setup run [.error .noSuchElement] run
  /-- The batch that was not handed out yet is handed out. -/
  | hand {run : Run α} (ready : run.state.buffered ≠ []) :
      Step setup run [.ok run.state.buffered]
        (run.modify fun state => { state with buffered := [] })
  /-- The next batch is fetched. -/
  | fetch {run : Run α} (isOpen : run.state.closed = false) (empty : run.state.buffered = [])
      (unreached : limitReached setup run.state = false) (live : run.state.live.isSome) :
      Step setup run (failures (getMore setup run).result) (getMore setup run).run
  /-- The work of closing is done. -/
  | finish {run : Run α} (closed : run.state.closed = true)
      (unfinished : run.state.finished = false) : Step setup run [] (Cursor.finish setup run)

/-- **Steps one after the other**, with what they give to the caller in order. -/
inductive Path (setup : Setup α) : Run α → List (Output α) → Run α → Prop
  | nil (run : Run α) : Path setup run [] run
  | cons {first second third : Run α} {here later : List (Output α)}
      (step : Step setup first here second) (rest : Path setup second later third) :
      Path setup first (here ++ later) third

namespace Path

/-- A single step is a path, `Path.cons step (.nil _)`. -/
theorem single {given : List (Output α)} (step : Step setup run given after) :
    Path setup run given after := by
  simpa using Path.cons step (.nil after)

/-- Two paths one after the other are a path, which gives the caller `here ++ later`. -/
theorem trans {first second third : Run α} {here later : List (Output α)}
    (h : Path setup first here second) (h' : Path setup second later third) :
    Path setup first (here ++ later) third := by
  induction h with
  | nil run => exact h'
  | cons step rest ih =>
    -- The step stays first.
    rw [List.append_assoc]
    exact .cons step (ih h')

/-- **What every step preserves holds after a path.** The property `P given run` may speak of all
that was given to the caller so far, by this path and before it. -/
theorem invariant {P : List (Output α) → Run α → Prop}
    (step : ∀ {given here first second}, P given first → Step setup first here second →
      P (given ++ here) second)
    {given here : List (Output α)} {first second : Run α} (h : P given first)
    (path : Path setup first here second) : P (given ++ here) second := by
  induction path generalizing given with
  | nil run => simpa using h
  | cons one rest ih =>
    rw [← List.append_assoc]
    exact ih (step h one)

end Path

/-! ## What stays along a path -/

/-- **The source is held as long as the server holds a cursor**, after every step: `Sourced` is an
invariant. -/
theorem Step.sourced {given : List (Output α)} (h : Sourced run)
    (step : Step setup run given after) : Sourced after := by
  cases step with
  | shut | resize | deny | lack | hand => exact h
  | fetch isOpen empty unreached live =>
    obtain ⟨source, cursor, -, trip⟩ := getMore_trip setup h live
    exact trip.sourced h
  | finish closed unfinished => simp [Sourced, finish_state setup h closed]

/-- `Sourced` holds after a path if it held before. -/
theorem Path.sourced {given : List (Output α)} (h : Sourced run)
    (path : Path setup run given after) : Sourced after := by
  induction path with
  | nil run => exact h
  | cons step rest ih => exact ih (step.sourced h)

/-- The work of closing is done for good: no step takes `finished` back. -/
theorem Step.finished {given : List (Output α)} (h : Sourced run)
    (step : Step setup run given after) (hf : run.state.finished = true) :
    after.state.finished = true := by
  cases step with
  | shut | resize | deny | lack | hand => exact hf
  | fetch isOpen empty unreached live =>
    obtain ⟨source, cursor, -, trip⟩ := getMore_trip setup h live
    rw [trip.finished_eq]
    exact hf
  | finish closed unfinished => rw [finish_state setup h closed]

/-- What is not finished after a step was not finished before it, which is `Step.finished` the other
way round. -/
theorem Step.unfinished {given : List (Output α)} (h : Sourced run)
    (step : Step setup run given after) (hf : after.state.finished = false) :
    run.state.finished = false :=
  Bool.eq_false_iff.mpr fun done => absurd (step.finished h done) (by simp [hf])

/-- The work of closing is done for good, over a whole path. -/
theorem Path.finished {given : List (Output α)} (h : Sourced run)
    (path : Path setup run given after) (hf : run.state.finished = true) :
    after.state.finished = true := by
  induction path with
  | nil run => exact hf
  | cons step rest ih => exact ih (step.sourced h) (step.finished h hf)

/-- What has happened stays: `run.events` is a prefix of the events after a step. -/
theorem Step.grows {given : List (Output α)} (h : Sourced run)
    (step : Step setup run given after) : run.events <+: after.events := by
  cases step with
  | shut | resize | deny | lack | hand => exact List.prefix_rfl
  | fetch isOpen empty unreached live =>
    obtain ⟨source, cursor, -, trip⟩ := getMore_trip setup h live
    exact trip.grows
  | finish closed unfinished => exact (finish_quietly setup h).grows

/-- What has happened stays over a whole path. -/
theorem Path.grows {given : List (Output α)} (h : Sourced run)
    (path : Path setup run given after) : run.events <+: after.events := by
  induction path with
  | nil run => exact List.prefix_rfl
  | cons step rest ih => exact (step.grows h).trans (ih (step.sourced h))

end DocumentCursor.Cursor
