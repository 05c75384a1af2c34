import DocumentCursor.Proofs.CallPaths

/-! # What an open cursor has been spared

Every answer says whether the cursor is closed from elsewhere before it arrives: that of the source
to the one who asks for a connection, that of a server to a request for documents, and that to a
kill. None of them is looked at for that when it arrives, so a round trip or a whole search may go
on for a while. But the flag stays: a cursor that is open in the end was open all the way, no answer
that was used up has closed it, and no call has.

* **`UsedUp`** and **`Spared`**: no answer between a script and what is left of it closes the cursor.
* **`Unclosed`**: if the cursor is open in the later of two runs, nobody closed it on the way.
* **`Path.unclosed`**: every path is of that kind.
* **`Life.uncalled_of_open`**: and no call on an open cursor was one that closes it.
-/

namespace DocumentCursor.Cursor

variable {α : Type} {setup : Setup α} {connection : Connection} {source : Source}
  {cursor : ServerCursor} {run after : Run α} {outcome : Outcome α Unit}

/-! ## Answers that were used up -/

section Lists

variable {β : Type} {closes : β → Bool} {items left : List β}

/-- **The items in front of `left` were used up, and none of them closes anything**: `items` extends
`left` by items with `closes item = false`. -/
def UsedUp (closes : β → Bool) (items left : List β) : Prop :=
  ∃ used, items = used ++ left ∧ ∀ item ∈ used, closes item = false

/-- Where nothing was used up nothing closes: `used` is `[]`. -/
theorem UsedUp.refl (closes : β → Bool) (items : List β) : UsedUp closes items items :=
  ⟨[], rfl, by simp⟩

theorem UsedUp.trans {last : List β} (h : UsedUp closes items left)
    (h' : UsedUp closes left last) : UsedUp closes items last := by
  obtain ⟨used, rfl, calm⟩ := h
  obtain ⟨later, rfl, quiet⟩ := h'
  refine ⟨used ++ later, (List.append_assoc ..).symm, fun item listed => ?_⟩
  exact (List.mem_append.mp listed).elim (calm item) (quiet item)

/-- The first item is used up, if there is one: `items.tail` is left, and `items.headD` closes
nothing. -/
theorem UsedUp.tail {fallback : β} (calm : closes (items.headD fallback) = false) :
    UsedUp closes items items.tail := by
  cases items with
  | nil => exact .refl closes []
  | cons item items => exact ⟨[item], rfl, by simpa using calm⟩

end Lists

/-- **The cursor was spared from one script to what is left of it**: no answer that was used up,
whether for a connection, for documents or for a kill, has closed it. -/
structure Spared (script left : Script) : Prop where
  grants : UsedUp Grant.closes script.grants left.grants
  fetches : UsedUp Turn.closes script.fetches left.fetches
  kills : UsedUp Turn.closes script.kills left.kills

theorem Spared.refl (script : Script) : Spared script script :=
  ⟨.refl _ _, .refl _ _, .refl _ _⟩

theorem Spared.trans {script left last : Script} (h : Spared script left)
    (h' : Spared left last) : Spared script last :=
  ⟨h.grants.trans h'.grants, h.fetches.trans h'.fetches, h.kills.trans h'.kills⟩

/-! ## Runs between which nobody closed the cursor -/

/-- **If the cursor is open in the later run, nobody closed it on the way**: it was open in the
earlier one, and was `Spared` in between. -/
def Unclosed (run after : Run α) : Prop :=
  after.state.closed = false → run.state.closed = false ∧ Spared run.script after.script

namespace Unclosed

variable {first second third : Run α}

theorem trans (h : Unclosed first second) (h' : Unclosed second third) :
    Unclosed first third := by
  intro isOpen
  obtain ⟨midway, later⟩ := h' isOpen
  obtain ⟨before, here⟩ := h midway
  exact ⟨before, here.trans later⟩

/-- No answer is used up while only the events and the rest of the state change. -/
theorem of_eq (closed : second.state.closed = first.state.closed)
    (script : second.script = first.script) : Unclosed first second := fun isOpen =>
  ⟨closed.symm.trans isOpen, script ▸ .refl _⟩

/-- The source grants a connection: `run.nextGrant` is used up. -/
theorem granted (run : Run α) : Unclosed run run.granted := by
  intro isOpen
  rw [state_granted, Bool.or_eq_false_iff] at isOpen
  exact ⟨isOpen.1, .tail isOpen.2, .refl _ _, .refl _ _⟩

/-- The source refuses a connection: `run.nextGrant` is used up all the same. -/
theorem refused (run : Run α) : Unclosed run run.refused := by
  intro isOpen
  rw [state_refused, Bool.or_eq_false_iff] at isOpen
  exact ⟨isOpen.1, .tail isOpen.2, .refl _ _, .refl _ _⟩

/-- Documents are asked for: `run.fetchTurn` is used up. -/
theorem askFetch (setup : Setup α) (connection : Connection) (source : Source)
    (cursor : ServerCursor) (run : Run α) :
    Unclosed run (askFetch setup connection source cursor run) := by
  intro isOpen
  rw [state_askFetch, Bool.or_eq_false_iff] at isOpen
  exact ⟨isOpen.1, .refl _ _, .tail isOpen.2, .refl _ _⟩

/-- A cursor is killed: `run.killTurn` is used up. -/
theorem askKill (setup : Setup α) (connection : Connection) (source : Source) (id : Int64)
    (run : Run α) : Unclosed run (askKill setup connection source id run) := by
  intro isOpen
  rw [state_askKill, Bool.or_eq_false_iff] at isOpen
  exact ⟨isOpen.1, .refl _ _, .refl _ _, .tail isOpen.2⟩

/-- What is done with a connection after a round trip uses up no answer. -/
theorem settle (setup : Setup α) (connection : Connection) (run : Run α) :
    Unclosed run (settle setup connection run) :=
  of_eq (by rw [state_settle]) (script_settle ..)

/-- Nor does letting go of the source. -/
theorem releaseIfExhausted (run : Run α) : Unclosed run (releaseIfExhausted run) :=
  of_eq (by rw [state_releaseIfExhausted]) (script_releaseIfExhausted ..)

end Unclosed

/-! ## Round trips -/

/-- A kill uses up its answer whether or not it succeeds. -/
theorem Killed.unclosed (h : Killed setup connection source cursor run outcome) :
    Unclosed run outcome.run := by
  have asked := Unclosed.askKill setup connection source cursor.id run
  cases h with
  | gone read => exact asked.trans (.of_eq rfl rfl)
  | kept read => exact asked

/-- A fetch uses up the answer to its request, and that to a kill if its reply reaches the limit. -/
theorem Fetched.unclosed (h : Fetched setup connection source cursor run outcome) :
    Unclosed run outcome.run := by
  have asked := Unclosed.askFetch setup connection source cursor run
  cases h with
  | failed received => exact asked
  | taken received last => exact (asked.trans (.of_eq rfl rfl)).trans (.releaseIfExhausted _)
  | @cut reply next killing received names reached killed =>
    have cut := (asked.trans (.of_eq rfl rfl)).trans killed.unclosed
    obtain ⟨result, last⟩ := killing
    cases result with
    | ok value => exact cut.trans (.releaseIfExhausted last)
    | error error => exact cut

/-- A connection that was kept is there at once, and a new one uses up a grant. -/
theorem Opened.unclosed {opened : Run α} (h : Opened run connection opened) :
    Unclosed run opened := by
  cases h with
  | kept pinned => exact .of_eq rfl rfl
  | made unpinned => exact .granted run

/-- **If the cursor is open after a round trip, nobody closed it in the round trip**, neither while
the connection was opened nor while an answer was waited for. -/
theorem Round.unclosed (h : Round setup source cursor run outcome) : Unclosed run outcome.run := by
  cases h with
  | refused unpinned listed => exact .refused run
  | made connected fetched =>
    exact (connected.unclosed.trans fetched.unclosed).trans (.settle setup _ _)

/-! ## Paths -/

/-- If the cursor is open after a step, nobody closed it in the step. It is not, after the work of
closing and after the step `shut`. -/
theorem Step.unclosed {given : List (Output α)} (h : Sourced run)
    (step : Step setup run given after) : Unclosed run after := by
  cases step with
  | shut => exact fun isOpen => absurd isOpen (by simp [Run.markClosed])
  | finish closed => exact fun isOpen => absurd isOpen (by simp [finish_state setup h closed])
  | resize | deny | lack | hand => exact .of_eq rfl rfl
  | fetch isOpen empty unreached live =>
    obtain ⟨cursor, names⟩ := Option.isSome_iff_exists.mp live
    obtain ⟨source, held⟩ := Option.isSome_iff_exists.mp (h.trans live)
    exact (getMore_round setup held names).unclosed

/-- **If the cursor is open after a path, nobody closed it on the path**, by induction on the
path. -/
theorem Path.unclosed {given : List (Output α)} (h : Sourced run)
    (path : Path setup run given after) : Unclosed run after := by
  induction path with
  | nil run => exact .of_eq rfl rfl
  | cons step rest ih => exact (step.unclosed h).trans (ih (step.sourced h))

/-! ## Calls -/

/-- Closing closes: `closed` is set after `close`, also where the work was done before. -/
theorem closed_close (setup : Setup α) (h : Sourced run) :
    (close setup run).state.closed = true := by
  show (if run.markClosed.state.finished then run.markClosed
    else finish setup run.markClosed).state.closed = true
  split
  · rfl
  · exact congrArg (·.closed) (finish_state setup (show Sourced run.markClosed from h) rfl)

/-- Whether a call closes the cursor: `close`, `drop`, and `handleClose` from elsewhere. -/
def Call.closes : Call → Bool
  | close | handleClose | drop => true
  | _ => false

namespace Life

/-- A call does not open a cursor that was closed: `closed` stays set. -/
theorem still_closed_perform {life : Life α} (h : Sourced life.run)
    (closed : life.run.state.closed = true) (call : Call) :
    (life.perform call).2.run.state.closed = true := by
  refine Bool.of_not_eq_false fun isOpen => ?_
  exact absurd closed (by simp [((perform_path call h).unclosed h isOpen).1])

/-- **A call that closes the cursor leaves it closed**, also if it is not made because the cursor
was dropped, since the cursor is closed then. -/
theorem closed_perform {life : Life α} (h : Sourced life.run)
    (dropped : life.dropped = true → life.run.state.closed = true) {call : Call}
    (closes : call.closes = true) : (life.perform call).2.run.state.closed = true := by
  cases gone : life.dropped with
  | true => exact still_closed_perform h (dropped gone) call
  | false =>
    rw [perform, gone]
    cases call with
    | close | drop => exact closed_close life.setup h
    | handleClose => rfl
    | hasNext | nextBatch | tryNext | next | collect | setBatchSize | batchSize | limit | count
    | ns | serverCursor | serverAddress | isClosed | handleIsClosed =>
      exact absurd closes (by simp [Call.closes])

/-- A cursor that was dropped is closed, after each call as before it: `.drop` closes it, and any
other call leaves both as they are. -/
theorem closed_of_dropped_perform {life : Life α} (h : Sourced life.run)
    (closed : life.dropped = true → life.run.state.closed = true) (call : Call) :
    (life.perform call).2.dropped = true → (life.perform call).2.run.state.closed = true := by
  intro dropped
  by_cases drops : call = .drop
  · exact closed_perform h closed (by rw [drops]; rfl)
  · rw [dropped_perform drops] at dropped
    exact still_closed_perform h (closed dropped) call

/-- A cursor that was dropped stays closed: `dropped = true → closed = true` is kept by any
calls. -/
theorem closed_of_dropped (calls : List Call) {life : Life α} (h : Sourced life.run)
    (closed : life.dropped = true → life.run.state.closed = true) :
    (performAll calls life).2.dropped = true →
      (performAll calls life).2.run.state.closed = true := by
  induction calls generalizing life with
  | nil => exact closed
  | cons call calls ih =>
    exact ih ((perform_path call h).sourced h) (closed_of_dropped_perform h closed call)

/-- **No call on an open cursor was one that closes it**: if the cursor is open after some calls,
then `call.closes = false` for all of them. -/
theorem uncalled_of_open (calls : List Call) {life : Life α} (h : Sourced life.run)
    (closed : life.dropped = true → life.run.state.closed = true)
    (isOpen : (performAll calls life).2.run.state.closed = false) :
    ∀ call ∈ calls, call.closes = false := by
  induction calls generalizing life with
  | nil => simp
  | cons call calls ih =>
    have sourced := (perform_path call h).sourced h
    have midway := ((performAll_path calls sourced).unclosed sourced isOpen).1
    have rest := ih sourced (closed_of_dropped_perform h closed call) isOpen
    refine List.forall_mem_cons.mpr ⟨Bool.eq_false_iff.mpr fun closes => ?_, rest⟩
    exact absurd (closed_perform h closed closes) (by simp [midway])

end Life

end DocumentCursor.Cursor
