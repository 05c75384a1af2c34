import DocumentCursor.Proofs.CallPaths

/-! # Delivery of the documents

A batch is overwritten by the next one, and is there to be handed out even when the call that
brought it failed. Still no document is lost, none is handed out twice and all are in order, because
no batch is fetched before the last one was handed out.

* **`served`**: the documents that the server sent, batch by batch, in answer to what was asked.
* **`Delivery`**: what was handed out and what is there are the batches that the server sent.
* **`Step.delivery`**: every step keeps it so.
* **`documents_delivered`**: so it is in every life of a cursor.
-/

namespace DocumentCursor.Cursor

variable {α : Type} {setup : Setup α} {run after : Run α}

/-! ## Batches -/

/-- The batches that were handed out: the successes among what was given to the caller. -/
def handedOut (given : List (Output α)) : List (List α) := given.filterMap Except.toOption

@[simp] theorem handedOut_nil : handedOut ([] : List (Output α)) = [] := rfl

@[simp] theorem handedOut_append (given others : List (Output α)) :
    handedOut (given ++ others) = handedOut given ++ handedOut others :=
  List.filterMap_append

@[simp] theorem handedOut_ok (batch : List α) : handedOut [.ok batch] = [batch] := rfl

@[simp] theorem handedOut_error (error : CursorError) :
    handedOut [(.error error : Output α)] = [] := rfl

@[simp] theorem handedOut_failures {β : Type} (result : Except CursorError β) :
    handedOut (failures result : List (Output α)) = [] := by
  cases result <;> rfl

/-- The batches that are worth handing out: those that are not empty. -/
def nonempty (batches : List (List α)) : List (List α) := batches.filter fun batch => !batch.isEmpty

@[simp] theorem nonempty_nil : nonempty ([] : List (List α)) = [] := rfl

@[simp] theorem nonempty_append (batches others : List (List α)) :
    nonempty (batches ++ others) = nonempty batches ++ nonempty others :=
  List.filter_append ..

@[simp] theorem nonempty_singleton_nil : nonempty [([] : List α)] = [] := rfl

/-- `(nonempty batches).flatten = batches.flatten`: empty batches bring no documents. -/
theorem flatten_nonempty (batches : List (List α)) :
    (nonempty batches).flatten = batches.flatten := by
  induction batches with
  | nil => rfl
  | cons batch batches ih =>
    cases batch <;> simp_all [nonempty]

/-! ## What the server sent -/

/-- **The documents that the server sent**, batch by batch: the first batch, and what the answers to
the requests for more brought. An answer is counted by `answered` even if the call that asked for it
failed later. -/
def served (setup : Setup α) (first : List α) (turns : List (Turn Batch)) (run : Run α) :
    List (List α) :=
  first :: answered setup (requests run.events) turns

/-- **What was handed out and what is there are the batches that the server sent.** That is `whole`,
as long as the work of closing was not done; after it only `part` is left, since that work drops the
batch that is there. -/
structure Delivery (setup : Setup α) (first : List α) (turns : List (Turn Batch))
    (given : List (Output α)) (run : Run α) : Prop where
  sourced : Sourced run
  /-- Every request used up one answer. -/
  left : run.script.fetches = turns.drop (requests run.events).length
  /-- What was taken over is what the server sent. -/
  taken : accepted run.events = served setup first turns run
  count : run.state.count = counted (received run.events)
  whole : run.state.finished = false →
    handedOut given ++ nonempty [run.state.buffered] = nonempty (accepted run.events)
  part : handedOut given <+: nonempty (accepted run.events)
  ended : run.state.finished = true → run.state.live = none ∧ run.state.buffered = []

namespace Delivery

variable {first : List α} {turns : List (Turn Batch)} {given here : List (Output α)}

/-- Nothing is lost while nothing is asked for and nothing is handed out, as in quiet events. -/
theorem quietly (h : Delivery setup first turns given run) {n : Nat} (sourced : Sourced after)
    (quiet : Quietly n run after) (nothing : handedOut here = [])
    (count : after.state.count = run.state.count)
    (buffered : after.state.finished = false →
      run.state.finished = false ∧ after.state.buffered = run.state.buffered)
    (ended : after.state.finished = true → after.state.live = none ∧ after.state.buffered = []) :
    Delivery setup first turns (given ++ here) after where
  sourced := sourced
  left := by rw [quiet.fetches, quiet.requests_eq, h.left]
  taken := by rw [quiet.accepted_eq, h.taken, served, served, quiet.requests_eq]
  count := by rw [count, h.count, received, received, quiet.accepted_eq]
  whole unfinished := by
    obtain ⟨unfinished, same⟩ := buffered unfinished
    rw [quiet.accepted_eq, same, handedOut_append, nothing, List.append_nil]
    exact h.whole unfinished
  part := by
    rw [quiet.accepted_eq, handedOut_append, nothing, List.append_nil]
    exact h.part
  ended := ended

/-- One more answer is read: `served` grows by what `receive` brings in the next answer, which may
be nothing. -/
theorem served_exchanged (h : Delivery setup first turns given run) {n number : Nat}
    {connection : Connection} {source : Source} {cursor : ServerCursor} {taken : List (Event α)}
    (exchanged : Exchanged n
      (.send number (fetchRequest setup connection source cursor run.state) :: taken) run after)
    (none : requests taken = []) :
    served setup first turns after = served setup first turns run ++
      ((receive setup connection source cursor (run.fetchTurn setup.ns).response).toOption.map
        (·.documents)).toList := by
  rw [served, exchanged.requests_concat none, answered_concat, documents?_fetchRequest, ← h.left]
  rfl

/-- One more answer is used up, the one at the place of the request among all `requests`. -/
theorem left_exchanged (h : Delivery setup first turns given run) {n number : Nat}
    {connection : Connection} {source : Source} {cursor : ServerCursor} {taken : List (Event α)}
    (exchanged : Exchanged n
      (.send number (fetchRequest setup connection source cursor run.state) :: taken) run after)
    (none : requests taken = []) :
    after.script.fetches = turns.drop (requests after.events).length := by
  rw [exchanged.fetches, h.left, exchanged.requests_concat none, List.tail_drop,
    List.length_append, List.length_singleton]

/-- **A round trip loses nothing** when everything was handed out before it: the batch that it
overwrites is empty. -/
theorem trip (h : Delivery setup first turns given run) {source : Source} {cursor : ServerCursor}
    {outcome : Outcome α Unit} (trip : Trip setup source cursor run outcome)
    (unfinished : run.state.finished = false) (empty : run.state.buffered = []) :
    Delivery setup first turns (given ++ failures outcome.result) outcome.run := by
  have sourced := trip.sourced h.sourced
  have still := trip.finished_eq.trans unfinished
  have ended : outcome.run.state.finished = true → outcome.run.state.live = none ∧
      outcome.run.state.buffered = [] := by simp [still]
  have whole := h.whole unfinished
  rw [empty, nonempty_singleton_nil, List.append_nil] at whole
  cases trip with
  | refused result listed state quietly =>
    exact h.quietly sourced quietly (handedOut_failures _) (by rw [state])
      (fun _ => ⟨unfinished, by rw [state]⟩) ended
  | @failed error connection pinned result missed state exchanged =>
    -- The answer is used up, but it brought nothing.
    have same : accepted outcome.run.events = accepted run.events := by
      rw [exchanged.accepted_eq]
      exact List.append_nil _
    refine ⟨sourced, h.left_exchanged exchanged rfl, ?_, ?_, fun _ => ?_, ?_, ended⟩
    · rw [h.served_exchanged exchanged rfl, missed, same, h.taken]
      exact (List.append_nil _).symm
    · rw [state, received, same]
      exact h.count
    · rw [same, state, handedOut_append, handedOut_failures, List.append_nil]
      exact h.whole unfinished
    · rw [same, handedOut_append, handedOut_failures, List.append_nil]
      exact h.part
  | @brought connection reply pinned live closed got state exchanged goes cuts shuts result =>
    -- The batch that is overwritten is empty, and the new one is there even if the kill failed.
    have more : accepted outcome.run.events = accepted run.events ++ [reply.documents] :=
      exchanged.accepted_eq
    refine ⟨sourced, h.left_exchanged exchanged rfl, ?_, ?_, fun _ => ?_, ?_, ended⟩
    · rw [h.served_exchanged exchanged rfl, got, more, h.taken]
      rfl
    · have gained : received outcome.run.events = received run.events + reply.documents.length := by
        simp [received, more]
      rw [state, h.count, gained]
      exact add_counted _ _
    · rw [more, state, handedOut_append, handedOut_failures, List.append_nil, nonempty_append,
        whole]
    · rw [more, handedOut_append, handedOut_failures, List.append_nil, nonempty_append, whole]
      exact List.prefix_append ..

end Delivery

/-! ## Steps -/

variable {first : List α} {turns : List (Turn Batch)} {given here : List (Output α)}

/-- **Every step delivers**: a round trip is made only where the batch is empty, and a batch that is
handed out is moved from `buffered` to what was handed out. -/
theorem Step.delivery (h : Delivery setup first turns given run)
    (step : Step setup run here after) : Delivery setup first turns (given ++ here) after := by
  cases step with
  | shut | resize =>
    exact h.quietly h.sourced (.modify _ run) rfl rfl (fun open_ => ⟨open_, rfl⟩) h.ended
  | deny | lack =>
    exact h.quietly h.sourced (.of_eq rfl rfl) rfl rfl (fun open_ => ⟨open_, rfl⟩) h.ended
  | hand ready =>
    -- There is a batch, so the work of closing was not done.
    have unfinished : run.state.finished = false := by
      cases hf : run.state.finished with
      | true => exact absurd (h.ended hf).2 ready
      | false => rfl
    have whole : handedOut given ++ [run.state.buffered] = nonempty (accepted run.events) := by
      rw [← h.whole unfinished]
      simp [nonempty, ready]
    refine ⟨h.sourced, h.left, h.taken, h.count, fun _ => ?_, ?_, fun hf => ?_⟩
    · rw [handedOut_append, handedOut_ok, whole]
      exact List.append_nil _
    · rw [handedOut_append, handedOut_ok, whole]
      exact List.prefix_rfl
    · exact absurd hf (by simp [unfinished])
  | fetch isOpen empty unreached live =>
    obtain ⟨source, cursor, hl, trip⟩ := getMore_trip setup h.sourced live
    refine h.trip trip ?_ empty
    cases hf : run.state.finished with
    | true => exact absurd (h.ended hf).1 (by simp [hl])
    | false => rfl
  | finish closed unfinished =>
    have state := finish_state setup h.sourced closed
    refine h.quietly ?_ (finish_quietly setup h.sourced) rfl ?_ ?_ ?_
    · simp [Sourced, state]
    all_goals simp [state]

/-- Along a path nothing is lost: `Delivery` is an invariant of all steps. -/
theorem Path.delivery (h : Delivery setup first turns given run)
    (path : Path setup run here after) : Delivery setup first turns (given ++ here) after :=
  path.invariant (P := Delivery setup first turns) (fun h step => step.delivery h) h

/-- **What every step preserves while nothing is lost holds after a path.** The step may use that
`Delivery` holds before it. -/
theorem Path.invariant_of_delivery {P : Run α → Prop}
    (step : ∀ {given here run after}, Delivery setup first turns given run →
      Step setup run here after → P run → P after)
    (h : Delivery setup first turns given run) (holds : P run)
    (path : Path setup run here after) : P after := by
  have both := path.invariant (P := fun given run => Delivery setup first turns given run ∧ P run)
    (fun h one => ⟨one.delivery h.1, step h.1 one h.2⟩) ⟨h, holds⟩
  exact both.2

/-- The first batch of a cursor that was just made is there to be handed out, and nothing was handed
out yet. -/
theorem Made.delivery {batchSize : Int32} {first : Reply α} {source : Option Source}
    {script : Script} (h : Made setup batchSize first source script run) :
    Delivery setup first.documents script.fetches [] run := by
  obtain ⟨live, state, -⟩ := h.state
  have taken : accepted run.events = [first.documents] := by
    rw [h.quietly.accepted_eq, events_absorb]
    cases source <;> simp [started, Event.accepted?]
  have asked : requests run.events = [] := by
    rw [h.quietly.requests_eq, events_absorb]
    cases source <;> simp [started, Event.request?]
  refine ⟨h.sourced, ?_, ?_, ?_, fun _ => ?_, ?_, ?_⟩
  · rw [asked, h.quietly.fetches]
    rfl
  · rw [taken, served, asked]
    rfl
  · rw [state, received, taken, List.flatten_singleton, ← Nat.zero_add first.documents.length,
      ← add_counted, counted_zero, Nat.zero_add]
    rfl
  · rw [taken, state]
    rfl
  · exact List.nil_prefix
  · simp [state]

/-! ## Whole lives -/

/-- The count never decreases along a path: it is that of the documents received, which only
grow. -/
theorem Delivery.count_le (h : Delivery setup first turns given run)
    (path : Path setup run here after) : run.state.count ≤ after.state.count := by
  obtain ⟨work, events⟩ := path.grows h.sourced
  rw [h.count, (path.delivery h).count, ← events, received_append]
  exact counted_le (Nat.le_add_right ..)

namespace Life

/-- **No document is lost, handed out twice or out of order**, over the whole life of a cursor and
whatever fails in between. Until the work of closing is done, what was handed out and what is there
is what the server sent: `handed.flatten ++ run.state.buffered = sent.flatten`. Every batch that is
handed out is one that the server sent, in order and not empty, and the count is the number of
documents that it sent. -/
theorem documents_delivered (first : Reply α) (options : Options)
    (decode : Document → Except DecodeError α) (source : Option Source)
    (connection : Option Connection) (script : Script) (calls : List Call)
    (hok : (begin first options decode source connection script).1 = .ok ()) :
    let made := (begin first options decode source connection script).2
    let after := performAll calls made
    let run := after.2.run
    let handed := handedOut (allGiven after.1)
    let sent := served made.setup first.documents script.fetches run
    (run.state.finished = false → handed.flatten ++ run.state.buffered = sent.flatten) ∧
      handed <+: nonempty sent ∧
      (∀ batch ∈ handed, batch ≠ []) ∧
      run.state.count.toInt = min (sent.flatten.length : Int) Int32.maxValue.toInt ∧
      ∀ more, run.state.count ≤ (performAll more after.2).2.run.state.count := by
  intro made after run handed sent
  have fresh := made_of_ok hok
  have path := performAll_path calls fresh.sourced
  have delivery := path.delivery fresh.delivery
  have whole := delivery.whole
  have part := delivery.part
  rw [List.nil_append, delivery.taken] at whole part
  refine ⟨fun unfinished => ?_, part, fun batch listed => ?_, ?_, fun more => ?_⟩
  · have flat := congrArg List.flatten (whole unfinished)
    rw [List.flatten_append, flatten_nonempty, flatten_nonempty, List.flatten_singleton] at flat
    exact flat
  · have kept := part.subset listed
    simpa [nonempty] using (List.mem_filter.mp kept).2
  · rw [delivery.count, toInt_counted, received, delivery.taken, Int32.toInt_maxValue]
    rfl
  · have later := performAll_path more delivery.sourced
    rw [setup_performAll] at later
    exact delivery.count_le later

/-- A batch is handed out after a round trip that failed, and after one that brought an empty
batch. -/
theorem documents_delivered_retry :
    let turns := [⟨.broken .closed, false⟩, Small.turn [] 7, Small.turn [2, 3] 7]
    let made := begin (Small.first [1] 7) {} Small.decode (some (Small.source 3)) none
      ⟨[], turns, []⟩
    let after := performAll [.nextBatch, .nextBatch, .tryNext, .next] made.2
    made.1 = .ok () ∧ handedOut (allGiven after.1) = [[1], [2, 3]] ∧
      handedOut (allGiven after.1) <+: nonempty (served made.2.setup [1] turns after.2.run) :=
  ⟨rfl, by decide, (documents_delivered (Small.first [1] 7) {} Small.decode
    (some (Small.source 3)) none _ [.nextBatch, .nextBatch, .tryNext, .next] rfl).2.1⟩

end Life

end DocumentCursor.Cursor
