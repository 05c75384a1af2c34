import DocumentCursor.Proofs.RoundTripCases
import DocumentCursor.Proofs.EventReadings

/-! # Quiet stretches

Between its requests for documents a cursor opens and gives up connections, kills the server's
cursor and lets go of its source. All of that is quiet: it brings no documents, asks for none, and
leaves the answers to later fetches alone.

* **`Quietly`**: from one run to a later one there were quiet events only.
* **`Pruned`**: the server's cursor was killed, or it was tried.
* **`Exchanged`**: between two quiet stretches the given events happened.
-/

namespace DocumentCursor.Cursor

open Net

variable {α : Type} {setup : Setup α} {connection : Connection} {source : Source}
  {cursor : ServerCursor} {run : Run α}

/-! ## What happens quietly -/

/-- **From one run to a later one there were quiet events only**, with the given number of releases.
No answer to a fetch was taken, and other answers only in their order, so that what is left of each
is a suffix of what there was. -/
structure Quietly (released : Nat) (run after : Run α) : Prop where
  events : ∃ work, after.events = run.events ++ work ∧ Quiet released work
  fetches : after.script.fetches = run.script.fetches
  grants : after.script.grants <:+ run.script.grants
  kills : after.script.kills <:+ run.script.kills

namespace Quietly

variable {m n : Nat} {first second third : Run α}

/-- A run with the same events and the same script is quiet, whatever became of its state. -/
theorem of_eq (events : second.events = first.events) (script : second.script = first.script) :
    Quietly 0 first second :=
  ⟨⟨[], by rw [events, List.append_nil], .nil⟩, by rw [script], script ▸ List.suffix_rfl,
    script ▸ List.suffix_rfl⟩

/-- One quiet event without an answer is quiet. -/
theorem of_event {event : Event α} (quiet : Quiet n [event])
    (events : second.events = first.events ++ [event]) (script : second.script = first.script) :
    Quietly n first second :=
  ⟨⟨[event], events, quiet⟩, by rw [script], script ▸ List.suffix_rfl, script ▸ List.suffix_rfl⟩

theorem trans (h : Quietly m first second) (h' : Quietly n second third) :
    Quietly (m + n) first third := by
  obtain ⟨work, he, hq⟩ := h.events
  obtain ⟨work', he', hq'⟩ := h'.events
  refine ⟨⟨work ++ work', ?_, hq.append hq'⟩, h'.fetches.trans h.fetches,
    h'.grants.trans h.grants, h'.kills.trans h.kills⟩
  rw [he', he, List.append_assoc]

theorem zero_trans (h : Quietly 0 first second) (h' : Quietly n second third) :
    Quietly n first third := by
  simpa using h.trans h'

theorem trans_zero (h : Quietly n first second) (h' : Quietly 0 second third) :
    Quietly n first third := h.trans h'

theorem granted (run : Run α) : Quietly 0 run run.granted :=
  ⟨⟨_, events_granted run, .acquire _⟩, rfl, List.tail_suffix _, List.suffix_rfl⟩

theorem refused (run : Run α) : Quietly 0 run run.refused :=
  ⟨⟨_, events_refused run, .acquireFailed⟩, rfl, List.tail_suffix _, List.suffix_rfl⟩

theorem askKill (setup : Setup α) (connection : Connection) (source : Source) (id : Int64)
    (run : Run α) : Quietly 0 run (Cursor.askKill setup connection source id run) :=
  ⟨⟨_, events_askKill .., .send _ (asked?_killRequest ..)⟩, rfl, List.suffix_rfl,
    List.tail_suffix _⟩

theorem giveUp (connection : Connection) (run : Run α) : Quietly 0 run (run.giveUp connection) :=
  of_event (.giveUp _) (events_giveUp ..) (script_giveUp ..)

theorem modify (change : State α → State α) (run : Run α) : Quietly 0 run (run.modify change) :=
  of_eq rfl rfl

theorem release (run : Run α) :
    Quietly (if run.state.source.isSome then 1 else 0) run (Cursor.release run) := by
  by_cases h : run.state.source.isSome = true
  · rw [if_pos h]
    exact of_event .release (by simp [h]) (script_release run)
  · rw [if_neg h]
    exact of_eq (by simp [h]) (script_release run)

theorem releaseIfExhausted (run : Run α) :
    Quietly (if run.state.live.isNone && run.state.source.isSome then 1 else 0) run
      (Cursor.releaseIfExhausted run) := by
  by_cases h : (run.state.live.isNone && run.state.source.isSome) = true
  · rw [if_pos h]
    exact of_event .release (by rw [events_releaseIfExhausted, if_pos h])
      (script_releaseIfExhausted run)
  · rw [if_neg h]
    exact of_eq (by rw [events_releaseIfExhausted, if_neg h, List.append_nil])
      (script_releaseIfExhausted run)

theorem unpin (run : Run α) : Quietly 0 run (Cursor.unpin run) := by
  cases h : run.state.pinned with
  | none => exact of_eq (by simp [h]) (script_unpin run)
  | some connection =>
    exact of_event (.giveUp connection.number) (by simp [h]) (script_unpin run)

theorem settle (setup : Setup α) (connection : Connection) (run : Run α) :
    Quietly 0 run (Cursor.settle setup connection run) := by
  by_cases h : keeps setup connection run.state = true
  · exact of_eq (by simp [h]) (script_settle ..)
  · exact of_event (.giveUp connection.number) (by simp [h]) (script_settle ..)

/-- What has happened stays: `first.events` is a prefix of `second.events`. -/
theorem grows (h : Quietly n first second) : first.events <+: second.events := by
  obtain ⟨work, events, -⟩ := h.events
  exact ⟨work, events.symm⟩

/-- What holds of every event that asks for no documents holds on over a quiet stretch. -/
theorem throughout {P : List (Event α) → Event α → Prop} (h : Quietly n first second)
    (hP : ∀ before event, event.asked? = none → P before event)
    (holds : Throughout P first.events) : Throughout P second.events := by
  obtain ⟨work, events, quiet⟩ := h.events
  rw [events, throughout_append]
  exact ⟨holds, throughout_of_asked?_eq (fun _ he => quiet.asked?_eq he) fun _ => hP _⟩

/-- `accepted second.events = accepted first.events`: no documents are taken over quietly. -/
theorem accepted_eq (h : Quietly n first second) :
    accepted second.events = accepted first.events := by
  obtain ⟨work, events, quiet⟩ := h.events
  simp [events, quiet.accepted_eq]

/-- `requests second.events = requests first.events`: no documents are asked for quietly. -/
theorem requests_eq (h : Quietly n first second) :
    requests second.events = requests first.events := by
  obtain ⟨work, events, quiet⟩ := h.events
  simp [events, quiet.requests_eq]

end Quietly

/-! ## Kills -/

/-- A kill is quiet, whether the server forgets its cursor or refuses. -/
theorem Killed.quietly {outcome : Outcome α Unit}
    (h : Killed setup connection source cursor run outcome) : Quietly 0 run outcome.run := by
  cases h with
  | gone read =>
    exact (Quietly.askKill setup connection source cursor.id run).zero_trans (.of_eq rfl rfl)
  | kept read => exact Quietly.askKill ..

/-- A kill changes nothing but `closed` and `live`: the cursor may have been closed meanwhile, and
the server's cursor is gone exactly if the kill succeeds. Otherwise the error is the one that
`readKill` reads. -/
theorem Killed.state {outcome : Outcome α Unit}
    (h : Killed setup connection source cursor run outcome) :
    ∃ live,
      outcome.run.state =
        { run.state with closed := run.state.closed || run.killTurn.closes, live } ∧
      (outcome.result = .ok () ∧ live = none ∨
        live = run.state.live ∧ ∃ error, outcome.result = .error error ∧
          readKill connection run.killTurn.response = .error error) := by
  cases h with
  | gone read => exact ⟨none, rfl, Or.inl ⟨rfl, rfl⟩⟩
  | kept read => exact ⟨run.state.live, rfl, Or.inr ⟨rfl, _, rfl, read⟩⟩

/-- A kill on a connection of its own is quiet, with the connection that is opened and given up for
it. -/
theorem Discarded.quietly {outcome : Outcome α Unit} (h : Discarded setup run outcome) :
    Quietly 0 run outcome.run := by
  cases h with
  | idle none => exact .of_eq rfl rfl
  | refused listed => exact .refused run
  | made held names killed =>
    exact ((Quietly.granted run).zero_trans killed.quietly).zero_trans (.giveUp _ _)

/-- A kill may fail: there may be no connection to be had, or the server may refuse. Both are read
off the script. -/
def KillFails (script : Script) : Prop :=
  (∃ error closes, .refused error closes ∈ script.grants) ∨ ∃ connection error,
    readKill connection (script.kills.headD ⟨.success (), false⟩).response = .error error

/-- **From one run to a later one the server's cursor was killed, or it was tried.** The cursor may
have been closed meanwhile, and `live` stays only where `KillFails` says that it may. -/
structure Pruned (run after : Run α) : Prop where
  quietly : Quietly 0 run after
  state : ∃ live closed,
    after.state = { run.state with closed := run.state.closed || closed, live } ∧
      (live = none ∨ live = run.state.live ∧ KillFails run.script)

/-- There is nothing to kill while the server holds no cursor, and nothing changes. -/
theorem Pruned.idle (none : run.state.live = none) : Pruned run run :=
  ⟨.of_eq rfl rfl, run.state.live, false, by simp, Or.inl none⟩

/-- A kill on a given connection prunes, if there is a cursor to kill. -/
theorem killOn_pruned (setup : Setup α) (connection : Connection)
    (h : run.state.live.isSome → run.state.source.isSome) :
    Pruned run (killOn setup connection run).run := by
  cases hl : run.state.live with
  | none =>
    rw [killOn_idle setup connection hl]
    exact .idle hl
  | some cursor =>
    -- The server's cursor is gone unless the kill failed.
    obtain ⟨source, hs⟩ := Option.isSome_iff_exists.mp (h (by rw [hl]; rfl))
    have killed := killOn_killed setup connection hs hl
    obtain ⟨live, state, ended⟩ := killed.state
    refine ⟨killed.quietly, live, _, state, ended.imp (fun h => h.2) ?_⟩
    rintro ⟨same, error, -, read⟩
    exact ⟨same, Or.inr ⟨connection, error, read⟩⟩

/-- A kill on a new connection prunes as well, even where no connection is to be had for it. -/
theorem killOnNew_pruned (setup : Setup α) (h : run.state.live.isSome → run.state.source.isSome) :
    Pruned run (killOnNew setup run).run := by
  have discarded := killOnNew_discarded setup h
  refine ⟨discarded.quietly, ?_⟩
  generalize killOnNew setup run = outcome at discarded
  cases discarded with
  | idle none => exact (Pruned.idle none).state
  | @refused error closes listed =>
    exact ⟨run.state.live, _, rfl, Or.inr ⟨rfl, Or.inl ⟨error, closes, listed⟩⟩⟩
  | @made version source cursor outcome held names killed =>
    obtain ⟨live, state, ended⟩ := killed.state
    refine ⟨live, run.nextGrant.closes || run.killTurn.closes, ?_, ended.imp (fun h => h.2) ?_⟩
    · rw [← Bool.or_assoc]
      exact state
    · rintro ⟨same, error, -, read⟩
      exact ⟨same, Or.inr ⟨_, error, read⟩⟩

/-! ## Exchanges -/

/-- **From one run to a later one the given events happened**, apart from quiet ones, with the given
number of releases after them. One answer to a fetch was taken, as `script.fetches.tail` says. -/
structure Exchanged (released : Nat) (exchange : List (Event α)) (run after : Run α) : Prop where
  events : ∃ before rest, after.events = run.events ++ (before ++ (exchange ++ rest)) ∧
    Quiet 0 before ∧ Quiet released rest
  fetches : after.script.fetches = run.script.fetches.tail
  grants : after.script.grants <:+ run.script.grants
  kills : after.script.kills <:+ run.script.kills

/-- An exchange is made between two quiet stretches: the opening of a connection before it, and what
ends the round trip after it. -/
theorem Quietly.exchanged {n : Nat} {exchange : List (Event α)} {opened asked after : Run α}
    (opening : Quietly 0 run opened) (events : asked.events = opened.events ++ exchange)
    (script : asked.script = { opened.script with fetches := opened.script.fetches.tail })
    (closing : Quietly n asked after) : Exchanged n exchange run after := by
  obtain ⟨before, opens, still⟩ := opening.events
  obtain ⟨rest, closes, quiet⟩ := closing.events
  refine ⟨⟨before, rest, ?_, still, quiet⟩, ?_, ?_, ?_⟩
  · rw [closes, events, opens]
    simp only [List.append_assoc]
  · rw [closing.fetches, script, opening.fetches]
  · have grants := closing.grants
    rw [script] at grants
    exact grants.trans opening.grants
  · have kills := closing.kills
    rw [script] at kills
    exact kills.trans opening.kills

namespace Exchanged

variable {n : Nat} {exchange : List (Event α)} {after : Run α}

/-- What has happened stays: `run.events` is a prefix of `after.events`. -/
theorem grows (h : Exchanged n exchange run after) : run.events <+: after.events := by
  obtain ⟨before, rest, events, -⟩ := h.events
  exact ⟨_, events.symm⟩

/-- What the exchange brings was taken over, and nothing else was. -/
theorem accepted_eq (h : Exchanged n exchange run after) :
    accepted after.events = accepted run.events ++ accepted exchange := by
  obtain ⟨before, rest, events, still, quiet⟩ := h.events
  simp [events, still.accepted_eq, quiet.accepted_eq]

/-- What the exchange brings was received, and nothing else was. -/
theorem received_eq (h : Exchanged n exchange run after) :
    received after.events = received run.events + received exchange := by
  obtain ⟨before, rest, events, still, quiet⟩ := h.events
  simp [events, still.received_eq, quiet.received_eq]

/-- Documents are asked for once, by the `fetchRequest` that the exchange begins with. -/
theorem requests_concat {number : Nat} {state : State α} {taken : List (Event α)}
    (h : Exchanged n
      (.send number (fetchRequest setup connection source cursor state) :: taken) run after)
    (none : requests taken = []) :
    requests after.events =
      requests run.events ++ [fetchRequest setup connection source cursor state] := by
  obtain ⟨before, rest, events, still, quiet⟩ := h.events
  simp [events, none, still.requests_eq, quiet.requests_eq]

/-- What holds of every event that asks for no documents holds on if it holds of the one that asks
for documents, which is the first of the exchange. Nothing was received since `run` when that is
sent. -/
theorem throughout {P : List (Event α) → Event α → Prop} {asking : Event α}
    {taken : List (Event α)} (h : Exchanged n (asking :: taken) run after)
    (hP : ∀ before event, event.asked? = none → P before event)
    (hasking : ∀ before, received before = received run.events → P before asking)
    (htaken : ∀ event ∈ taken, event.asked? = none)
    (holds : Throughout P run.events) : Throughout P after.events := by
  obtain ⟨before, rest, events, still, quiet⟩ := h.events
  rw [events, List.cons_append, throughout_append, throughout_append, throughout_cons,
    throughout_append]
  refine ⟨holds, ?_, ?_, ?_, ?_⟩
  · exact throughout_of_asked?_eq (fun _ he => still.asked?_eq he) fun _ => hP _
  · -- Nothing is received in the quiet events before it.
    exact hasking _ (by simp [still.received_eq])
  · exact throughout_of_asked?_eq htaken fun _ => hP _
  · exact throughout_of_asked?_eq (fun _ he => quiet.asked?_eq he) fun _ => hP _

end Exchanged

end DocumentCursor.Cursor
