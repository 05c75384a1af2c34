import DocumentCursor.Proofs.Leasing

/-! # Asking for all batches at once

With `exhaust` a command for the next batch asks for all batches at once, and its connection is kept
for them where that is supported. The two are decided apart. The command asks for it on every
connection that has commands, whether or not that is supported there; the connection is kept only
where it is. A command that kills a cursor never asks for it.

* **`Flagged`**: the commands that are sent, with what they ask for.
* **`Stays`**: a connection that supports it is kept once a batch was asked for on it.
* **`exhaust_as_asked`**: so it is in every life of a cursor.
-/

namespace DocumentCursor.Cursor

variable {α : Type} {setup : Setup α} {run after : Run α} {origin : Option Source}
  {grants : List Grant} {connection : Connection} {source : Source} {cursor : ServerCursor}

/-! ## What is sent -/

/-- **What a command asks for.** One for the next batch has the flag `exhaust` as the cursor has it,
and it is sent on a connection that has commands; one that kills has `false`. Nothing is said of
other events. -/
def Flagged (setup : Setup α) (origin : Option Source) (grants : List Grant) : Event α → Prop
  | .send number (.command _ document _ _ exhaust) =>
    (∃ command : GetMoreCommand, document = command.document ∧
        (connectionOf origin grants number).capability.supportsCommands = true ∧
        exhaust = setup.exhaust) ∨
      ∃ command : KillCursorsCommand, document = command.document ∧ exhaust = false
  | _ => True

/-- Where nothing is sent, nothing is asked for: `Flagged` holds of every event with
`sent? = none`. -/
theorem flagged_of_sent?_eq (event : Event α) (h : event.sent? = none) :
    Flagged setup origin grants event := by
  cases event with
  | send number request => exact absurd h (by simp [Event.sent?])
  | retain | release | acquire | acquireFailed | accept | giveUp => trivial

/-- A command for the next batch asks for what the cursor asks for: `asking` is `Flagged` with
`setup.exhaust`. -/
theorem flagged_asking (opened : connection = connectionOf origin grants connection.number) :
    Flagged setup origin grants (asking setup connection source cursor run) := by
  unfold asking fetchRequest
  by_cases commands : connection.capability.supportsCommands = true
  · rw [if_pos commands]
    exact Or.inl ⟨_, rfl, by rw [← opened]; exact commands, rfl⟩
  · rw [if_neg commands]
    trivial

/-- A command that kills does not ask for batches: `killing` is `Flagged` with `false`. -/
theorem flagged_killing :
    Flagged setup origin grants (killing setup connection source cursor : Event α) := by
  unfold killing killRequest
  by_cases commands : connection.capability.supportsCommands = true
  · rw [if_pos commands]
    exact Or.inr ⟨_, rfl, rfl⟩
  · rw [if_neg commands]
    trivial

/-- A kill on a connection of its own does not ask for batches: all events of `Discarding` are
`Flagged`. -/
theorem Discarding.flagged {work : List (Event α)} (h : Discarding setup run work) :
    Throughout (fun _ => Flagged setup origin grants) work := by
  cases h with
  | idle none => exact throughout_nil
  | refused names => exact (throughout_singleton _).mpr trivial
  | made held names number =>
    simp only [throughout_cons, throughout_nil, and_true]
    exact ⟨trivial, flagged_killing, trivial⟩

/-- The kill after the first batch does not ask for batches: all events of `Cutting` are
`Flagged`. -/
theorem Cutting.flagged {given : Option Connection} {work : List (Event α)}
    (h : Cutting setup run given work) :
    Throughout (fun _ => Flagged setup origin grants) work := by
  cases h with
  | unreached | idle => exact throughout_nil
  | supplied => exact (throughout_singleton _).mpr flagged_killing
  | own reached discards => exact discards.flagged

/-- What is wanted is wanted where it is supported and only there, unless a connection has commands
but does not support it: among the capabilities with commands that one is `.commands`. -/
theorem wanted_iff_supported (wanted : Bool) {capability : Capability}
    (commands : capability.supportsCommands = true) :
    (wanted = true ↔ wanted = true ∧ capability.supportsExhaust = true) ↔
      ¬(wanted = true ∧ capability = .commands) := by
  cases capability with
  | messages => exact absurd commands (by simp [Capability.supportsCommands])
  | commands | exhaust => cases wanted <;> simp [Capability.supportsExhaust]

/-! ## What is kept -/

/-- **A connection that supports it is kept**, once a batch was asked for on it with `exhaust`,
until the server's cursor is gone: it is the `pinned` one, or `live = none`. -/
def Stays (setup : Setup α) (origin : Option Source) (grants : List Grant) (run : Run α) : Prop :=
  setup.exhaust = true → ∀ number ∈ fetchers run.events,
    (connectionOf origin grants number).capability.supportsExhaust = true →
      run.state.live = none ∨ run.state.pinned = some (connectionOf origin grants number)

/-- **A round trip keeps the connection that it was made on**, and no other was kept before, so
`Stays` goes through every `Passage`. -/
theorem Stays.passage (h : Stays setup origin grants run) (leased : Leased setup origin grants run)
    (hs : run.state.source = some source) (hl : run.state.live = some cursor)
    {outcome : Outcome α Unit} (passage : Passage setup source cursor run outcome) :
    Stays setup origin grants outcome.run := by
  intro exhaust number listed supports
  cases passage with
  | refused unpinned result state works =>
    rw [state]
    refine h exhaust number ?_ supports
    rw [works.events, fetchers_append] at listed
    simpa [Event.fetcher?] using listed
  | @made connection opening said state opens talk state_eq works =>
    have opened := leased.opened hs opens
    have silent : fetchers opening = [] := by cases opens <;> rfl
    have asked := (talk.orderly (leased.held_opening opens)).2.2.2
    have settled : fetchers (if keeps setup connection state then [] else
        [(.giveUp connection.number : Event α)]) = [] := by split <;> rfl
    rw [works.events, fetchers_append, fetchers_append, fetchers_append, silent, asked, settled,
      List.append_nil, List.nil_append, List.mem_append, List.mem_singleton] at listed
    -- A batch that was asked for before was asked for on the connection that is kept.
    obtain rfl : number = connection.number := by
      obtain before | here := listed
      · obtain gone | kept := h exhaust number before supports
        · exact absurd hl (by simp [gone])
        · cases opens with
          | kept pinned =>
            have same := Option.some.inj (kept.symm.trans pinned)
            exact congrArg Connection.number same
          | made unpinned => exact absurd kept (by simp [unpinned])
      · exact here
    rw [← opened] at supports ⊢
    rw [state_eq]
    cases live : state.live with
    | none => exact Or.inl rfl
    | some next => exact Or.inr (by simp [keeps, exhaust, supports, live])

/-! ## Whole runs -/

/-- **What is asked for on the connections of a run**, and what is kept: the invariant of
`exhaust_as_asked`. -/
structure Asked (setup : Setup α) (origin : Option Source) (grants : List Grant)
    (run : Run α) : Prop where
  leased : Leased setup origin grants run
  flagged : Throughout (fun _ => Flagged setup origin grants) run.events
  stays : Stays setup origin grants run

/-- **Every step asks for no more than it may**: `Step` keeps `Asked`, with one case for each kind
of step. -/
theorem Step.asked {first : List α} {turns : List (Turn Batch)} {given here : List (Output α)}
    (delivery : Delivery setup first turns given run) (h : Asked setup origin grants run)
    (step : Step setup run here after) : Asked setup origin grants after := by
  have leased := step.leased delivery h.leased
  cases step with
  | shut | resize | deny | lack | hand => exact ⟨leased, h.flagged, h.stays⟩
  | fetch isOpen empty unreached live =>
    obtain ⟨source, cursor, hs, hl, passage⟩ := exists_passage setup delivery.sourced live
    refine ⟨leased, ?_, h.stays.passage h.leased hs hl passage⟩
    exact passage.throughout (fun _ => flagged_of_sent?_eq)
      (fun opens => flagged_asking (h.leased.opened hs opens)) (fun _ _ _ => flagged_killing)
      h.flagged
  | finish closed unfinished =>
    have closes := finish_closes setup delivery.sourced closed unfinished
    obtain ⟨work, discarding, works⟩ := closes.works
    refine ⟨leased, ?_, fun _ _ _ _ => Or.inl closes.over.live⟩
    rw [works.events, throughout_append, throughout_append, throughout_append]
    refine ⟨h.flagged, throughout_of_sent?_eq (by simp [Event.sent?]) fun _ => flagged_of_sent?_eq,
      discarding.flagged, throughout_of_sent?_eq ?_ fun _ => flagged_of_sent?_eq⟩
    split <;> simp [Event.sent?]

namespace Life

variable {first : Reply α} {options : Options} {decode : Document → Except DecodeError α}
  {supplied : Option Connection} {script : Script}

/-- **A cursor that was just made has asked for nothing**, and sent no more than a kill, so it is
`Asked`. -/
theorem begin_asked (hok : (begin first options decode origin supplied script).1 = .ok ()) :
    Asked (Setup.of first options decode) origin script.grants
      (begin first options decode origin supplied script).2.run := by
  obtain ⟨work, cuts, -, works⟩ := begin_works hok
  have start := started_leased (Setup.of first options decode) options.batchSize first origin script
  have unasked := (cuts.orderly start.holds start.numbers).2.2.2.1
  have idle := started_isIdle options.batchSize first origin script
  refine ⟨begin_leased hok, ?_, fun _ number listed => ?_⟩
  · rw [works.events, throughout_append, throughout_append, throughout_append]
    refine ⟨?_, cuts.flagged, throughout_of_sent?_eq ?_ fun _ => flagged_of_sent?_eq,
      throughout_of_sent?_eq (by simp [Event.sent?]) fun _ => flagged_of_sent?_eq⟩
    · rw [events_absorb]
      refine throughout_of_sent?_eq ?_ fun _ => flagged_of_sent?_eq
      cases origin <;> simp [started, Event.sent?]
    · split <;> simp [Event.sent?]
  · have released (releases : Bool) :
        fetchers (if releases then [(.release : Event α)] else []) = [] := by
      cases releases <;> rfl
    have returned : fetchers (supplied.toList.map fun connection =>
        (.giveUp connection.number : Event α)) = [] :=
      List.filterMap_eq_nil_iff.mpr (by simp [Event.fetcher?])
    rw [works.events, fetchers_append, fetchers_append, fetchers_append, (idle_events idle).2.2,
      unasked, released, returned] at listed
    exact absurd listed List.not_mem_nil

/-- **All batches are asked for as the cursor was told to**, over its whole life. Every command on a
connection is one for the next batch or one that kills a cursor. With `exhaust` each of the former
asks for all batches on every connection that has commands, and without it none does; none of the
latter does. So all batches are asked for where that is supported and only there, unless with
`exhaust` a connection has commands but does not support that. Where it is supported the connection
is kept until the server's cursor is gone. -/
theorem exhaust_as_asked (first : Reply α) (options : Options)
    (decode : Document → Except DecodeError α) (source : Option Source)
    (connection : Option Connection) (script : Script) (calls : List Call)
    (hok : (begin first options decode source connection script).1 = .ok ()) :
    let run := (performAll calls (begin first options decode source connection script).2).2.run
    ∀ number database document preference session exhaust,
      .send number (.command database document preference session exhaust) ∈ run.events →
      let sentOn := connectionOf source script.grants number
      (∃ command : KillCursorsCommand, document = command.document ∧ exhaust = false) ∨
        ∃ command : GetMoreCommand, document = command.document ∧
          sentOn.capability.supportsCommands = true ∧ exhaust = options.exhaust ∧
          ((exhaust = true ↔
              options.exhaust = true ∧ sentOn.capability.supportsExhaust = true) ↔
            ¬(options.exhaust = true ∧ sentOn.capability = .commands)) ∧
          (exhaust = true → sentOn.capability.supportsExhaust = true →
            run.state.live = none ∨ run.state.pinned = some sentOn) := by
  intro run number database document preference session exhaust sent sentOn
  have fresh := made_of_ok hok
  have path := performAll_path calls fresh.sourced
  have asked : Asked (Setup.of first options decode) source script.grants run :=
    path.invariant_of_delivery (fun delivery step asked => step.asked delivery asked)
      fresh.delivery (begin_asked hok)
  obtain ⟨before, later, split⟩ := List.append_of_mem sent
  obtain ⟨command, rfl, commands, rfl⟩ | kills := asked.flagged before _ later split
  · refine Or.inr ⟨command, rfl, commands, rfl, ?_, fun exhaust supports => ?_⟩
    · exact wanted_iff_supported options.exhaust commands
    · refine asked.stays exhaust number (List.mem_filterMap.mpr ⟨_, sent, ?_⟩) supports
      simp [Event.fetcher?, Request.continues?, get?_getMoreCommand, Value.integer?]
  · exact Or.inl kills

/-- Where it is supported all batches are asked for on the connection that is kept. -/
theorem exhaust_as_asked_supported :
    let made := begin (Small.first [] 7) { exhaust := true } Small.decode (some (Small.source 8))
      none ⟨[], [Small.turn [1] 7], []⟩
    let run := (performAll [.nextBatch] made.2).2.run
    made.1 = .ok () ∧ run.state.live ≠ none ∧
      run.state.pinned = some (connectionOf (some (Small.source 8)) [] 1) := by
  intro made run
  have live : run.state.live ≠ none := by decide
  obtain ⟨document, preference, session, sent⟩ : ∃ document preference session,
      .send 1 (.command "db" document preference session true) ∈ run.events :=
    ⟨_, _, _, List.mem_of_getElem? (show run.events[3]? = _ from rfl)⟩
  refine ⟨rfl, live, ?_⟩
  obtain ⟨_, -, false⟩ | ⟨_, -, -, -, -, kept⟩ := exhaust_as_asked (Small.first [] 7)
    { exhaust := true } Small.decode (some (Small.source 8)) none _ [.nextBatch] rfl 1 "db"
    document preference session true sent
  · exact absurd false (by simp)
  · exact (kept rfl (by decide)).resolve_left live

/-- All batches are asked for on a connection that has commands but does not support that, and it is
not kept. -/
theorem exhaust_where_unsupported :
    let made := begin (Small.first [] 7) { exhaust := true } Small.decode (some (Small.source 5))
      none ⟨[], [Small.turn [1] 7], []⟩
    let run := (performAll [.nextBatch] made.2).2.run
    made.1 = .ok () ∧
      (∃ command : GetMoreCommand, .send 1 (.command "db" command.document .primary {} true) ∈
        run.events) ∧
      (connectionOf (some (Small.source 5)) [] 1).capability.supportsExhaust = false ∧
      run.state.live ≠ none ∧ run.state.pinned = none := by
  intro made run
  refine ⟨rfl, ⟨⟨7, "log", 0, 0⟩, ?_⟩, by decide, by decide, by decide⟩
  exact List.mem_of_getElem? (show run.events[3]? = _ from rfl)

end Life

end DocumentCursor.Cursor
