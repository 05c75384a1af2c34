import DocumentCursor.Proofs.Closing

/-! # Which cursor is asked for and killed

A server tells a cursor by its number, and a number that is out of date names nothing or the cursor
of somebody else. So every request must be about the cursor that was reported last, and a cursor
that was killed must not be named again.

* **`Warrant`**: why a request may be sent, for every request that is ever sent.
* **`Disciplined`**: what is known of the server's cursor, and of the kills so far.
* **`Strands`**: a kill that fails at the limit fails the call, and leaves the batch behind.
* **`kills_disciplined`**: so it is in every life of a cursor.
-/

namespace DocumentCursor.Cursor

variable {α β γ : Type} {setup : Setup α} {run after : Run α}

/-! ## The limit, as far as events tell -/

/-- The documents that were taken over reach the limit, as they are counted. -/
def Full (setup : Setup α) (events : List (Event α)) : Prop :=
  setup.limit ≠ 0 ∧ setup.limit.toInt.natAbs ≤ (counted (received events)).toInt

/-- `limitReached setup state` holds exactly when the documents that were taken over reach the
limit, because the count is theirs. -/
theorem limitReached_iff_full {state : State α} {events : List (Event α)}
    (count : state.count = counted (received events)) :
    limitReached setup state = true ↔ Full setup events := by
  rw [limitReached_counted count, Full, toInt_counted]
  exact and_congr_right fun _ => by omega

/-! ## Why requests are sent -/

/-- **Why a request may be sent** after the given events. The cursor was made by the run `start`,
and `supplied` is the connection that its first batch came on, if it is given. -/
inductive Warrant (setup : Setup α) (supplied : Option Connection) (start : Run α) :
    List (Event α) → Event α → Prop
  /-- More is asked of the cursor that was reported last, and nothing was killed before. -/
  | asks {before : List (Event α)} {number : Nat} {request : Request} {cursor : ServerCursor}
      (last : reported before = some cursor) (unkilled : kills before = [])
      (continues : request.continues? = some cursor.id.toInt) (spares : request.kills? = none) :
      Warrant setup supplied start before (.send number request)
  /-- The reply to a request reached the limit, and the cursor that it reports is killed on the
  same connection. Nothing was killed before. -/
  | reaches {before : List (Event α)} {number : Nat} {asked request : Request}
      {documents : List α} {cursor : ServerCursor} (unkilled : kills before = [])
      (asks : asked.continues?.isSome) (below : ¬ Full setup before)
      (full : Full setup (before ++ [.send number asked, .accept documents (some cursor)]))
      (continues : request.continues? = none) (names : request.kills? = some [cursor.id.toInt]) :
      Warrant setup supplied start
        (before ++ [.send number asked, .accept documents (some cursor)]) (.send number request)
  /-- The first batch reached the limit, and the cursor that it reports is killed on the connection
  that is given. -/
  | begins {connection : Connection} {request : Request} {documents : List α}
      {cursor : ServerCursor} (given : supplied = some connection)
      (full : Full setup [.retain, .accept documents (some cursor)])
      (continues : request.continues? = none) (names : request.kills? = some [cursor.id.toInt]) :
      Warrant setup supplied start [.retain, .accept documents (some cursor)]
        (.send connection.number request)
  /-- The first batch reached the limit, and the cursor that it reports is killed on a new
  connection, because none is given. -/
  | beginsAlone {number : Nat} {request : Request} {documents : List α} {cursor : ServerCursor}
      (given : supplied = none) (full : Full setup [.retain, .accept documents (some cursor)])
      (continues : request.continues? = none) (names : request.kills? = some [cursor.id.toInt]) :
      Warrant setup supplied start [.retain, .accept documents (some cursor), .acquire number]
        (.send number request)
  /-- The work of closing kills the cursor that was reported last, on a new connection. -/
  | closes {given : List (Output α)} {mid done : Run α} {number : Nat} {request : Request}
      {cursor : ServerCursor} (path : Path setup start given mid) (closes : Closes setup mid done)
      (last : reported mid.events = some cursor) (continues : request.continues? = none)
      (names : request.kills? = some [cursor.id.toInt]) :
      Warrant setup supplied start
        (mid.events ++ ((mid.state.pinned.toList.map fun connection => .giveUp connection.number) ++
          [.acquire number])) (.send number request)

/-- Every request that was sent was warranted: `Warrant` of what was before it. Events by which
nothing is sent need no reason. -/
def Warranted (setup : Setup α) (supplied : Option Connection) (start : Run α)
    (before : List (Event α)) (event : Event α) : Prop :=
  event.sent?.isSome → Warrant setup supplied start before event

/-! ## What is known of the server's cursor -/

/-- **What is known of the server's cursor and of the kills so far.** Its number is the one that was
reported last, and as long as it is there every kill has failed. Only the last kill can have
succeeded, and there was at most one before the work of closing. -/
structure Disciplined (turns : List (Turn Unit)) (run : Run α) : Prop where
  reports : ∀ cursor, run.state.live = some cursor → reported run.events = some cursor
  answers : run.script.kills = turns.drop (kills run.events).length
  failed : run.state.live.isSome →
    ∀ result ∈ killResults (kills run.events) turns, ∃ error, result = .error error
  last : ∀ result ∈ (killResults (kills run.events) turns).dropLast, ∃ error, result = .error error
  few : (kills run.events).length ≤ if run.state.finished then 2 else 1

/-! ## What becomes of the server's cursor in a round trip -/

/-- **What becomes of the server's cursor in a round trip**, with the result of the trip and the
state and the events that it leads to. -/
inductive Verdict (setup : Setup α) (run : Run α) :
    Except CursorError Unit → State α → List (Event α) → Prop
  /-- Nothing was killed, because the limit was not reached by this trip or the server's cursor is
  gone anyway. -/
  | spared {result : Except CursorError Unit} {state : State α} {work : List (Event α)}
      (unkilled : kills work = [])
      (ended : limitReached setup state = true →
        limitReached setup run.state = true ∨ state.live = none) :
      Verdict setup run result state work
  /-- The server's cursor was killed. -/
  | gone {state : State α} {work : List (Event α)} {request : Request}
      (sent : kills work = [request]) (killed : request.killed run.killTurn.response = .ok ())
      (live : state.live = none) : Verdict setup run (.ok ()) state work
  /-- The server's cursor could not be killed, and the batch that reached the limit is there. -/
  | kept {error : CursorError} {state : State α} {work : List (Event α)} {request : Request}
      {cursor : ServerCursor} (sent : kills work = [request])
      (failed : request.killed run.killTurn.response = .error error)
      (live : state.live = some cursor) (batch : accepted work = [state.buffered]) :
      Verdict setup run (.error error) state work

section RoundTrips

variable {source : Source} {connection : Connection} {cursor : ServerCursor}
  {result : Except CursorError Unit} {state : State α} {said : List (Event α)}

/-- What is said in a round trip decides what becomes of the server's cursor, case by case. -/
theorem Said.verdict (h : Said setup connection source cursor run result state said) :
    Verdict setup run result state said := by
  cases h with
  | failed received => exact .spared (by simp) fun reached => Or.inl reached
  | @taken reply received last =>
    exact .spared (by cases reply.cursor <;> simp) fun reached => Or.inr (last reached)
  | @gone reply next received names reached read =>
    have sent : kills [asking setup connection source cursor run,
        .accept reply.documents reply.cursor, killing setup connection source next, .release] =
        [killRequest setup connection source next.id] := by simp
    exact .gone sent (by rw [killed_killRequest, read]) rfl
  | @kept reply next error received names reached read =>
    have sent : kills [asking setup connection source cursor run,
        .accept reply.documents reply.cursor, killing setup connection source next] =
        [killRequest setup connection source next.id] := by simp
    exact .kept sent (by rw [killed_killRequest, read]) names rfl

/-- The server's cursor is the one that was reported last after a round trip, or it was killed and
is none. -/
theorem Said.reported (h : Said setup connection source cursor run result state said)
    {before : List (Event α)} (last : reported before = run.state.live) :
    Cursor.reported (before ++ said) = state.live ∨ state.live = none ∧ kills said ≠ [] := by
  cases h with
  | failed received =>
    exact Or.inl ((reported_append _ _ (by simp [asking, Event.reported?])).trans last)
  | @taken reply received short =>
    left
    rw [← List.singleton_append, ← List.append_assoc, reported_append_accept _ _ _ _
      (by cases reply.cursor <;> simp [Event.reported?])]
    rfl
  | gone received names reached read => exact Or.inr ⟨rfl, by simp⟩
  | kept received names reached read =>
    left
    rw [← List.singleton_append, ← List.append_assoc, reported_append_accept _ _ _ _
      (by simp [killing, Event.reported?])]
    rfl

/-- Opening a connection and giving it up report nothing, bring nothing and kill nothing, so that
the events in between decide. -/
theorem around_silent {opening : List (Event α)} (opens : Opening source run connection opening)
    (keeps : Bool) :
    (∀ event ∈ opening, event.reported? = none) ∧
      (∀ event ∈ (if keeps then [] else [(.giveUp connection.number : Event α)]),
        event.reported? = none) ∧
      ∀ said, kills (opening ++ (said ++ if keeps then [] else [.giveUp connection.number])) =
          kills said ∧
        accepted (opening ++ (said ++ if keeps then [] else [.giveUp connection.number])) =
          accepted said := by
  cases opens <;> cases keeps <;> simp [Event.reported?, Event.accepted?]

/-- **A round trip decides what becomes of the server's cursor.** The cursor is the one that was
reported last, `reported outcome.run.events = outcome.run.state.live`, or it was killed. -/
theorem Passage.verdict {outcome : Outcome α Unit}
    (passage : Passage setup source cursor run outcome) :
    ∃ work, Works run outcome.run work ∧
      Verdict setup run outcome.result outcome.run.state work ∧
      (Cursor.reported run.events = run.state.live →
        Cursor.reported outcome.run.events = outcome.run.state.live ∨
          outcome.run.state.live = none ∧ kills work ≠ []) := by
  cases passage with
  | refused unpinned result state works =>
    refine ⟨_, works, .spared (by simp) fun reached => Or.inl (by rwa [state] at reached), ?_⟩
    intro last
    rw [works.events, reported_append _ _ (by simp [Event.reported?]), state]
    exact Or.inl last
  | @made connection opening said state opens talk state_eq works =>
    obtain ⟨before, behind, same⟩ := around_silent opens (keeps setup connection state)
    obtain ⟨killed, brought⟩ := same said
    refine ⟨_, works, ?_, fun last => ?_⟩
    · rw [state_eq]
      generalize outcome.result = result at talk
      cases talk.verdict with
      | spared unkilled ended => exact .spared (by rw [killed, unkilled]) ended
      | gone sent gone live => exact .gone (by rw [killed, sent]) gone live
      | kept sent failed live batch =>
        exact .kept (by rw [killed, sent]) failed live (by rw [brought, batch])
    · have last : Cursor.reported (run.events ++ opening) = run.state.live :=
        (reported_append _ _ before).trans last
      rw [killed, works.events, ← List.append_assoc, ← List.append_assoc,
        reported_append _ _ behind, state_eq]
      exact talk.reported last

end RoundTrips

section Steps

variable {first : List α} {fetches : List (Turn Batch)} {turns : List (Turn Unit)}
  {given here : List (Output α)}

/-- Events that use up answers to kills leave the rest: `script.kills` is what is left of `turns`
after as many as there were `kills`. -/
theorem answers_of_works {work : List (Event α)} (works : Works run after work)
    (h : run.script.kills = turns.drop (kills run.events).length) :
    after.script.kills = turns.drop (kills after.events).length := by
  rw [works.kills, h, List.drop_drop, works.events, kills_append, List.length_append]

/-- What is known of the server's cursor is a matter of `live`, `finished`, the script and the
events. -/
theorem Disciplined.of_eq (h : Disciplined turns run) (live : after.state.live = run.state.live)
    (finished : after.state.finished = run.state.finished) (script : after.script = run.script)
    (events : after.events = run.events) : Disciplined turns after := by
  refine ⟨?_, ?_, ?_, ?_, ?_⟩
  · rw [live, events]
    exact h.reports
  · rw [script, events]
    exact h.answers
  · rw [live, events]
    exact h.failed
  · rw [events]
    exact h.last
  · rw [finished, events]
    exact h.few

/-- **The work of closing** kills the cursor that is known, at most once, and only if every kill
before it has failed. Since `live` is none afterwards, no kill follows. -/
theorem Disciplined.closes (h : Disciplined turns run) (closes : Closes setup run after) :
    Disciplined turns after := by
  obtain ⟨work, discarding, works⟩ := closes.works
  have unfinished := closes.unfinished
  have few := h.few
  rw [unfinished] at few
  have live : after.state.live = none := by rw [closes.state]
  have finished : after.state.finished = true := by rw [closes.state]
  have released :
      kills (if run.state.live.isSome then [(Event.release : Event α)] else []) = [] := by
    split <;> rfl
  have events : kills after.events = kills run.events ++ kills work := by
    rw [works.events, kills_append, kills_append, kills_append, kills_giveUps, released,
      List.nil_append, List.append_nil]
  refine ⟨by simp [live], answers_of_works works h.answers, by simp [live], ?_, ?_⟩
  · rw [events]
    cases discarding with
    | idle none => simpa using h.last
    | refused names => simpa using h.last
    | made held names number =>
      simp only [kills_cons, kills_nil, kill?_killing, Event.kill?_acquire, Event.kill?_giveUp,
        Option.toList_none, Option.toList_some, List.nil_append, List.append_nil,
        killResults_concat, List.dropLast_concat]
      exact h.failed (by rw [names]; rfl)
  · rw [events, finished, List.length_append]
    have more : (kills work).length ≤ 1 := by cases discarding <;> simp
    simp only [Bool.false_eq_true, if_false, if_true] at few ⊢
    omega

/-- **A round trip** leaves the cursor that was reported last, or none: with `kills run.events = []`
before it, at most one kill is sent, and if the server's cursor is still there, this kill failed. A
second one is left to the work of closing. -/
theorem Disciplined.passage (h : Disciplined turns run) {source : Source} {cursor : ServerCursor}
    {outcome : Outcome α Unit} (passage : Passage setup source cursor run outcome)
    (live : run.state.live = some cursor) (unkilled : kills run.events = []) :
    Disciplined turns outcome.run := by
  obtain ⟨work, works, verdict, reports⟩ := passage.verdict
  have answers := h.answers
  have left := answers_of_works works answers
  rw [unkilled] at answers
  have turn : run.killTurn = turns.headD ⟨.success (), false⟩ := by rw [Run.killTurn, answers]; rfl
  have events : kills outcome.run.events = kills work := by
    rw [works.events, kills_append, unkilled, List.nil_append]
  have last := reports (by rw [live]; exact h.reports cursor live)
  have reports : ∀ other, outcome.run.state.live = some other →
      reported outcome.run.events = some other := by
    intro other names
    obtain same | ⟨none, -⟩ := last
    · exact same.trans names
    · exact absurd names (by simp [none])
  refine ⟨reports, left, ?_, ?_, ?_⟩
  all_goals rw [events]
  all_goals generalize outcome.result = result at verdict
  · intro there
    cases verdict with
    | spared unkilled => simp [unkilled, killResults]
    | gone sent gone live => exact absurd there (by simp [live])
    | kept sent failed live batch =>
      intro result listed
      rw [sent, killResults, killResults, List.mem_singleton, ← turn] at listed
      exact ⟨_, listed.trans failed⟩
  · cases verdict with
    | spared unkilled => simp [unkilled, killResults]
    | gone sent | kept sent => simp [sent, killResults]
  · have one : (kills work).length ≤ 1 := by
      cases verdict with
      | spared unkilled => simp [unkilled]
      | gone sent | kept sent => simp [sent]
    split <;> omega

/-- **All that is known of a cursor** in the course of its calls: what was delivered, that a kill
was the end of asking, and that requests are about the right cursor. -/
structure Known (setup : Setup α) (first : List α) (fetches : List (Turn Batch))
    (turns : List (Turn Unit)) (given : List (Output α)) (run : Run α) : Prop where
  delivery : Delivery setup first fetches given run
  stopped : Stopped setup run
  disciplined : Disciplined turns run

/-- **Every step keeps what is known of a cursor**, each part of it by its own lemma. -/
theorem Step.known (h : Known setup first fetches turns given run)
    (step : Step setup run here after) : Known setup first fetches turns (given ++ here) after := by
  refine ⟨step.delivery h.delivery, step.stopped h.delivery.sourced h.stopped, ?_⟩
  cases step with
  | shut | resize | deny | lack | hand => exact h.disciplined.of_eq rfl rfl rfl rfl
  | fetch isOpen empty unreached live =>
    obtain ⟨source, cursor, -, hl, passage⟩ := exists_passage setup h.delivery.sourced live
    exact h.disciplined.passage passage hl (h.stopped.unkilled unreached live)
  | finish closed unfinished =>
    exact h.disciplined.closes (finish_closes setup h.delivery.sourced closed unfinished)

/-- What is known of a cursor is known along a path. -/
theorem Path.known (h : Known setup first fetches turns given run)
    (path : Path setup run here after) : Known setup first fetches turns (given ++ here) after :=
  path.invariant (P := Known setup first fetches turns) (fun h step => step.known h) h

/-! ## Every request is warranted -/

variable {supplied : Option Connection} {start : Run α}

/-- Where nothing is sent, nothing has to be warranted. -/
theorem warranted_of_sent?_eq (before : List (Event α)) (event : Event α)
    (h : event.sent? = none) : Warranted setup supplied start before event := by
  simp [Warranted, h]

/-- Opening a connection brings no documents: `received (run.events ++ opening) = received
run.events`. -/
theorem received_opening {source : Source} {connection : Connection} {opening : List (Event α)}
    (opens : Opening source run connection opening) :
    received (run.events ++ opening) = received run.events := by
  cases opens <;> simp [Event.accepted?]

/-- **The requests of a round trip are warranted**: the one for documents by the cursor that was
reported last, and a kill by the reply that reached the limit just before it, on the same
connection. -/
theorem Passage.warranted {source : Source} {cursor : ServerCursor} {outcome : Outcome α Unit}
    (passage : Passage setup source cursor run outcome)
    (known : Known setup first fetches turns given run) (live : run.state.live = some cursor)
    (unreached : limitReached setup run.state = false)
    (h : Throughout (Warranted setup supplied start) run.events) :
    Throughout (Warranted setup supplied start) outcome.run.events := by
  have unkilled := known.stopped.unkilled unreached (by rw [live]; rfl)
  have count := known.delivery.count
  have opened {connection : Connection} {opening : List (Event α)}
      (opens : Opening source run connection opening) : kills (run.events ++ opening) = [] := by
    rw [kills_append, unkilled, (requests_of_sent?_eq opens.sent?_eq).2, List.nil_append]
  refine passage.throughout warranted_of_sent?_eq ?_ ?_ h
  · intro connection opening opens _
    have last : reported (run.events ++ opening) = some cursor := by
      rw [reported_append _ _ (around_silent opens true).1]
      exact known.disciplined.reports cursor live
    exact .asks last (opened opens) (continues?_fetchRequest ..) (kills?_fetchRequest ..)
  · intro connection opening reply next opens names reached _
    rw [names, ← List.append_assoc]
    refine .reaches (opened opens) (by simp) ?_ ?_ (continues?_killRequest ..)
      (kills?_killRequest ..)
    · have counted : run.state.count = counted (received (run.events ++ opening)) := by
        rw [received_opening opens, count]
      rw [← limitReached_iff_full counted]
      simp [unreached]
    · refine (limitReached_iff_full ?_).mp reached
      have brought : received [.send connection.number
          (fetchRequest setup connection source cursor run.state),
            .accept reply.documents (some next)] = reply.documents.length := by
        simp [Event.accepted?]
      rw [received_append, received_opening opens, brought, ← add_counted, ← count]
      rfl

/-- **The kill in the work of closing is warranted** by the cursor that was reported last, which is
still there. -/
theorem Closes.warranted (closes : Closes setup run after)
    (known : Known setup first fetches turns given run) (path : Path setup start here run)
    (h : Throughout (Warranted setup supplied start) run.events) :
    Throughout (Warranted setup supplied start) after.events := by
  obtain ⟨work, discarding, works⟩ := closes.works
  rw [works.events, throughout_append, throughout_append, throughout_append]
  refine ⟨h, throughout_of_sent?_eq (by simp [Event.sent?]) fun _ => warranted_of_sent?_eq _, ?_,
    throughout_of_sent?_eq (by split <;> simp [Event.sent?]) fun _ => warranted_of_sent?_eq _⟩
  cases discarding with
  | idle none => exact throughout_nil
  | refused names => simp [Warranted, Event.sent?]
  | @made connection source cursor held names number =>
    simp only [throughout_cons, throughout_nil, and_true]
    refine ⟨warranted_of_sent?_eq _ _ rfl, fun _ => ?_, warranted_of_sent?_eq _ _ rfl⟩
    exact .closes path closes (known.disciplined.reports cursor names) (continues?_killRequest ..)
      (kills?_killRequest ..)

/-- **Every request along a path is warranted**, by induction on its steps. -/
theorem Path.warranted (known : Known setup first fetches turns [] start)
    (h : Throughout (Warranted setup supplied start) start.events)
    (path : Path setup start here after) :
    Throughout (Warranted setup supplied start) after.events := by
  have both := path.invariant
    (P := fun given run => Path setup start given run ∧
      Throughout (Warranted setup supplied start) run.events)
    (fun {given here first second} h step => ?_) ⟨.nil start, h⟩
  · exact both.2
  obtain ⟨before, h⟩ := h
  refine ⟨before.trans (.single step), ?_⟩
  have known := before.known known
  cases step with
  | shut | resize | deny | lack | hand => exact h
  | fetch isOpen empty unreached live =>
    obtain ⟨source, cursor, -, hl, passage⟩ := exists_passage setup known.delivery.sourced live
    exact passage.warranted known hl unreached h
  | finish closed unfinished =>
    exact (finish_closes setup known.delivery.sourced closed unfinished).warranted known before h

end Steps

/-! ## The making of a cursor -/

section Making

variable {first : Reply α} {options : Options} {decode : Document → Except DecodeError α}
  {source : Option Source} {connection : Option Connection} {script : Script}

/-- At most one kill is sent when a cursor is made, and none if the first batch stays below the
limit. -/
theorem Cutting.kills {given : Option Connection} {work : List (Event α)}
    (h : Cutting setup run given work) :
    Cursor.kills work = [] ∨ ∃ request, Cursor.kills work = [request] := by
  cases h with
  | unreached | idle => exact Or.inl rfl
  | @supplied connection source cursor =>
    exact Or.inr ⟨killRequest setup connection source cursor.id, by simp⟩
  | own reached discards =>
    cases discards with
    | idle none => exact Or.inl rfl
    | refused names => exact Or.inl rfl
    | @made connection source cursor =>
      exact Or.inr ⟨killRequest setup connection source cursor.id, by simp⟩

/-- A kill on a connection of its own reports nothing. -/
theorem Discarding.reported? {work : List (Event α)} (h : Discarding setup run work) :
    ∀ event ∈ work, event.reported? = none := by
  cases h <;> simp [killing, Event.reported?]

/-- When a cursor is made only the first batch is reported, and the kill after it reports
nothing. -/
theorem Cutting.reported? {given : Option Connection} {work : List (Event α)}
    (h : Cutting setup run given work) : ∀ event ∈ work, event.reported? = none := by
  cases h with
  | unreached | idle => simp
  | supplied reached held names => simp [killing, Event.reported?]
  | own reached discards => exact discards.reported?

/-- **What is known of a cursor that was just made**: nothing was handed out, and the kill of a
first batch that reaches the limit is the only one that can have been sent. -/
theorem Life.begin_known (hok : (begin first options decode source connection script).1 = .ok ()) :
    Known (Setup.of first options decode) first.documents script.fetches script.kills []
      (begin first options decode source connection script).2.run := by
  refine ⟨(made_of_ok hok).delivery, begin_stopped hok, ?_⟩
  obtain ⟨work, cuts, ended, works⟩ := begin_works hok
  set run := (begin first options decode source connection script).2.run
  set taken : Run α := absorb first (started options.batchSize source script) with htaken
  have sent := kills_begin works
  have last : reported run.events = first.cursor := by
    rw [works.events, htaken, events_absorb, List.append_assoc, List.singleton_append,
      reported_append_accept]
    simp only [List.mem_append]
    rintro event (listed | listed | listed)
    · exact cuts.reported? event listed
    · split at listed <;> simp_all [Event.reported?]
    · obtain ⟨given, -, rfl⟩ := List.mem_map.mp listed
      rfl
  have fresh : taken.script.kills = script.kills.drop (kills taken.events).length := by
    rw [htaken, kills_absorb_started]
    rfl
  refine ⟨fun cursor names => ?_, answers_of_works works fresh, fun live => ?_, ?_, ?_⟩
  · obtain none | ⟨same, -⟩ := ended
    · exact absurd names (by simp [none])
    · exact last.trans (same.symm.trans names)
  · obtain none | ⟨-, failed⟩ := ended
    · exact absurd live (by simp [none])
    rw [sent]
    obtain none | ⟨request, one⟩ := cuts.kills
    · simp [none, killResults]
    · intro result listed
      rw [one, killResults, killResults, List.mem_singleton] at listed
      obtain ⟨error, read⟩ := failed request (by simp [one])
      exact ⟨error, listed.trans read⟩
  · rw [sent]
    obtain none | ⟨request, one⟩ := cuts.kills
    · simp [none, killResults]
    · simp [one, killResults]
  · have one : (kills run.events).length ≤ 1 := by
      obtain none | ⟨request, one⟩ := cuts.kills <;> simp_all
    split <;> omega

/-- The first batch is counted: the count is `counted first.documents.length`. -/
theorem count_started (batchSize : Int32) (first : Reply α) (source : Option Source)
    (script : Script) :
    (absorb first (started batchSize source script)).state.count =
      counted first.documents.length := by
  show Saturating.add 0 (counted first.documents.length) = _
  rw [← counted_zero, add_counted, Nat.zero_add]

/-- A first batch that reports a cursor follows on holding the source: the events are `.retain` and
`.accept`. -/
theorem events_started (batchSize : Int32) {first : Reply α} (source : Source) (script : Script)
    {cursor : ServerCursor} (names : first.cursor = some cursor) :
    (absorb first (started batchSize (some source) script)).events =
      [.retain, .accept first.documents (some cursor)] := by
  rw [events_absorb, names]
  rfl

/-- **The kill after the first batch is warranted** by that batch, which reached the limit. -/
theorem Cutting.warranted {batchSize : Int32} {work : List (Event α)} {start : Run α}
    (cuts : Cutting setup (absorb first (started batchSize source script)) connection work) :
    Throughout (fun before => Warranted setup connection start
      ((absorb first (started batchSize source script)).events ++ before)) work := by
  have full {held : Source} {cursor : ServerCursor} (there : source = some held)
      (names : first.cursor = some cursor)
      (reached : limitReached setup (absorb first (started batchSize source script)).state = true) :
      Full setup [.retain, .accept first.documents (some cursor)] := by
    refine (limitReached_iff_full ?_).mp reached
    rw [count_started]
    simp [Event.accepted?]
  cases cuts with
  | unreached | idle => exact throughout_nil
  | @supplied connection held cursor reached there names =>
    obtain rfl : source = some held := there
    rw [throughout_cons, events_started batchSize held script names]
    refine ⟨fun _ => ?_, throughout_nil⟩
    exact .begins rfl (full rfl names reached) (continues?_killRequest ..) (kills?_killRequest ..)
  | own reached discards =>
    cases discards with
    | idle none => exact throughout_nil
    | refused names => simp [Warranted, Event.sent?]
    | @made connection held cursor there names number =>
      obtain rfl : source = some held := there
      simp only [throughout_cons, throughout_nil, and_true,
        events_started batchSize held script names]
      refine ⟨warranted_of_sent?_eq _ _ rfl, fun _ => ?_, warranted_of_sent?_eq _ _ rfl⟩
      exact .beginsAlone rfl (full rfl names reached) (continues?_killRequest ..)
        (kills?_killRequest ..)

/-- **Every request is warranted when a cursor was just made**, for any run `start` that is taken
for its beginning. -/
theorem Life.begin_warranted
    (hok : (begin first options decode source connection script).1 = .ok ()) (start : Run α) :
    Throughout (Warranted (Setup.of first options decode) connection start)
      (begin first options decode source connection script).2.run.events := by
  obtain ⟨work, cuts, -, works⟩ := begin_works hok
  rw [works.events, throughout_append, throughout_append, throughout_append]
  refine ⟨?_, cuts.warranted, throughout_of_sent?_eq ?_ fun _ => warranted_of_sent?_eq _,
    throughout_of_sent?_eq (by simp [Event.sent?]) fun _ => warranted_of_sent?_eq _⟩
  · rw [events_absorb]
    refine throughout_of_sent?_eq ?_ warranted_of_sent?_eq
    cases source <;> simp [started, Event.sent?]
  · split <;> simp [Event.sent?]

end Making

/-! ## Kills that fail at the limit -/

/-- **A kill that fails at the limit fails the call, and leaves the batch behind.** When the limit
was reached by a reply that reports a cursor, one kill was sent. Either it succeeded, or the call
fails as it did, the cursor is still `live`, and `buffered` is the batch that was taken over
last. -/
def Strands (setup : Setup α) (turns : List (Turn Unit)) (result : Except CursorError β)
    (run : Run α) : Prop :=
  limitReached setup run.state = true → ∀ cursor, reported run.events = some cursor →
    killResults (kills run.events) turns = [.ok ()] ∧ run.state.live = none ∨
      ∃ error, killResults (kills run.events) turns = [.error error] ∧ result = .error error ∧
        run.state.live = some cursor ∧
        ∃ earlier, accepted run.events = earlier ++ [run.state.buffered]

/-- The kill at the limit succeeded, if there was one, and the server's cursor is gone. -/
def Settled (setup : Setup α) (turns : List (Turn Unit)) (run : Run α) : Prop :=
  limitReached setup run.state = true → ∀ cursor, reported run.events = some cursor →
    killResults (kills run.events) turns = [.ok ()] ∧ run.state.live = none

section Stranding

variable {turns : List (Turn Unit)} {outcome : Outcome α β}

/-- Below the limit no kill was sent, and there is nothing to settle. -/
theorem Settled.of_unreached (unreached : limitReached setup run.state = false) :
    Settled setup turns run := by
  intro reached
  exact absurd reached (by simp [unreached])

/-- Whether the kill succeeded is a matter of `live`, `count` and the events. -/
theorem Settled.of_eq (h : Settled setup turns run) (live : after.state.live = run.state.live)
    (count : after.state.count = run.state.count) (events : after.events = run.events) :
    Settled setup turns after := by
  intro reached cursor last
  rw [limitReached_congr count] at reached
  rw [events] at last ⊢
  rw [live]
  exact h reached cursor last

/-- A call may end in any way if the kill at the limit succeeded. -/
theorem Settled.strands (h : Settled setup turns run) (result : Except CursorError β) :
    Strands setup turns result run := fun reached cursor last => Or.inl (h reached cursor last)

/-- If a call succeeds, the kill at the limit did: an error of the kill would have been that of the
call. -/
theorem Strands.settled {value : β} (h : Strands setup turns outcome.result outcome.run)
    (ok : outcome.result = .ok value) : Settled setup turns outcome.run := by
  intro reached cursor last
  obtain settled | ⟨error, -, failed, -⟩ := h reached cursor last
  · exact settled
  · exact absurd (ok.symm.trans failed) (by simp)

/-- What goes on after a success goes on after a kill that succeeded, and a failure goes through. -/
theorem Strands.andThen {next : β → Run α → Outcome α γ}
    (h : Strands setup turns outcome.result outcome.run)
    (hnext : ∀ value, outcome.result = .ok value → Settled setup turns outcome.run →
      Strands setup turns (next value outcome.run).result (next value outcome.run).run) :
    Strands setup turns (outcome.andThen next).result (outcome.andThen next).run := by
  have settled {value : β} (ok : outcome.result = .ok value) := h.settled ok
  obtain ⟨result, run⟩ := outcome
  cases result with
  | ok value => exact hnext value rfl (settled rfl)
  | error error =>
    intro reached cursor last
    refine (h reached cursor last).imp_right ?_
    rintro ⟨other, failed, ⟨⟩, rest⟩
    exact ⟨error, failed, rfl, rest⟩

/-- The work of closing sends no kill after one that succeeded, since `live` is none. -/
theorem Closes.settled (closes : Closes setup run after) (h : Settled setup turns run) :
    Settled setup turns after := by
  intro reached cursor last
  obtain ⟨work, discarding, works⟩ := closes.works
  rw [limitReached_congr (show _ = _ from congrArg (·.count) closes.state)] at reached
  rw [works.events, reported_append] at last
  · obtain ⟨killed, none⟩ := h reached cursor last
    obtain rfl : work = [] := by
      cases discarding with
      | idle none => rfl
      | refused names | made held names number => exact absurd none (by simp [names])
    refine ⟨?_, by rw [closes.state]⟩
    rw [works.events, kills_append, kills_append, kills_giveUps]
    simpa [none] using killed
  · simp only [List.mem_append]
    rintro event (listed | listed | listed)
    · obtain ⟨kept, -, rfl⟩ := List.mem_map.mp listed
      rfl
    · exact discarding.reported? event listed
    · split at listed <;> simp_all [Event.reported?]

/-- Closing a cursor sends no kill after one that succeeded. -/
theorem Settled.close (h : Settled setup turns run) (sourced : Sourced run) :
    Settled setup turns (close setup run) := by
  have marked : Settled setup turns run.markClosed := h.of_eq rfl rfl rfl
  show Settled setup turns
    (if run.markClosed.state.finished then run.markClosed else finish setup run.markClosed)
  cases hf : run.markClosed.state.finished with
  | true => exact marked
  | false =>
    exact (finish_closes setup (show Sourced run.markClosed from sourced) rfl hf).settled marked

/-- The check that a cursor is open sends no kill after one that succeeded. -/
theorem Settled.ensureOpen (h : Settled setup turns run) (sourced : Sourced run)
    {next : Unit → Run α → Outcome α β}
    (hnext : run.state.closed = false →
      Strands setup turns (next () run).result (next () run).run) :
    Strands setup turns ((ensureOpen setup run).andThen next).result
      ((ensureOpen setup run).andThen next).run := by
  cases hc : run.state.closed with
  | true =>
    rw [ensureOpen_closed setup hc, Outcome.andThen_fail]
    exact (h.close sourced).strands _
  | false =>
    rw [ensureOpen_open setup hc, Outcome.andThen_pure]
    exact hnext hc

variable {first : List α} {fetches : List (Turn Batch)} {given : List (Output α)}

/-- **A round trip that reaches the limit** fails as the kill does: of the cases of `Verdict` the
last one is `Strands`, and the others are `Settled`. -/
theorem getMore_strands (known : Known setup first fetches turns given run) (h : Asks setup run)
    (live : run.state.live.isSome) :
    Strands setup turns (getMore setup run).result (getMore setup run).run := by
  intro reached cursor last
  obtain ⟨source, held, -, hl, passage⟩ := exists_passage setup h.sourced live
  obtain ⟨work, works, verdict, reports⟩ := passage.verdict
  have reports := reports (by rw [hl]; exact known.disciplined.reports held hl)
  have unkilled := known.stopped.unkilled h.unreached live
  have answers := known.disciplined.answers
  rw [unkilled] at answers
  have turn : run.killTurn = turns.headD ⟨.success (), false⟩ := by rw [Run.killTurn, answers]; rfl
  have sent : kills (getMore setup run).run.events = kills work := by
    rw [works.events, kills_append, unkilled, List.nil_append]
  have brought :
      accepted (getMore setup run).run.events = accepted run.events ++ accepted work := by
    rw [works.events, accepted_append]
  rw [sent, brought]
  generalize (getMore setup run).result = result at verdict
  cases verdict with
  | spared unkilled ended =>
    -- The cursor that was reported last is gone without a kill, so none was reported.
    have none := (ended reached).resolve_left (by simp [h.unreached])
    obtain same | ⟨-, killed⟩ := reports
    · exact absurd (last.symm.trans (same.trans none)) (by simp)
    · exact absurd unkilled killed
  | gone one killed none =>
    refine Or.inl ⟨?_, none⟩
    rw [one, killResults, killResults, ← turn, killed]
  | @kept error _ _ _ other one failed names batch =>
    refine Or.inr ⟨error, ?_, rfl, ?_, accepted run.events, by rw [batch]⟩
    · rw [one, killResults, killResults, ← turn, failed]
    · obtain same | ⟨none, -⟩ := reports
      · exact same.symm.trans last
      · exact absurd names (by simp [none])

/-- **Fetching until there is a batch** fails as the kill at the limit does. Only its last round
trip can have sent one, as the batch of every other was empty. -/
theorem fetchUntilBatch_strands {fuel : Nat} (known : Known setup first fetches turns given run)
    (h : Asks setup run) :
    Strands setup turns (fetchUntilBatch setup fuel run).result
      (fetchUntilBatch setup fuel run).run := by
  -- An empty batch does not reach the limit, so that only the last round trip can send a kill.
  induction fuel generalizing run given with
  | zero => exact (Settled.of_unreached h.unreached).strands _
  | succ fuel ih =>
    rw [fetchUntilBatch]
    by_cases hl : run.state.live.isNone = true
    · rw [if_pos hl]
      exact (Settled.of_unreached h.unreached).strands _
    rw [if_neg hl]
    have live : run.state.live.isSome := by simpa [Option.isSome_iff_ne_none] using hl
    refine (getMore_strands known h live).andThen fun _ ok settled => ?_
    obtain ⟨sourced, -, unreached, -⟩ := (getMore_follows h live).tells () ok
    have next := (Step.fetch h.isOpen h.empty h.unreached live).known known
    refine settled.ensureOpen sourced fun isOpen => ?_
    by_cases hb : (getMore setup run).run.state.buffered.isEmpty = true
    · rw [if_pos hb]
      have empty := List.isEmpty_iff.mp hb
      exact ih next ⟨sourced, isOpen, empty, unreached empty⟩
    · rw [if_neg hb]
      exact settled.strands _

/-- **Finding out whether there is another batch** fails as the kill at the limit does. -/
theorem hasNext_strands (known : Known setup first fetches turns given run)
    (unreached : limitReached setup run.state = false) :
    Strands setup turns (hasNext setup run).result (hasNext setup run).run := by
  have sourced := known.delivery.sourced
  have settled : Settled setup turns run := .of_unreached unreached
  unfold hasNext
  refine settled.ensureOpen sourced fun isOpen => ?_
  by_cases hb : run.state.buffered = []
  · rw [if_neg (by simp [hb]), if_neg (by simp [unreached])]
    exact fetchUntilBatch_strands known ⟨sourced, isOpen, hb, unreached⟩
  · rw [if_pos (by simpa using hb)]
    exact settled.strands _

/-- **Looking for the next batch** fails as the kill at the limit does. -/
theorem nextBatch_strands (known : Known setup first fetches turns given run)
    (unreached : limitReached setup run.state = false) :
    Strands setup turns (nextBatch setup run).result (nextBatch setup run).run := by
  refine (hasNext_strands known unreached).andThen fun more _ settled => ?_
  cases more with
  | true =>
    have emptied : Settled setup turns ((hasNext setup run).run.modify
        fun state => { state with buffered := [] }) := settled.of_eq rfl rfl rfl
    exact emptied.strands _
  | false => exact settled.strands _

/-- **Looking for a batch in one round trip** fails as the kill at the limit does. -/
theorem tryNext_strands (known : Known setup first fetches turns given run)
    (unreached : limitReached setup run.state = false) :
    Strands setup turns (tryNext setup run).result (tryNext setup run).run := by
  have sourced := known.delivery.sourced
  have take {run : Run α} (settled : Settled setup turns run)
      (result : Except CursorError (Option (List α))) :
      Strands setup turns result (run.modify fun state => { state with buffered := [] }) := by
    have emptied : Settled setup turns (run.modify fun state => { state with buffered := [] }) :=
      settled.of_eq rfl rfl rfl
    exact emptied.strands result
  unfold tryNext
  refine (Settled.of_unreached unreached).ensureOpen sourced fun isOpen => ?_
  by_cases asks : (run.state.buffered.isEmpty && !limitReached setup run.state &&
      run.state.live.isSome) = true
  · rw [if_pos asks]
    simp only [Bool.and_eq_true, List.isEmpty_iff] at asks
    obtain ⟨⟨empty, -⟩, live⟩ := asks
    exact (getMore_strands known ⟨sourced, isOpen, empty, unreached⟩ live).andThen
      fun _ _ settled => take settled _
  · rw [if_neg asks]
    exact take (.of_unreached unreached) _

/-- **The next item of the iteration** fails as the kill at the limit does. -/
theorem next_strands (known : Known setup first fetches turns given run)
    (unreached : limitReached setup run.state = false) :
    Strands setup turns (next setup run).result (next setup run).run := by
  refine (hasNext_strands known unreached).andThen fun more ok settled => ?_
  cases more with
  | true =>
    -- The batch is there, so that no further round trip is made to hand it out.
    have knows := (hasNext_follows setup known.delivery.sourced).tells true ok
    have handed :
        nextBatch setup (hasNext setup run).run = takeBuffered (hasNext setup run).run := by
      rw [nextBatch, hasNext_ready setup knows.isOpen (knows.ready rfl), Outcome.andThen_pure]
      rfl
    rw [if_pos rfl, handed]
    have emptied : Settled setup turns ((hasNext setup run).run.modify
        fun state => { state with buffered := [] }) := settled.of_eq rfl rfl rfl
    exact emptied.strands _
  | false => exact settled.strands _

end Stranding

/-! ## Whole lives -/

namespace Life

/-- What a call answers is no matter for how it fails: `life.after answer` keeps the error of the
outcome. -/
theorem after_strands {turns : List (Turn Unit)} {life : Life α} {answer : β → Answer α}
    {outcome : Outcome α β} (h : Strands setup turns outcome.result outcome.run) :
    Strands setup turns (life.after answer outcome).1 (life.after answer outcome).2.run := by
  intro reached cursor last
  refine (h reached cursor last).imp_right ?_
  rintro ⟨error, failed, result, rest⟩
  exact ⟨error, failed, by rw [after, result]; rfl, rest⟩

/-- **Every call that looks for one batch** fails as the kill at the limit does. -/
theorem performAlive_strands {first : List α} {fetches : List (Turn Batch)}
    {turns : List (Turn Unit)} {given : List (Output α)} (life : Life α)
    (known : Known life.setup first fetches turns given life.run)
    (unreached : limitReached life.setup life.run.state = false) {call : Call}
    (hcall : call ∈ [Call.hasNext, .nextBatch, .tryNext, .next]) :
    Strands life.setup turns (life.performAlive call).1 (life.performAlive call).2.run := by
  simp only [List.mem_cons, List.not_mem_nil, or_false] at hcall
  obtain rfl | rfl | rfl | rfl := hcall
  · exact after_strands (hasNext_strands known unreached)
  · exact after_strands (nextBatch_strands known unreached)
  · exact after_strands (tryNext_strands known unreached)
  · exact after_strands (next_strands known unreached)

/-- Whether a cursor can be made is no matter of what the acquire and the kill of its construction
are answered, and of nothing that follows: `begin` has the same result under any two scripts. -/
theorem begin_result (first : Reply α) (options : Options)
    (decode : Document → Except DecodeError α) (source : Option Source)
    (connection : Option Connection) (script other : Script) :
    (begin first options decode source connection script).1 =
      (begin first options decode source connection other).1 := by
  show (create _ _ _ _ _ script).result = (create _ _ _ _ _ other).result
  unfold create
  by_cases negative : (Setup.of first options decode).maxTimeMs < 0
  · simp only [if_pos negative, Outcome.fail]
  · by_cases missing : (first.cursor.isSome && source.isNone) = true
    · simp only [if_neg negative, if_pos missing, Outcome.fail]
    · simp only [if_neg negative, if_neg missing, Outcome.pure]

/-- **Every request is about the cursor that was reported last**, over the whole life of a cursor,
and no cursor is named again after it was killed. A kill is sent only when the limit was reached, on
the connection that brought the last batch, or in the work of closing: at most twice, and only the
last kill can succeed.

A kill that fails at the limit is of no consequence when a cursor is made: under any `other` script,
with an acquire that is refused or a kill that fails, the cursor is made as well and holds the first
batch. Later it fails the call, and the batch is there for the next one, as `Strands` says. -/
theorem kills_disciplined (first : Reply α) (options : Options)
    (decode : Document → Except DecodeError α) (source : Option Source)
    (connection : Option Connection) (script : Script) (calls : List Call)
    (hok : (begin first options decode source connection script).1 = .ok ()) :
    let made := (begin first options decode source connection script).2
    let run := (performAll calls made).2.run
    Throughout (fun before event => event.sent?.isSome →
        Warrant made.setup connection made.run before event) run.events ∧
      (kills run.events).length ≤ (if run.state.finished then 2 else 1) ∧
      (∀ result ∈ (killResults (kills run.events) script.kills).dropLast,
        ∃ error, result = .error error) ∧
      (∀ other,
        let again := begin first options decode source connection other
        again.1 = .ok () ∧ again.2.run.state.buffered = first.documents) ∧
      ∀ given run, Path made.setup made.run given run →
        limitReached made.setup run.state = false →
        ∀ call ∈ [Call.hasNext, .nextBatch, .tryNext, .next],
          let done := performAlive call ⟨made.setup, run, false⟩
          Strands made.setup script.kills done.1 done.2.run := by
  intro made run
  have fresh := made_of_ok hok
  have known := begin_known hok
  have path := performAll_path calls fresh.sourced
  have disciplined := (path.known known).disciplined
  refine ⟨path.warranted known (begin_warranted hok made.run), disciplined.few, disciplined.last,
    fun other => ?_, ?_⟩
  · have again : (begin first options decode source connection other).1 = .ok () :=
      (begin_result ..).trans hok
    obtain ⟨live, state, -⟩ := (made_of_ok again).state
    exact ⟨again, by rw [state]⟩
  · intro given other reach unreached call hcall
    exact performAlive_strands ⟨made.setup, other, false⟩ (reach.known known) unreached hcall

/-- The kill at the limit fails and the call with it. The next call hands out the batch, and the
work of closing kills the cursor. Where the first batch reaches the limit, the kill that fails is
that of construction, and nothing is told of it. -/
theorem kills_disciplined_retry :
    (let script : Script := ⟨[], [Small.turn [2] 7], [⟨.broken .closed, false⟩]⟩
    let made := begin (Small.first [1] 7) { limit := 2 } Small.decode (some (Small.source 3)) none
      script
    let after := performAll [.nextBatch, .hasNext, .nextBatch, .close] made.2
    made.1 = .ok () ∧ handedOut (allGiven after.1) = [[1], [2]] ∧
      (kills after.2.run.events).length = 2 ∧
      ∀ result ∈ (killResults (kills after.2.run.events) script.kills).dropLast,
        ∃ error, result = .error error) ∧
    let script : Script := ⟨[], [], [⟨.broken .closed, false⟩]⟩
    let made := begin (Small.first [1, 2] 7) { limit := 2 } Small.decode (some (Small.source 3))
      none script
    made.1 = .ok () ∧ made.2.run.state.buffered = [1, 2] ∧ made.2.run.state.live.isSome ∧
      killResults (kills made.2.run.events) script.kills = [.error (.transport .closed)] := by
  constructor
  · have disciplined := kills_disciplined (Small.first [1] 7) { limit := 2 } Small.decode
      (some (Small.source 3)) none ⟨[], [Small.turn [2] 7], [⟨.broken .closed, false⟩]⟩
      [.nextBatch, .hasNext, .nextBatch, .close] rfl
    exact ⟨rfl, by decide +kernel, by decide +kernel, disciplined.2.2.1⟩
  · have disciplined := kills_disciplined (Small.first [1, 2] 7) { limit := 2 } Small.decode
      (some (Small.source 3)) none ⟨[], [], []⟩ [] rfl
    -- The theorem is applied to the life whose kill succeeds, and tells of the one where it fails.
    obtain ⟨ok, buffered⟩ := disciplined.2.2.2.1 ⟨[], [], [⟨.broken .closed, false⟩]⟩
    exact ⟨ok, buffered, rfl, rfl⟩

end Life

end DocumentCursor.Cursor
