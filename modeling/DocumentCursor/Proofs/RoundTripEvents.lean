import DocumentCursor.Proofs.CallPaths
import DocumentCursor.Proofs.Naming

/-! # The events of a round trip

`Trip` says what a round trip leaves behind. This file says what happens in it, one event after the
other: a connection is opened, something is said on it, and it is kept or given up.

* **`Works`**: from one run to a later one the given events happened, and used up their answers.
* **`Said`**: what is said on a connection, with the result and the state that it leads to.
* **`Passage`**: a round trip with all its events.
* **`Discarding`**: the events of a kill on a connection of its own.
* **`Cutting`**: the events of a kill after the first batch.

`getMore_passage`, `killOnNew_works` and `begin_works` say that nothing else happens while the
source is held.
-/

namespace DocumentCursor

/-- The protocol version that a grant gives a connection, if it grants one: `some none` leaves it to
the source. -/
def Grant.version? : Grant → Option (Option Int32)
  | granted version _ => some version
  | refused .. => none

namespace Cursor

open Net

variable {α : Type} {setup : Setup α} {connection : Connection} {source : Source}
  {cursor : ServerCursor} {run : Run α}

/-! ## Connections that are handed out -/

/-- The number of a connection that was handed out, read off an `acquire` event. -/
def Event.acquired? : Event α → Option Nat
  | acquire number => some number
  | _ => none

/-- The numbers of the connections that were handed out, in order. -/
def acquired (events : List (Event α)) : List Nat := events.filterMap (·.acquired?)

/-- Whether the source was asked for a connection, which it granted or refused. -/
def Event.isInquiry : Event α → Bool
  | acquire _ | acquireFailed => true
  | _ => false

/-- How often the source was asked for a connection. -/
def inquiries (events : List (Event α)) : Nat := events.countP (·.isInquiry)

@[simp] theorem inquiries_append (events others : List (Event α)) :
    inquiries (events ++ others) = inquiries events + inquiries others := List.countP_append

@[simp] theorem inquiries_cons (event : Event α) (events : List (Event α)) :
    inquiries (event :: events) = (if event.isInquiry then 1 else 0) + inquiries events := by
  rw [inquiries, List.countP_cons, Nat.add_comm]
  rfl

@[simp] theorem inquiries_nil : inquiries ([] : List (Event α)) = 0 := rfl

@[simp] theorem acquired_nil : acquired ([] : List (Event α)) = [] := rfl

@[simp] theorem acquired_cons (event : Event α) (events : List (Event α)) :
    acquired (event :: events) = event.acquired?.toList ++ acquired events := by
  cases h : event.acquired? <;> simp [acquired, h]

@[simp] theorem acquired_append (events others : List (Event α)) :
    acquired (events ++ others) = acquired events ++ acquired others :=
  List.filterMap_append

/-- The protocol versions of the connections that are granted, in order, where they have their own.
Refusals are left out, so that the place of a version is the number of its connection. -/
def versions (grants : List Grant) : List (Option Int32) := grants.filterMap (·.version?)

/-- The protocol version of the next connection: its own, else `source.wireVersion`. -/
def nextVersion (source : Source) (grants : List Grant) : Int32 :=
  ((versions grants).headD none).getD source.wireVersion

/-- **A source that is held grants the next connection or refuses.** With a connection one of the
`versions` is used up, and with a refusal none. -/
theorem Run.acquire_next (h : run.state.source = some source) :
    run.acquire = ⟨.ok ⟨run.issued + 1, nextVersion source run.script.grants⟩, run.granted⟩ ∧
        versions run.granted.script.grants = (versions run.script.grants).drop 1 ∨
      (∃ error, run.acquire = ⟨.error (.transport error), run.refused⟩) ∧
        versions run.refused.script.grants = versions run.script.grants := by
  rw [Run.acquire_eq h]
  obtain ⟨state, ⟨grants, fetches, kills⟩, issued, events⟩ := run
  cases grants with
  | nil => exact Or.inl ⟨rfl, rfl⟩
  | cons grant grants =>
    cases grant with
    | granted version closes => exact Or.inl ⟨rfl, rfl⟩
    | refused error closes => exact Or.inr ⟨⟨error, rfl⟩, rfl⟩

/-! ## Events and the answers that they use up -/

/-- **From one run to a later one the given events happened.** Every kill among them used up an
answer, every inquiry of the source a grant, and every connection a number. -/
structure Works (run after : Run α) (work : List (Event α)) : Prop where
  events : after.events = run.events ++ work
  kills : after.script.kills = run.script.kills.drop (kills work).length
  issued : after.issued = run.issued + (acquired work).length
  inquiries : after.script.grants = run.script.grants.drop (inquiries work)
  grants : versions after.script.grants =
    (versions run.script.grants).drop (acquired work).length

namespace Works

variable {first second third : Run α} {here later : List (Event α)}

theorem trans (h : Works first second here) (h' : Works second third later) :
    Works first third (here ++ later) where
  events := by rw [h'.events, h.events, List.append_assoc]
  kills := by rw [h'.kills, h.kills, List.drop_drop, kills_append, List.length_append]
  issued := by rw [h'.issued, h.issued, acquired_append, List.length_append, Nat.add_assoc]
  inquiries := by rw [h'.inquiries, h.inquiries, List.drop_drop, inquiries_append]
  grants := by rw [h'.grants, h.grants, List.drop_drop, acquired_append, List.length_append]

/-- Nothing happens while only the state changes: `Works first second []`. -/
theorem of_eq (events : second.events = first.events) (script : second.script = first.script)
    (issued : second.issued = first.issued) : Works first second [] :=
  ⟨by rw [events, List.append_nil], by rw [script]; rfl, by rw [issued]; rfl, by rw [script]; rfl,
    by rw [script]; rfl⟩

theorem modify (change : State α → State α) (run : Run α) : Works run (run.modify change) [] :=
  of_eq rfl rfl rfl

/-- An event that uses up nothing, because it is neither a kill nor an inquiry. -/
theorem emit {event : Event α} (run : Run α) (kill : event.kill? = none)
    (quiet : event.isInquiry = false) : Works run (run.emit event) [event] := by
  have acquired : event.acquired? = none := by
    cases event with
    | acquire number => exact absurd quiet (by simp [Event.isInquiry])
    | retain | release | acquireFailed | send | accept | giveUp => rfl
  exact ⟨rfl, by simp [kill], by simp [acquired, Run.emit], by simp [Cursor.inquiries, quiet],
    by simp [acquired]⟩

theorem giveUp (connection : Connection) (run : Run α) :
    Works run (run.giveUp connection) [.giveUp connection.number] := emit run rfl rfl

theorem refused (run : Run α)
    (grants : versions run.refused.script.grants = versions run.script.grants) :
    Works run run.refused [.acquireFailed] :=
  ⟨rfl, rfl, rfl, List.drop_one.symm, grants⟩

theorem granted (run : Run α)
    (grants : versions run.granted.script.grants = (versions run.script.grants).drop 1) :
    Works run run.granted [.acquire (run.issued + 1)] :=
  ⟨rfl, rfl, rfl, List.drop_one.symm, grants⟩

theorem absorb (reply : Reply α) (run : Run α) :
    Works run (absorb reply run) [.accept reply.documents reply.cursor] :=
  ⟨rfl, rfl, rfl, rfl, rfl⟩

theorem releaseIfExhausted (run : Run α) :
    Works run (releaseIfExhausted run)
      (if run.state.live.isNone && run.state.source.isSome then [.release] else []) := by
  unfold Cursor.releaseIfExhausted Cursor.release
  by_cases hl : run.state.live.isNone = true
  · by_cases hs : run.state.source.isSome = true
    · simp only [hl, hs, Bool.and_self, if_true]
      exact (modify _ run).trans (emit _ rfl rfl)
    · simp only [hl, hs, Bool.and_false, if_true]
      exact of_eq rfl rfl rfl
  · simp only [hl, Bool.false_and]
    exact of_eq rfl rfl rfl

theorem release (run : Run α) :
    Works run (release run) (if run.state.source.isSome then [.release] else []) := by
  unfold Cursor.release
  split
  · exact (modify _ run).trans (emit _ rfl rfl)
  · exact of_eq rfl rfl rfl

theorem unpin (run : Run α) :
    Works run (unpin run)
      (run.state.pinned.toList.map fun connection => .giveUp connection.number) := by
  unfold Cursor.unpin
  split
  · rename_i none
    rw [none]
    exact of_eq rfl rfl rfl
  · rename_i connection kept
    rw [kept]
    exact (modify _ run).trans (giveUp connection _)

theorem settle (setup : Setup α) (connection : Connection) (run : Run α) :
    Works run (settle setup connection run)
      (if keeps setup connection run.state then [] else [.giveUp connection.number]) := by
  unfold Cursor.settle keeps
  split
  · exact modify _ run
  · exact giveUp connection run

end Works

/-! ## What is said on a connection -/

/-- The event by which the next batch is asked for. -/
def asking (setup : Setup α) (connection : Connection) (source : Source) (cursor : ServerCursor)
    (run : Run α) : Event α :=
  .send connection.number (fetchRequest setup connection source cursor run.state)

/-- The event by which a server is told to forget its cursor. -/
def killing (setup : Setup α) (connection : Connection) (source : Source)
    (cursor : ServerCursor) : Event α :=
  .send connection.number (killRequest setup connection source cursor.id)

/-- Asking for the next batch kills nothing: `(asking ..).kill? = none`. -/
@[simp] theorem kill?_asking : (asking setup connection source cursor run).kill? = none := by
  simp [asking]

/-- Killing a cursor is a kill, and its request is the `killRequest` for `cursor.id`. -/
@[simp] theorem kill?_killing : (killing setup connection source cursor : Event α).kill? =
    some (killRequest setup connection source cursor.id) := by
  simp [killing]

/-- A fetch uses up no answer to a kill, and is the one event `asking`. -/
theorem Works.askFetch (setup : Setup α) (connection : Connection) (source : Source)
    (cursor : ServerCursor) (run : Run α) :
    Works run (askFetch setup connection source cursor run)
      [asking setup connection source cursor run] :=
  ⟨rfl, by simp, rfl, rfl, rfl⟩

/-- A kill uses up its answer, and is the one event `killing`. -/
theorem Works.askKill (setup : Setup α) (connection : Connection) (source : Source)
    (cursor : ServerCursor) (run : Run α) :
    Works run (askKill setup connection source cursor.id run)
      [killing setup connection source cursor] :=
  ⟨rfl, by simp, rfl, rfl, rfl⟩

/-- The state when a fetch has been answered: `closed` is set if `run.tripCloses`, and no connection
is kept. -/
def heard (setup : Setup α) (run : Run α) : State α :=
  { run.state with
    closed := run.state.closed || run.tripCloses setup.ns
    pinned := none }

/-- The state when a reply has been taken over: its cursor, its documents, and the count with
them. -/
def replied (setup : Setup α) (run : Run α) (reply : Reply α) : State α :=
  { heard setup run with
    live := reply.cursor
    count := Saturating.add run.state.count (Saturating.clamp reply.documents.length)
    buffered := reply.documents }

/-- **What is said on a connection in a round trip**, with the result and the state that it leads
to. Documents are asked for in each of the cases; a kill is sent only when a reply reaches the
limit. -/
inductive Said (setup : Setup α) (connection : Connection) (source : Source)
    (cursor : ServerCursor) (run : Run α) :
    Except CursorError Unit → State α → List (Event α) → Prop
  /-- Documents were asked for, but none were received. -/
  | failed {error : CursorError}
      (received : receive setup connection source cursor (run.fetchTurn setup.ns).response =
        .error error) :
      Said setup connection source cursor run (.error error) (heard setup run)
        [asking setup connection source cursor run]
  /-- A reply was taken over that does not reach the limit, or is the last one anyway. -/
  | taken {reply : Reply α}
      (received : receive setup connection source cursor (run.fetchTurn setup.ns).response =
        .ok reply)
      (last : limitReached setup (replied setup run reply) = true → reply.cursor = none) :
      Said setup connection source cursor run (.ok ())
        { replied setup run reply with
          source := if reply.cursor.isNone then none else run.state.source }
        (asking setup connection source cursor run :: .accept reply.documents reply.cursor ::
          if reply.cursor.isNone then [.release] else [])
  /-- A reply reached the limit, and its cursor was killed. -/
  | gone {reply : Reply α} {next : ServerCursor}
      (received : receive setup connection source cursor (run.fetchTurn setup.ns).response =
        .ok reply)
      (names : reply.cursor = some next)
      (reached : limitReached setup (replied setup run reply) = true)
      (read : readKill connection run.killTurn.response = .ok ()) :
      Said setup connection source cursor run (.ok ())
        { replied setup run reply with
          source := none
          live := none
          closed := (heard setup run).closed || run.killTurn.closes }
        [asking setup connection source cursor run, .accept reply.documents reply.cursor,
          killing setup connection source next, .release]
  /-- A reply reached the limit, but its cursor could not be killed. -/
  | kept {reply : Reply α} {next : ServerCursor} {error : CursorError}
      (received : receive setup connection source cursor (run.fetchTurn setup.ns).response =
        .ok reply)
      (names : reply.cursor = some next)
      (reached : limitReached setup (replied setup run reply) = true)
      (read : readKill connection run.killTurn.response = .error error) :
      Said setup connection source cursor run (.error error)
        { replied setup run reply with
          closed := (heard setup run).closed || run.killTurn.closes }
        [asking setup connection source cursor run, .accept reply.documents reply.cursor,
          killing setup connection source next]

section Opened

variable {opened : Run α}

theorem Opened.state_askFetch (h : Opened run connection opened) :
    (askFetch setup connection source cursor opened).state = heard setup run := by
  rw [Cursor.state_askFetch, h.state_eq, h.fetchTurn, heard, Run.tripCloses, ← Bool.or_assoc]

theorem Opened.state_absorb (h : Opened run connection opened) (reply : Reply α) :
    (absorb reply (askFetch setup connection source cursor opened)).state =
      replied setup run reply := by
  rw [Cursor.state_absorb, h.state_askFetch]
  rfl

/-- The next batch is asked for on the connection that was opened, by the request that `run` would
make. -/
theorem Opened.asks (h : Opened run connection opened) :
    Works opened (askFetch setup connection source cursor opened)
      [asking setup connection source cursor run] := by
  have same : asking setup connection source cursor opened =
      asking setup connection source cursor run := by
    rw [asking, h.state_eq]
    rfl
  rw [← same]
  exact .askFetch ..

/-- The next batch is asked for and taken over: `asking`, then `.accept`. -/
theorem Opened.takes (h : Opened run connection opened) (reply : Reply α) :
    Works opened (absorb reply (askFetch setup connection source cursor opened))
      [asking setup connection source cursor run, .accept reply.documents reply.cursor] :=
  h.asks.trans (.absorb reply _)

/-- The next batch is asked for and taken over, and the cursor that it reports is killed: `asking`,
`.accept`, then `killing` for `next`. -/
theorem Opened.cuts (h : Opened run connection opened) (reply : Reply α) (next : ServerCursor) :
    Works opened (askKill setup connection source next.id
        (absorb reply (askFetch setup connection source cursor opened)))
      [asking setup connection source cursor run, .accept reply.documents reply.cursor,
        killing setup connection source next] :=
  (h.takes reply).trans (.askKill setup connection source next _)

end Opened

/-- **A fetch on a connection that was opened** says what is said in a round trip: each case of
`Fetched` is one of `Said`, with its events. -/
theorem Fetched.spoken {opened : Run α} {outcome : Outcome α Unit}
    (hs : run.state.source = some source) (opens : Opened run connection opened)
    (h : Fetched setup connection source cursor opened outcome) :
    ∃ said, Said setup connection source cursor run outcome.result outcome.run.state said ∧
      Works opened outcome.run said := by
  cases h with
  | failed received =>
    exact ⟨_, opens.state_askFetch ▸ .failed (opens.fetchTurn setup.ns ▸ received), opens.asks⟩
  | @taken reply received last =>
    rw [opens.state_absorb] at last
    have released := Works.releaseIfExhausted
      (absorb reply (askFetch setup connection source cursor opened))
    simp only [opens.state_absorb, replied, heard, hs, Option.isSome_some, Bool.and_true]
      at released
    refine ⟨_, ?_, (opens.takes reply).trans released⟩
    show Said setup connection source cursor run (.ok ()) (releaseIfExhausted _).state _
    rw [state_releaseIfExhausted, opens.state_absorb]
    exact .taken (opens.fetchTurn setup.ns ▸ received) last
  | @cut reply next outcome received names reached killed =>
    rw [opens.state_absorb] at reached
    have turn : (absorb reply (askFetch setup connection source cursor opened)).killTurn =
        run.killTurn := opens.killTurn
    cases killed with
    | gone read =>
      rw [turn] at read
      have released := Works.releaseIfExhausted ((askKill setup connection source next.id
        (absorb reply (askFetch setup connection source cursor opened))).modify
          fun state => { state with live := none })
      simp only [Run.state_modify, state_askKill, opens.state_absorb, replied, heard, hs,
        Option.isSome_some, Option.isNone_none, Bool.and_self, if_true] at released
      refine ⟨_, ?_, ((opens.cuts reply next).trans (.modify _ _)).trans released⟩
      show Said setup connection source cursor run (.ok ()) (releaseIfExhausted _).state _
      rw [state_releaseIfExhausted, Run.state_modify, state_askKill, opens.state_absorb, turn]
      exact .gone (opens.fetchTurn setup.ns ▸ received) names reached read
    | kept read =>
      rw [turn] at read
      refine ⟨_, ?_, opens.cuts reply next⟩
      show Said setup connection source cursor run (.error _) (askKill ..).state _
      rw [state_askKill, opens.state_absorb, turn]
      exact .kept (opens.fetchTurn setup.ns ▸ received) names reached read

/-! ## Round trips -/

/-- **The events by which a connection is opened**: none if it was kept, and an `.acquire` with the
next number otherwise. -/
inductive Opening (source : Source) (run : Run α) (connection : Connection) :
    List (Event α) → Prop
  | kept (pinned : run.state.pinned = some connection) : Opening source run connection []
  | made (unpinned : run.state.pinned = none) (number : connection.number = run.issued + 1)
      (version : connection.wireVersion = nextVersion source run.script.grants) :
      Opening source run connection [.acquire connection.number]

/-- **A round trip with all its events**: those of `Opening`, those of `Said`, and the `.giveUp` of
a connection that is not kept. -/
inductive Passage (setup : Setup α) (source : Source) (cursor : ServerCursor) (run : Run α) :
    Outcome α Unit → Prop
  /-- There was no connection to be had. -/
  | refused {outcome : Outcome α Unit} {error : TransportError}
      (unpinned : run.state.pinned = none)
      (result : outcome.result = .error (.transport error))
      (state : outcome.run.state =
        { run.state with closed := run.state.closed || run.openingCloses })
      (works : Works run outcome.run [.acquireFailed]) :
      Passage setup source cursor run outcome
  /-- Something was said on a connection, which is kept then or given up. -/
  | made {outcome : Outcome α Unit} {connection : Connection} {opening said : List (Event α)}
      {state : State α}
      (opens : Opening source run connection opening)
      (talk : Said setup connection source cursor run outcome.result state said)
      (state_eq : outcome.run.state = { state with
        pinned := if keeps setup connection state then some connection else none })
      (works : Works run outcome.run (opening ++ (said ++
        if keeps setup connection state then [] else [.giveUp connection.number]))) :
      Passage setup source cursor run outcome

/-- A round trip uses up answers only for its events, whichever case it is. -/
theorem Passage.works {outcome : Outcome α Unit}
    (h : Passage setup source cursor run outcome) : ∃ work, Works run outcome.run work := by
  cases h with
  | refused unpinned result state works => exact ⟨_, works⟩
  | made opens talk state_eq works => exact ⟨_, works⟩

/-- No connection is kept while something is said: `state.pinned = none`. -/
theorem Said.unpinned {result : Except CursorError Unit} {state : State α} {said : List (Event α)}
    (h : Said setup connection source cursor run result state said) : state.pinned = none := by
  cases h <;> rfl

/-- A fetch on a connection that was opened, and what `settle` does with the connection, are a
passage. -/
theorem Fetched.passage {opened : Run α} {opening : List (Event α)} {outcome : Outcome α Unit}
    (hs : run.state.source = some source) (connected : Opened run connection opened)
    (opens : Opening source run connection opening) (works : Works run opened opening)
    (h : Fetched setup connection source cursor opened outcome) :
    Passage setup source cursor run (outcome.always (settle setup connection)) := by
  obtain ⟨said, talk, spoken⟩ := h.spoken hs connected
  refine .made opens talk ?_ (works.trans (spoken.trans (.settle setup connection outcome.run)))
  rw [Outcome.run_always, state_settle, talk.unpinned]

/-- **A round trip is a passage** while the server holds a cursor and the source is held. -/
theorem getMore_passage (setup : Setup α) (hs : run.state.source = some source)
    (hl : run.state.live = some cursor) :
    Passage setup source cursor run (getMore setup run) := by
  have passage {connection : Connection} {opened : Run α} {opening : List (Event α)}
      (connected : Opened run connection opened) (opens : Opening source run connection opening)
      (works : Works run opened opening) :
      Passage setup source cursor run
        ((getMoreOn setup connection opened).always (settle setup connection)) := by
    have fetched : Fetched setup connection source cursor opened
        (getMoreOn setup connection opened) :=
      getMoreOn_fetched (by rw [connected.state_eq]; exact hs)
        (by rw [connected.state_eq]; exact hl)
    exact fetched.passage hs connected opens works
  unfold getMore connect
  cases pinned : run.state.pinned with
  | some connection =>
    exact passage (.kept pinned) (.kept pinned)
      (.modify (fun state => { state with pinned := none }) run)
  | none =>
    obtain ⟨granted, grants⟩ | ⟨⟨error, refused⟩, grants⟩ := Run.acquire_next hs
    · simp only [granted]
      exact passage (.made pinned) (.made pinned rfl rfl) (.granted run grants)
    · simp only [refused]
      refine .refused pinned rfl ?_ (.refused run grants)
      show run.refused.state = _
      simp [Run.openingCloses, pinned]

/-- A round trip is a passage while the source is held as long as the server holds a cursor, which
is `Sourced`. -/
theorem exists_passage (setup : Setup α) (h : Sourced run) (live : run.state.live.isSome) :
    ∃ source cursor, run.state.source = some source ∧ run.state.live = some cursor ∧
      Passage setup source cursor run (getMore setup run) := by
  obtain ⟨cursor, hl⟩ := Option.isSome_iff_exists.mp live
  obtain ⟨source, hs⟩ := Option.isSome_iff_exists.mp (h.trans live)
  exact ⟨source, cursor, hs, hl, getMore_passage setup hs hl⟩

/-! ## What is said and what was before it -/

/-- A request that was sent. -/
def Event.sent? : Event α → Option Request
  | send _ request => some request
  | _ => none

/-- Where nothing is sent, no documents are asked for and nothing is killed: `request?`, `asked?`
and `kill?` are all read off `send`. -/
theorem asked?_of_sent?_eq {event : Event α} (h : event.sent? = none) :
    event.asked? = none ∧ event.request? = none ∧ event.kill? = none := by
  cases event with
  | send number request => exact absurd h (by simp [Event.sent?])
  | retain | release | acquire | acquireFailed | accept | giveUp => exact ⟨rfl, rfl, rfl⟩

/-- Events by which nothing is sent hold no requests for documents and no kills. -/
theorem requests_of_sent?_eq {events : List (Event α)} (h : ∀ event ∈ events, event.sent? = none) :
    requests events = [] ∧ kills events = [] :=
  ⟨List.filterMap_eq_nil_iff.mpr fun event listed => (asked?_of_sent?_eq (h event listed)).2.1,
    List.filterMap_eq_nil_iff.mpr fun event listed => (asked?_of_sent?_eq (h event listed)).2.2⟩

/-- What holds of every event by which nothing is sent holds throughout a list of such events. -/
theorem throughout_of_sent?_eq {P : List (Event α) → Event α → Prop} {events : List (Event α)}
    (h : ∀ event ∈ events, event.sent? = none)
    (hP : ∀ before event, event.sent? = none → P before event) : Throughout P events := by
  rintro before event after rfl
  exact hP before event (h event (by simp))

/-- **What is said on a connection begins with the request for documents.** A property of what may
follow, which is to take a reply over, to kill the cursor that it names and to let go of the source,
holds of everything after it. -/
theorem Said.eq_cons {P : Event α → Prop} {result : Except CursorError Unit} {state : State α}
    {said : List (Event α)} (h : Said setup connection source cursor run result state said)
    (accepts : ∀ documents cursor, P (.accept documents cursor))
    (kills : ∀ next, P (killing setup connection source next)) (releases : P .release) :
    ∃ rest, said = asking setup connection source cursor run :: rest ∧ ∀ event ∈ rest, P event := by
  cases h with
  | failed received => exact ⟨[], rfl, by simp⟩
  | @taken reply received last =>
    refine ⟨_, rfl, ?_⟩
    cases reply.cursor <;> simp [accepts, releases]
  | gone received names reached read => exact ⟨_, rfl, by simp [accepts, kills, releases]⟩
  | kept received names reached read => exact ⟨_, rfl, by simp [accepts, kills]⟩

/-- Nothing is sent while a connection is opened. -/
theorem Opening.sent?_eq {opening : List (Event α)} (h : Opening source run connection opening) :
    ∀ event ∈ opening, event.sent? = none := by
  cases h <;> simp [Event.sent?]

/-- What is said with a kill in it ends the server's cursor or reaches the limit. -/
theorem Said.killed {result : Except CursorError Unit} {state : State α} {said : List (Event α)}
    (h : Said setup connection source cursor run result state said) (killed : kills said ≠ []) :
    limitReached setup state = true ∨ state.live = none := by
  cases h with
  | failed received => exact absurd killed (by simp)
  | @taken reply received last => exact absurd killed (by cases reply.cursor <;> simp)
  | gone received names reached read => exact Or.inr rfl
  | kept received names reached read => exact Or.inl ((limitReached_congr rfl).trans reached)

/-- A round trip that kills ends the server's cursor or reaches the limit: after it there is nothing
more to ask for. -/
theorem Passage.killed {outcome : Outcome α Unit}
    (passage : Passage setup source cursor run outcome) (before : kills run.events = [])
    (killed : kills outcome.run.events ≠ []) :
    limitReached setup outcome.run.state = true ∨ outcome.run.state.live = none := by
  cases passage with
  | refused unpinned result state works =>
    exact absurd killed (by simp [works.events, before])
  | @made connection opening said state opens talk state_eq works =>
    have settled : kills (if keeps setup connection state then [] else
        [(.giveUp connection.number : Event α)]) = [] := by split <;> rfl
    rw [works.events, kills_append, before, kills_append,
      (requests_of_sent?_eq opens.sent?_eq).2, kills_append, settled] at killed
    rw [state_eq]
    exact talk.killed (by simpa using killed)

/-- **What holds of every event by which nothing is sent holds on in a round trip**, if it holds of
the request for documents and of the kill after a reply that reaches the limit. -/
theorem Passage.throughout {P : List (Event α) → Event α → Prop} {outcome : Outcome α Unit}
    (passage : Passage setup source cursor run outcome)
    (quiet : ∀ before event, event.sent? = none → P before event)
    (asks : ∀ {connection opening}, Opening source run connection opening →
      P (run.events ++ opening) (asking setup connection source cursor run))
    (cuts : ∀ {connection opening} {reply : Reply α} {next}, Opening source run connection opening →
      reply.cursor = some next → limitReached setup (replied setup run reply) = true →
      P (run.events ++ (opening ++ [asking setup connection source cursor run,
        .accept reply.documents reply.cursor])) (killing setup connection source next))
    (holds : Throughout P run.events) : Throughout P outcome.run.events := by
  cases passage with
  | refused unpinned result state works =>
    rw [works.events, throughout_append]
    exact ⟨holds, throughout_of_sent?_eq (by simp [Event.sent?]) fun _ => quiet _⟩
  | @made connection opening said state opens talk state_eq works =>
    rw [works.events, throughout_append, throughout_append, throughout_append]
    refine ⟨holds, throughout_of_sent?_eq opens.sent?_eq fun _ => quiet _, ?_, ?_⟩
    · have cut {reply : Reply α} {next : ServerCursor} (names : reply.cursor = some next)
          (reached : limitReached setup (replied setup run reply) = true) :=
        cuts opens names reached
      generalize outcome.result = result at talk
      cases talk with
      | failed received => simpa using asks opens
      | @taken reply received last =>
        rw [throughout_cons, throughout_cons]
        refine ⟨by simpa using asks opens, quiet _ _ rfl, ?_⟩
        exact throughout_of_sent?_eq (by cases reply.cursor <;> simp [Event.sent?]) fun _ => quiet _
      | gone received names reached read =>
        simp only [throughout_cons, throughout_nil, and_true]
        exact ⟨by simpa using asks opens, quiet _ _ rfl, by simpa using cut names reached,
          quiet _ _ rfl⟩
      | kept received names reached read =>
        simp only [throughout_cons, throughout_nil, and_true]
        exact ⟨by simpa using asks opens, quiet _ _ rfl, by simpa using cut names reached⟩
    · refine throughout_of_sent?_eq ?_ fun _ => quiet _
      split <;> simp [Event.sent?]

/-! ## Kills on a connection of their own -/

/-- **The events of a kill on a connection of its own**: none if the server holds no cursor,
`.acquireFailed` if there is no connection to be had, and otherwise an `.acquire`, the kill and the
`.giveUp` of the same connection. -/
inductive Discarding (setup : Setup α) (run : Run α) : List (Event α) → Prop
  | idle (none : run.state.live = none) : Discarding setup run []
  | refused {cursor : ServerCursor} (names : run.state.live = some cursor) :
      Discarding setup run [.acquireFailed]
  | made {connection : Connection} {source : Source} {cursor : ServerCursor}
      (held : run.state.source = some source) (names : run.state.live = some cursor)
      (number : connection.number = run.issued + 1) :
      Discarding setup run [.acquire connection.number, killing setup connection source cursor,
        .giveUp connection.number]

/-- **After a kill** the server's cursor is gone, or the kill failed: then `live` is as it was, and
`request.killed` of its answer is an error. -/
def Ended (run after : Run α) (work : List (Event α)) : Prop :=
  after.state.live = none ∨ after.state.live = run.state.live ∧
    ∀ request ∈ kills work, ∃ error, request.killed run.killTurn.response = .error error

/-- A kill is one event, which uses up an answer, and it ends as `Ended` says. -/
theorem Killed.works {outcome : Outcome α Unit}
    (h : Killed setup connection source cursor run outcome) :
    Works run outcome.run [killing setup connection source cursor] ∧
      Ended run outcome.run [killing setup connection source cursor] := by
  cases h with
  | gone read =>
    exact ⟨(Works.askKill setup connection source cursor run).trans (.of_eq rfl rfl rfl),
      Or.inl rfl⟩
  | kept read =>
    refine ⟨.askKill setup connection source cursor run, Or.inr ⟨rfl, ?_⟩⟩
    simp [killed_killRequest, read]

/-- **A kill on a connection of its own** has the events of `Discarding` if the source is held while
the server holds a cursor. -/
theorem killOnNew_works (setup : Setup α)
    (h : run.state.live.isSome → run.state.source.isSome) :
    ∃ work, Discarding setup run work ∧ Works run (killOnNew setup run).run work ∧
      Ended run (killOnNew setup run).run work := by
  unfold killOnNew
  cases hl : run.state.live with
  | none => exact ⟨[], .idle hl, .of_eq rfl rfl rfl, Or.inl hl⟩
  | some cursor =>
    obtain ⟨source, hs⟩ := Option.isSome_iff_exists.mp (h (by rw [hl]; rfl))
    simp only [Option.isNone_some, Bool.false_eq_true, if_false]
    obtain ⟨granted, grants⟩ | ⟨⟨error, refused⟩, grants⟩ := Run.acquire_next hs
    · simp only [granted]
      set connection : Connection :=
        ⟨run.issued + 1, nextVersion source run.script.grants⟩ with hconnection
      have killed : Killed setup connection source cursor run.granted
          (killOn setup connection run.granted) := killOn_killed setup connection hs hl
      obtain ⟨works, ended⟩ := killed.works
      have discarding : Discarding setup run [.acquire connection.number,
          killing setup connection source cursor, .giveUp connection.number] := .made hs hl rfl
      refine ⟨_, discarding,
        (Works.granted run grants).trans (works.trans (.giveUp connection _)), ?_⟩
      refine ended.imp_right (And.imp_right fun failed request listed => failed request ?_)
      simpa using listed
    · simp only [refused]
      exact ⟨_, .refused hl, .refused run grants, Or.inr ⟨rfl, by simp⟩⟩

/-! ## The making of a cursor -/

/-- **The events of the kill after the first batch**, which is made on the given connection, or else
on one of its own: none if the batch does not reach the limit or is the last one. -/
inductive Cutting (setup : Setup α) (run : Run α) : Option Connection → List (Event α) → Prop
  | unreached {given : Option Connection} (unreached : limitReached setup run.state = false) :
      Cutting setup run given []
  | idle {given : Option Connection} (none : run.state.live = none) : Cutting setup run given []
  | supplied {connection : Connection} {source : Source} {cursor : ServerCursor}
      (reached : limitReached setup run.state = true) (held : run.state.source = some source)
      (names : run.state.live = some cursor) :
      Cutting setup run (some connection) [killing setup connection source cursor]
  | own {work : List (Event α)} (reached : limitReached setup run.state = true)
      (discards : Discarding setup run work) : Cutting setup run none work

/-- There is no kill after a first batch that does not reach the limit: events are there only where
`limitReached`. -/
theorem Cutting.reached {given : Option Connection} {work : List (Event α)}
    (h : Cutting setup run given work) (some : work ≠ []) :
    limitReached setup run.state = true := by
  cases h with
  | unreached | idle => exact absurd rfl some
  | supplied reached | own reached => exact reached

/-- **A kill after the first batch** has the events of `Cutting`, if the source is held while the
server holds a cursor. -/
theorem killIfReached_works (setup : Setup α) (given : Option Connection)
    (h : run.state.live.isSome → run.state.source.isSome) :
    ∃ work, Cutting setup run given work ∧ Works run (killIfReached setup given run) work ∧
      Ended run (killIfReached setup given run) work := by
  unfold killIfReached
  cases reached : limitReached setup run.state with
  | false => exact ⟨[], .unreached reached, .of_eq rfl rfl rfl, Or.inr ⟨rfl, by simp⟩⟩
  | true =>
    simp only [if_true]
    cases given with
    | none =>
      obtain ⟨work, discards, works, ended⟩ := killOnNew_works setup h
      have opened := works.trans (.modify (fun state => { state with closed := false }) _)
      rw [List.append_nil] at opened
      exact ⟨work, .own reached discards, opened, ended⟩
    | some connection =>
      cases hl : run.state.live with
      | none =>
        simp only [killOn, hl]
        exact ⟨[], .idle hl, .modify _ run, Or.inl hl⟩
      | some cursor =>
        obtain ⟨source, hs⟩ := Option.isSome_iff_exists.mp (h (by rw [hl]; rfl))
        obtain ⟨works, ended⟩ := (killOn_killed setup connection hs hl).works
        exact ⟨_, .supplied reached hs hl,
          works.trans (.modify (fun state => { state with closed := false }) _), ended⟩

/-- **A cursor that could be made** was made by the kill after the first batch, and then the source
is let go of if the server holds no cursor, and the connection that was given is given up. So its
events are those of `Cutting`, then at most a `.release` and a `.giveUp`. -/
theorem Life.begin_works {first : Reply α} {options : Options}
    {decode : Document → Except DecodeError α} {source : Option Source}
    {connection : Option Connection} {script : Script}
    (hok : (begin first options decode source connection script).1 = .ok ()) :
    let taken := absorb first (started options.batchSize source script)
    let run := (begin first options decode source connection script).2.run
    ∃ work, Cutting (Setup.of first options decode) taken connection work ∧
      Ended taken run work ∧
      Works taken run (work ++
        ((if run.state.live.isNone && source.isSome then [.release] else []) ++
          connection.toList.map fun connection => .giveUp connection.number)) := by
  intro taken run
  obtain ⟨⟨error, failed⟩, -⟩ | ⟨held, made⟩ := create_cases (Setup.of first options decode)
    options.batchSize first source connection script
  · have refused : (begin first options decode source connection script).1 = .error error := failed
    rw [hok] at refused
    exact absurd refused (by simp)
  · set killed := killIfReached (Setup.of first options decode) connection taken with hkilled
    have state : run.state = (releaseIfExhausted killed).state := by
      cases connection <;> simp [run, begin, made, Outcome.pure, Run.giveUp, hkilled, taken]
    obtain ⟨-, live, same, -⟩ := killIfReached_quietly (Setup.of first options decode) connection
      taken held rfl
    obtain ⟨work, cuts, works, ended⟩ : ∃ work,
        Cutting (Setup.of first options decode) taken connection work ∧ Works taken killed work ∧
          Ended taken killed work := killIfReached_works _ connection held
    have held : killed.state.source = source := by rw [hkilled, same]; rfl
    have names : run.state.live = killed.state.live := by rw [state, state_releaseIfExhausted]
    refine ⟨work, cuts, ?_, ?_⟩
    · rw [Ended, names]
      exact ended
    · have released := Works.releaseIfExhausted killed
      rw [held] at released
      rw [names]
      refine works.trans (released.trans ?_)
      cases connection with
      | none =>
        have same : run = releaseIfExhausted killed := congrArg Outcome.run made
        rw [same]
        exact .of_eq rfl rfl rfl
      | some connection =>
        have same : run = (releaseIfExhausted killed).giveUp connection :=
          congrArg (fun outcome => outcome.run.giveUp connection) made
        rw [same]
        exact .giveUp connection _

/-- Giving up connections is no kill, however many there are. -/
@[simp] theorem kills_giveUps (connections : List Connection) :
    kills (connections.map fun connection => (.giveUp connection.number : Event α)) = [] :=
  (requests_of_sent?_eq (by simp [Event.sent?])).2

/-- Nothing is killed before the first batch is taken over. -/
@[simp] theorem kills_absorb_started (batchSize : Int32) (first : Reply α) (source : Option Source)
    (script : Script) : kills (absorb first (started batchSize source script)).events = [] := by
  rw [events_absorb]
  cases source <;> rfl

/-- A cursor that was just made sent no kill but the one after the first batch:
`kills run.events = kills work`. -/
theorem kills_begin {batchSize : Int32} {first : Reply α} {source : Option Source}
    {script : Script} {work : List (Event α)} {releases : Bool} {connections : List Connection}
    (h : Works (absorb first (started batchSize source script)) run
      (work ++ ((if releases then [.release] else []) ++
        connections.map fun connection => .giveUp connection.number))) :
    kills run.events = kills work := by
  have released : kills (if releases then [(Event.release : Event α)] else []) = [] := by
    cases releases <;> rfl
  rw [h.events, kills_append, kills_absorb_started, List.nil_append, kills_append, kills_append,
    released, kills_giveUps, List.append_nil, List.append_nil]

end Cursor

end DocumentCursor
