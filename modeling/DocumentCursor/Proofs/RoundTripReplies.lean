import DocumentCursor.Proofs.Faults
import DocumentCursor.Proofs.Refusals
import Mathlib.Data.List.ReduceOption

/-! # What a round trip brings

A round trip brings a reply, or there is an error for which it brings none: there was no connection
to be had, or nothing was received on it. What it brings decides what it does, apart from whether a
cursor can be killed. A round trip for which no connection was to be had is an attempt all the same.

* **`brings`**: what a round trip brings.
* **`attempts`**: the attempts at round trips in a list of events, each with what was asked for.
* **`getMore_refused`** and **`getMore_said`**: a round trip without a connection, and on one.
* **`Misses`**: the ways a round trip brings nothing; **`brings_eq_error_iff`**: these are all.
* **`result_of_missed`**, **`state_of_taken`** and **`state_of_cut`**: what a round trip does by
  what it brings.
* **`attempts_getMore`**: a round trip is one attempt.
-/

namespace DocumentCursor.Cursor

variable {α : Type} {setup : Setup α} {run : Run α} {connection : Connection} {source : Source}
  {cursor : ServerCursor} {error : CursorError}

/-! ## Attempts at round trips -/

/-- An attempt at a round trip: a request for documents, or `some none` if the source refused a
connection for it. A kill is no attempt. -/
def Event.attempt? : Event α → Option (Option Request)
  | acquireFailed => some none
  | send _ request => if request.asked?.isSome then some (some request) else none
  | _ => none

/-- **The attempts at round trips**, in the order of the events. A round trip is one attempt, by
`attempts_getMore`. -/
def attempts (events : List (Event α)) : List (Option Request) := events.filterMap (·.attempt?)

@[simp] theorem attempts_nil : attempts ([] : List (Event α)) = [] := rfl

@[simp] theorem attempts_cons (event : Event α) (events : List (Event α)) :
    attempts (event :: events) = event.attempt?.toList ++ attempts events := by
  cases h : event.attempt? <;> simp [attempts, h]

@[simp] theorem attempts_append (events others : List (Event α)) :
    attempts (events ++ others) = attempts events ++ attempts others :=
  List.filterMap_append

/-- The requests for documents are the attempts for which there was a connection: `requests` drops
the `none`s of `attempts`. -/
theorem requests_eq_reduceOption (events : List (Event α)) :
    requests events = (attempts events).reduceOption := by
  induction events with
  | nil => rfl
  | cons event events ih =>
    rw [requests_cons, attempts_cons, List.reduceOption_append, ih]
    congr 1
    cases event with
    | send number request =>
      cases asked : request.asked? <;>
        simp [Event.attempt?, Event.request?, asked, List.reduceOption]
    | acquireFailed => rfl
    | retain | release | acquire | accept | giveUp => rfl

/-- What a round trip attempts: `fetchRequest` on the connection that `connect` gives, or `none` if
it gives none. -/
def attempt (setup : Setup α) (source : Source) (cursor : ServerCursor) (run : Run α) :
    Option Request :=
  (connect run).result.toOption.map fun connection =>
    fetchRequest setup connection source cursor run.state

/-! ## What is brought -/

/-- **What a round trip brings**: what `receive` reads on the connection that `connect` gives, with
its documents decoded, or why there is nothing. -/
def brings (setup : Setup α) (source : Source) (cursor : ServerCursor) (run : Run α) :
    Except CursorError (Reply α) :=
  (connect run).result.bind fun connection =>
    receive setup connection source cursor (run.fetchTurn setup.ns).response

/-- What is brought was received on a connection: `brings` is `.ok reply` exactly if `connect` and
then `receive` are `.ok`. -/
theorem brings_eq_ok_iff {reply : Reply α} :
    brings setup source cursor run = .ok reply ↔
      ∃ connection, (connect run).result = .ok connection ∧
        receive setup connection source cursor (run.fetchTurn setup.ns).response = .ok reply := by
  unfold brings
  cases (connect run).result <;> simp [Except.bind]

/-- **The ways a round trip brings nothing**, before a reply is taken over. Both leave the state as
it was but for the connection that is kept, by `untouched_of_misses`. -/
inductive Misses (setup : Setup α) (source : Source) (cursor : ServerCursor) (run : Run α) :
    CursorError → Prop
  /-- No connection is kept, and the source refuses one. -/
  | refused {error : TransportError} {closes : Bool} {grants : List Grant}
      (unpinned : run.state.pinned = none)
      (refuses : run.script.grants = .refused error closes :: grants) :
      Misses setup source cursor run (.transport error)
  /-- Nothing is received on the connection that is got. -/
  | faulty {connection : Connection} {error : CursorError}
      (connected : (connect run).result = .ok connection)
      (faulty : Faulty setup connection source cursor (run.fetchTurn setup.ns).response error) :
      Misses setup source cursor run error

/-- **No connection is to be had** exactly if none is kept and the source refuses one, and then the
error is `.transport` of its cause. -/
theorem connect_eq_error_iff (held : run.state.source = some source) :
    (connect run).result = .error error ↔
      run.state.pinned = none ∧ ∃ cause closes grants, error = .transport cause ∧
        run.script.grants = .refused cause closes :: grants := by
  unfold connect
  cases pinned : run.state.pinned with
  | some connection => simp [Outcome.pure]
  | none =>
    simp only [Run.acquire_eq held, Run.nextGrant, true_and]
    cases grants : run.script.grants with
    | nil => simp
    | cons grant rest =>
      cases grant with
      | granted version closes => simp
      | refused cause closes => simp [eq_comm]

/-- **A round trip brings nothing** exactly in these ways: `brings = .error error ↔ Misses`. -/
theorem brings_eq_error_iff (held : run.state.source = some source) :
    brings setup source cursor run = .error error ↔ Misses setup source cursor run error := by
  unfold brings
  rw [bind_eq_error_iff, connect_eq_error_iff held]
  constructor
  · rintro (⟨unpinned, cause, closes, grants, rfl, refuses⟩ | ⟨connection, connected, failed⟩)
    · exact .refused unpinned refuses
    · exact .faulty connected (receive_eq_error_iff.mp failed)
  · intro misses
    cases misses with
    | refused unpinned refuses => exact Or.inl ⟨unpinned, _, _, _, rfl, refuses⟩
    | faulty connected faulty => exact Or.inr ⟨_, connected, receive_eq_error_iff.mpr faulty⟩

/-! ## What is done -/

/-- A round trip for which no connection was to be had ends there: it gives the error of `connect`,
and the run is `run.refused`. -/
theorem getMore_refused (setup : Setup α) (held : run.state.source = some source)
    (refused : (connect run).result = .error error) :
    getMore setup run = ⟨.error error, run.refused⟩ := by
  obtain ⟨unpinned, -⟩ := (connect_eq_error_iff held).mp refused
  have acquires : connect run = run.acquire := by rw [connect, unpinned]
  unfold getMore
  obtain ⟨version, granted⟩ | ⟨cause, closes, -, refuses⟩ := Run.acquire_cases held
  · rw [acquires, granted] at refused
    exact nomatch refused
  · rw [acquires, refuses] at refused ⊢
    obtain rfl := Except.error.inj refused
    rfl

/-- A connection is opened with its events: those of `Opening`, and `connect` adds no others. -/
theorem connect_opening (held : run.state.source = some source)
    (connected : (connect run).result = .ok connection) :
    ∃ opening, Opening source run connection opening ∧
      Works run (connect run).run opening := by
  unfold connect at *
  cases pinned : run.state.pinned with
  | some kept =>
    rw [pinned] at connected
    obtain rfl := Except.ok.inj connected
    exact ⟨[], .kept pinned, .modify (fun state => { state with pinned := none }) run⟩
  | none =>
    rw [pinned] at connected
    obtain ⟨granted, grants⟩ | ⟨⟨cause, refuses⟩, -⟩ := Run.acquire_next held
    · simp only [granted] at connected ⊢
      obtain rfl := Except.ok.inj connected
      exact ⟨_, .made pinned rfl rfl, .granted run grants⟩
    · simp only [refuses] at connected
      exact nomatch connected

/-- **A round trip on the connection that is got**: what is said on it is `Said`, and then the
connection is pinned if `keeps` says so, and given up otherwise. The events come in the order
`opening`, `said`, `giveUp`. -/
theorem getMore_said (setup : Setup α) (held : run.state.source = some source)
    (names : run.state.live = some cursor) (connected : (connect run).result = .ok connection) :
    ∃ opening said state, Opening source run connection opening ∧
      Said setup connection source cursor run (getMore setup run).result state said ∧
      (getMore setup run).run.state = { state with
        pinned := if keeps setup connection state then some connection else none } ∧
      (getMore setup run).run.events = run.events ++ (opening ++ (said ++
        if keeps setup connection state then [] else [.giveUp connection.number])) := by
  obtain ⟨opening, opens, works⟩ := connect_opening held connected
  obtain ⟨same, opened⟩ := connect_opened held connected
  have trip : getMore setup run =
      (getMoreOn setup connection (connect run).run).always (settle setup connection) := by
    rw [getMore, same]
    rfl
  have fetched : Fetched setup connection source cursor (connect run).run
      (getMoreOn setup connection (connect run).run) :=
    getMoreOn_fetched (by rw [opened.state_eq]; exact held) (by rw [opened.state_eq]; exact names)
  obtain ⟨said, talk, spoken⟩ := fetched.spoken held opened
  have settled := Works.settle setup connection (getMoreOn setup connection (connect run).run).run
  rw [trip, Outcome.result_always, Outcome.run_always, state_settle, talk.unpinned]
  exact ⟨opening, said, _, opens, talk, rfl, (works.trans (spoken.trans settled)).events⟩

/-- **A round trip that brings nothing fails** by the error of `brings`. -/
theorem result_of_missed (held : run.state.source = some source)
    (names : run.state.live = some cursor)
    (missed : brings setup source cursor run = .error error) :
    (getMore setup run).result = .error error := by
  obtain refused | ⟨connection, connected, nothing⟩ := (bind_eq_error_iff ..).mp missed
  · rw [getMore_refused setup held refused]
  · obtain ⟨opening, said, state, opens, talk, -⟩ := getMore_said setup held names connected
    generalize (getMore setup run).result = result at talk
    cases talk with
    | failed received => exact congrArg _ (Except.error.inj (received.symm.trans nothing))
    | taken received => exact absurd (received.symm.trans nothing) (by simp)
    | gone received => exact absurd (received.symm.trans nothing) (by simp)
    | kept received => exact absurd (received.symm.trans nothing) (by simp)

/-- **A reply whose cursor is not killed is taken over**, and nothing fails. The documents are
buffered and counted, the reply's cursor is the `live` one, and the source is let go of exactly if
there is none. -/
theorem state_of_taken {reply : Reply α} (held : run.state.source = some source)
    (names : run.state.live = some cursor) (calm : Calm run.script)
    (brought : brings setup source cursor run = .ok reply)
    (final : limitReached setup (absorb reply run).state = true → reply.cursor = none) :
    (getMore setup run).result = .ok () ∧
      (getMore setup run).run.state = { run.state with
        source := if reply.cursor.isNone then none else some source
        live := reply.cursor
        count := Saturating.add run.state.count (Saturating.clamp reply.documents.length)
        buffered := reply.documents
        pinned := (getMore setup run).run.state.pinned } := by
  obtain ⟨connection, connected, received⟩ := brings_eq_ok_iff.mp brought
  obtain ⟨opening, said, state, opens, talk, state_eq, -⟩ :=
    getMore_said setup held names connected
  have uncut {other : Reply α} {next : ServerCursor}
      (again : receive setup connection source cursor (run.fetchTurn setup.ns).response =
        .ok other)
      (further : other.cursor = some next)
      (reached : limitReached setup (replied setup run other) = true) : False := by
    obtain rfl := Except.ok.inj (received.symm.trans again)
    have none := final ((limitReached_congr rfl).trans reached)
    exact absurd (none.symm.trans further) (by simp)
  generalize (getMore setup run).result = result at talk
  cases talk with
  | failed nothing => exact absurd (received.symm.trans nothing) (by simp)
  | taken again =>
    obtain rfl := Except.ok.inj (received.symm.trans again)
    rw [state_eq]
    simp [replied, heard, calm.tripCloses, held]
  | gone again further reached => exact (uncut again further reached).elim
  | kept again further reached => exact (uncut again further reached).elim

/-- **A reply that reaches the limit is taken over**, and killing its cursor is what may fail: the
result is that of `readKill`. If that fails the cursor stays, so `live` is `some next`. -/
theorem state_of_cut {reply : Reply α} {next : ServerCursor}
    (held : run.state.source = some source) (names : run.state.live = some cursor)
    (calm : Calm run.script) (connected : (connect run).result = .ok connection)
    (brought : brings setup source cursor run = .ok reply) (further : reply.cursor = some next)
    (reached : limitReached setup (absorb reply run).state = true) :
    (getMore setup run).result = readKill connection run.killTurn.response ∧
      (getMore setup run).run.state.closed = run.state.closed ∧
      (getMore setup run).run.state.buffered = reply.documents ∧
      (∀ error, readKill connection run.killTurn.response = .error error →
        (getMore setup run).run.state = { run.state with
          live := some next
          count := Saturating.add run.state.count (Saturating.clamp reply.documents.length)
          buffered := reply.documents
          pinned := (getMore setup run).run.state.pinned }) := by
  obtain ⟨other, also, received⟩ := brings_eq_ok_iff.mp brought
  obtain rfl := Except.ok.inj (connected.symm.trans also)
  obtain ⟨opening, said, state, opens, talk, state_eq, -⟩ :=
    getMore_said setup held names connected
  rw [state_eq]
  generalize (getMore setup run).result = result at talk
  cases talk with
  | failed nothing => exact absurd (received.symm.trans nothing) (by simp)
  | taken again unnamed =>
    obtain rfl := Except.ok.inj (received.symm.trans again)
    have none := unnamed ((limitReached_congr rfl).trans reached)
    exact absurd (none.symm.trans further) (by simp)
  | gone again _ _ read =>
    obtain rfl := Except.ok.inj (received.symm.trans again)
    refine ⟨read.symm, by simp [heard, calm.tripCloses, calm.killTurn], rfl, fun error fails => ?_⟩
    exact absurd (read.symm.trans fails) (by simp)
  | kept again _ _ read =>
    obtain rfl := Except.ok.inj (received.symm.trans again)
    refine ⟨read.symm, by simp [heard, calm.tripCloses, calm.killTurn], rfl, fun _ _ => ?_⟩
    simp [replied, heard, calm.tripCloses, calm.killTurn, further]

/-- A reply without documents reaches no limit that was not reached before, as `absorb` adds `0` to
the count. -/
theorem unreached_of_empty {reply : Reply α} (unreached : limitReached setup run.state = false)
    (empty : reply.documents = []) : limitReached setup (absorb reply run).state = false :=
  (limitReached_congr (by simp only [state_absorb, empty, List.length_nil, add_clamp_zero])).trans
    unreached

/-- A connection is opened without an attempt at a round trip: `attempts opening = []`. -/
theorem Opening.attempts_eq {opening : List (Event α)}
    (h : Opening source run connection opening) : attempts opening = [] := by
  cases h <;> rfl

/-- What is said on a connection is one attempt at a round trip: the `fetchRequest`, and no kill
counts as one. -/
theorem Said.attempts_eq {result : Except CursorError Unit} {state : State α}
    {said : List (Event α)} (h : Said setup connection source cursor run result state said) :
    attempts said = [some (fetchRequest setup connection source cursor run.state)] := by
  cases h with
  | failed received => simp [asking, Event.attempt?]
  | @taken reply received last =>
    cases reply.cursor <;> simp [asking, Event.attempt?]
  | gone received names reached read => simp [asking, killing, Event.attempt?]
  | kept received names reached read => simp [asking, killing, Event.attempt?]

/-- **A round trip is one attempt**: `getMore` adds `attempt setup source cursor run` and nothing
else to `attempts`. -/
theorem attempts_getMore (setup : Setup α) (held : run.state.source = some source)
    (names : run.state.live = some cursor) :
    attempts (getMore setup run).run.events =
      attempts run.events ++ [attempt setup source cursor run] := by
  unfold attempt
  cases connected : (connect run).result with
  | error error =>
    rw [getMore_refused setup held connected]
    simp [Event.attempt?, Except.toOption]
  | ok connection =>
    obtain ⟨opening, said, state, opens, talk, -, events⟩ :=
      getMore_said setup held names connected
    have settled : attempts (if keeps setup connection state then [] else
        [(.giveUp connection.number : Event α)]) = [] := by split <;> rfl
    rw [events, attempts_append, attempts_append, attempts_append, opens.attempts_eq,
      talk.attempts_eq, settled]
    simp [Except.toOption]

end DocumentCursor.Cursor
