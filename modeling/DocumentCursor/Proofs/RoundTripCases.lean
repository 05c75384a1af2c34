import DocumentCursor.Proofs.Exchange
import Mathlib.Tactic.Set

/-! # Round trips, kills and the work of closing

What a cursor does between two moments at which it is at rest, as relations with one case for each
way in which it can go. A proof about all runs looks at these cases and opens no operation.

* **`Killed`**: a kill on a connection; the server's cursor is `gone`, or it is `kept`.
* **`Fetched`**: a fetch on a connection; it `failed`, its reply was `taken`, or the reply reached
  the limit and the server's cursor was `cut` off.
* **`Round`**: a whole round trip, with the connection that it is made on.
* **`Discarded`**: a kill on a connection of its own.

`killOn_killed`, `getMoreOn_fetched`, `getMore_round` and `killOnNew_discarded` say that nothing
else happens while the source is held.
-/

namespace DocumentCursor.Cursor

open Net

variable {α : Type} {setup : Setup α} {connection : Connection} {source : Source}
  {cursor : ServerCursor} {run : Run α}

/-! ## What each part changes -/

section Parts

variable (setup connection source cursor run) (reply : Reply α) (id : Int64)

@[simp] theorem state_granted :
    run.granted.state =
      { run.state with closed := run.state.closed || run.nextGrant.closes } := rfl

@[simp] theorem events_granted :
    run.granted.events = run.events ++ [.acquire (run.issued + 1)] := rfl

@[simp] theorem script_granted :
    run.granted.script = { run.script with grants := run.script.grants.tail } := rfl

@[simp] theorem state_refused :
    run.refused.state =
      { run.state with closed := run.state.closed || run.nextGrant.closes } := rfl

@[simp] theorem events_refused : run.refused.events = run.events ++ [.acquireFailed] := rfl

@[simp] theorem script_refused :
    run.refused.script = { run.script with grants := run.script.grants.tail } := rfl

@[simp] theorem state_askFetch :
    (askFetch setup connection source cursor run).state =
      { run.state with closed := run.state.closed || (run.fetchTurn setup.ns).closes } := rfl

@[simp] theorem events_askFetch :
    (askFetch setup connection source cursor run).events = run.events ++
      [.send connection.number (fetchRequest setup connection source cursor run.state)] := rfl

@[simp] theorem script_askFetch :
    (askFetch setup connection source cursor run).script =
      { run.script with fetches := run.script.fetches.tail } := rfl

@[simp] theorem state_askKill :
    (askKill setup connection source id run).state =
      { run.state with closed := run.state.closed || run.killTurn.closes } := rfl

@[simp] theorem events_askKill :
    (askKill setup connection source id run).events =
      run.events ++ [.send connection.number (killRequest setup connection source id)] := rfl

@[simp] theorem script_askKill :
    (askKill setup connection source id run).script =
      { run.script with kills := run.script.kills.tail } := rfl

@[simp] theorem state_absorb :
    (absorb reply run).state = { run.state with
      live := reply.cursor
      count := Saturating.add run.state.count (Saturating.clamp reply.documents.length)
      buffered := reply.documents } := rfl

@[simp] theorem events_absorb :
    (absorb reply run).events = run.events ++ [.accept reply.documents reply.cursor] := rfl

@[simp] theorem script_absorb : (absorb reply run).script = run.script := rfl

@[simp] theorem state_release : (release run).state = { run.state with source := none } := by
  unfold release
  split
  · rfl
  · rename_i h
    obtain ⟨⟨_, source, _, _, _, _, _, _⟩, _, _, _⟩ := run
    simp_all

@[simp] theorem events_release :
    (release run).events =
      run.events ++ if run.state.source.isSome then [.release] else [] := by
  unfold release
  split <;> simp

@[simp] theorem script_release : (release run).script = run.script := by
  unfold release
  split <;> rfl

@[simp] theorem state_releaseIfExhausted :
    (releaseIfExhausted run).state =
      { run.state with source := if run.state.live.isNone then none else run.state.source } := by
  unfold releaseIfExhausted
  split <;> simp

@[simp] theorem events_releaseIfExhausted :
    (releaseIfExhausted run).events = run.events ++
      if run.state.live.isNone && run.state.source.isSome then [.release] else [] := by
  unfold releaseIfExhausted
  split <;> simp_all

@[simp] theorem script_releaseIfExhausted : (releaseIfExhausted run).script = run.script := by
  unfold releaseIfExhausted
  split <;> simp

@[simp] theorem state_giveUp : (run.giveUp connection).state = run.state := rfl

@[simp] theorem events_giveUp :
    (run.giveUp connection).events = run.events ++ [.giveUp connection.number] := rfl

@[simp] theorem script_giveUp : (run.giveUp connection).script = run.script := rfl

@[simp] theorem state_unpin : (unpin run).state = { run.state with pinned := none } := by
  unfold unpin
  split
  · rename_i h
    rw [← h]
  · rfl

@[simp] theorem events_unpin :
    (unpin run).events =
      run.events ++ run.state.pinned.toList.map fun connection => .giveUp connection.number := by
  unfold unpin
  split <;> simp_all

@[simp] theorem script_unpin : (unpin run).script = run.script := by
  unfold unpin
  split <;> rfl

/-- Whether a connection is kept after a fetch: with `exhaust`, on a connection that supports it, as
long as the server holds a cursor. `settle` puts such a connection back and gives up any other. -/
def keeps (state : State α) : Bool :=
  setup.exhaust && connection.capability.supportsExhaust && state.live.isSome

@[simp] theorem state_settle :
    (settle setup connection run).state = { run.state with
      pinned := if keeps setup connection run.state then some connection
        else run.state.pinned } := by
  unfold settle keeps
  split <;> rfl

@[simp] theorem events_settle :
    (settle setup connection run).events = run.events ++
      if keeps setup connection run.state then [] else [.giveUp connection.number] := by
  unfold settle keeps
  split <;> simp

@[simp] theorem script_settle : (settle setup connection run).script = run.script := by
  unfold settle
  split <;> rfl

end Parts

/-! ## Kills -/

/-- **The ways a kill goes.** The request is sent in any case: both outcomes leave `askKill`, and
only a kill that succeeds takes the cursor away. -/
inductive Killed (setup : Setup α) (connection : Connection) (source : Source)
    (cursor : ServerCursor) (run : Run α) : Outcome α Unit → Prop
  /-- The server has forgotten its cursor. -/
  | gone (read : readKill connection run.killTurn.response = .ok ()) :
      Killed setup connection source cursor run
        ⟨.ok (), (askKill setup connection source cursor.id run).modify
          fun state => { state with live := none }⟩
  /-- The server, for all that is known, still holds its cursor. -/
  | kept {error : CursorError} (read : readKill connection run.killTurn.response = .error error) :
      Killed setup connection source cursor run
        ⟨.error error, askKill setup connection source cursor.id run⟩

/-- `killOn setup connection run = .pure () run` while the server holds no cursor: there is nothing
to kill, and nothing is sent. -/
theorem killOn_idle (setup : Setup α) (connection : Connection) (hl : run.state.live = none) :
    killOn setup connection run = .pure () run := by
  unfold killOn
  rw [hl]

/-- `killOn` goes in one of the ways of `Killed` while the source is held and the server holds a
cursor. -/
theorem killOn_killed (setup : Setup α) (connection : Connection)
    (hs : run.state.source = some source) (hl : run.state.live = some cursor) :
    Killed setup connection source cursor run (killOn setup connection run) := by
  unfold killOn
  rw [hl]
  simp only [sendKill_eq setup connection cursor.id hs]
  cases read : readKill connection run.killTurn.response with
  | ok value => exact .gone read
  | error error => exact .kept read

/-! ## Fetches -/

/-- What a fetch brings: the reply of `readFetch` with its documents decoded, or why there is
none. -/
def receive (setup : Setup α) (connection : Connection) (source : Source)
    (cursor : ServerCursor) (response : Response Batch) : Except CursorError (Reply α) :=
  (readFetch setup connection source cursor response).bind (decodeReply setup)

/-- `receive` never fails by `.missingConnectionSource`: nothing that was answered is taken for the
lack of a source. -/
theorem receive_ne_missing (response : Response Batch) :
    receive setup connection source cursor response ≠ .error .missingConnectionSource :=
  bind_ne_error (readFetch_ne_missing setup connection source cursor response)
    (decodeReply_ne_missing setup)

/-- **The ways a fetch goes.** A fetch that fails leaves what was there. A reply is taken over by
`absorb` before its cursor is killed, so that it stays when the kill fails. -/
inductive Fetched (setup : Setup α) (connection : Connection) (source : Source)
    (cursor : ServerCursor) (run : Run α) : Outcome α Unit → Prop
  /-- Nothing was received. -/
  | failed {error : CursorError}
      (received : receive setup connection source cursor (run.fetchTurn setup.ns).response =
        .error error) :
      Fetched setup connection source cursor run
        ⟨.error error, askFetch setup connection source cursor run⟩
  /-- The reply does not reach the limit, or it is the last one anyway. -/
  | taken {reply : Reply α}
      (received : receive setup connection source cursor (run.fetchTurn setup.ns).response =
        .ok reply)
      (last : limitReached setup
          (absorb reply (askFetch setup connection source cursor run)).state = true →
        reply.cursor = none) :
      Fetched setup connection source cursor run
        ⟨.ok (), releaseIfExhausted (absorb reply (askFetch setup connection source cursor run))⟩
  /-- The reply reaches the limit, and the cursor that it names is killed. -/
  | cut {reply : Reply α} {next : ServerCursor} {outcome : Outcome α Unit}
      (received : receive setup connection source cursor (run.fetchTurn setup.ns).response =
        .ok reply)
      (names : reply.cursor = some next)
      (reached : limitReached setup
        (absorb reply (askFetch setup connection source cursor run)).state = true)
      (killed : Killed setup connection source next
        (absorb reply (askFetch setup connection source cursor run)) outcome) :
      Fetched setup connection source cursor run
        (outcome.andThen fun _ run => .pure () (releaseIfExhausted run))

/-- **A fetch on a connection** is one exchange, and what `receive` makes of the answer decides what
comes then: a reply is taken over, the source is let go of if the server holds no cursor any more,
and a cursor that reached the limit is killed on the same connection. -/
theorem getMoreOn_eq (hs : run.state.source = some source) (hl : run.state.live = some cursor) :
    getMoreOn setup connection run =
      (Outcome.ofExcept (receive setup connection source cursor
        (run.fetchTurn setup.ns).response)
        (askFetch setup connection source cursor run)).andThen fun reply run =>
          let run := absorb reply run
          let killed :=
            if limitReached setup run.state then killOn setup connection run else .pure () run
          killed.andThen fun _ run => .pure () (releaseIfExhausted run) := by
  unfold getMoreOn receive
  rw [hl]
  simp only [fetch_eq setup connection cursor hs]
  cases readFetch setup connection source cursor (run.fetchTurn setup.ns).response <;> rfl

/-- `getMoreOn` goes in one of the ways of `Fetched` while the source is held and the server holds a
cursor. -/
theorem getMoreOn_fetched (hs : run.state.source = some source)
    (hl : run.state.live = some cursor) :
    Fetched setup connection source cursor run (getMoreOn setup connection run) := by
  rw [getMoreOn_eq hs hl]
  -- What was received decides first, and then whether the limit is reached.
  cases received : receive setup connection source cursor (run.fetchTurn setup.ns).response with
  | error error => exact .failed received
  | ok reply =>
    set taken := absorb reply (askFetch setup connection source cursor run) with htaken
    show Fetched setup connection source cursor run
      ((if limitReached setup taken.state then killOn setup connection taken
        else .pure () taken).andThen fun _ run => .pure () (releaseIfExhausted run))
    by_cases reached : limitReached setup taken.state = true
    · rw [if_pos reached]
      cases names : reply.cursor with
      | none =>
        rw [killOn_idle setup connection (by simp [htaken, names])]
        exact .taken received fun _ => names
      | some next =>
        exact .cut received names reached
          (killOn_killed setup connection (by simpa [htaken] using hs)
            (by simpa [htaken] using names))
    · rw [if_neg reached]
      exact .taken received fun h => absurd h reached

/-! ## Round trips -/

/-- **The connection that a round trip is made on**: the one that is kept, which is taken out for
the time of the round trip, or else a new one with the number `run.issued + 1`. -/
inductive Opened (run : Run α) : Connection → Run α → Prop
  | kept {connection : Connection} (pinned : run.state.pinned = some connection) :
      Opened run connection (run.modify fun state => { state with pinned := none })
  | made {version : Int32} (unpinned : run.state.pinned = none) :
      Opened run ⟨run.issued + 1, version⟩ run.granted

/-- **The ways a round trip goes**: there is no connection to be had, or a fetch is made on one.
Whatever the fetch comes to, `settle` puts the connection back or gives it up. -/
inductive Round (setup : Setup α) (source : Source) (cursor : ServerCursor) (run : Run α) :
    Outcome α Unit → Prop
  /-- There was no connection to be had. -/
  | refused {error : TransportError} {closes : Bool} (unpinned : run.state.pinned = none)
      (listed : .refused error closes ∈ run.script.grants) :
      Round setup source cursor run ⟨.error (.transport error), run.refused⟩
  | made {connection : Connection} {opened : Run α} {outcome : Outcome α Unit}
      (connected : Opened run connection opened)
      (fetched : Fetched setup connection source cursor opened outcome) :
      Round setup source cursor run (outcome.always (settle setup connection))

/-- Whether the cursor is closed from elsewhere while a round trip opens its connection. That takes
no time if a connection was kept, so that nothing of the script is used up then. -/
def Run.openingCloses (run : Run α) : Bool := run.state.pinned.isNone && run.nextGrant.closes

/-- Whether the cursor is closed from elsewhere in a round trip, from its beginning up to the answer
to its request for documents. A kill that follows may close it as well, which `killTurn` says. -/
def Run.tripCloses (ns : Namespace) (run : Run α) : Bool :=
  run.openingCloses || (run.fetchTurn ns).closes

/-- Opening a connection leaves the state as it was, but for `pinned := none` and for `closed`,
which is set if `run.openingCloses`. -/
theorem Opened.state_eq {opened : Run α} (h : Opened run connection opened) :
    opened.state =
      { run.state with closed := run.state.closed || run.openingCloses, pinned := none } := by
  cases h with
  | kept pinned => simp [Run.openingCloses, pinned]
  | made unpinned => simp [Run.openingCloses, unpinned]

/-- `getMore` goes in one of the ways of `Round` while the source is held and the server holds a
cursor. -/
theorem getMore_round (setup : Setup α) (hs : run.state.source = some source)
    (hl : run.state.live = some cursor) : Round setup source cursor run (getMore setup run) := by
  have fetched {connection : Connection} {opened : Run α} (h : Opened run connection opened) :
      Fetched setup connection source cursor opened (getMoreOn setup connection opened) :=
    getMoreOn_fetched (by rw [h.state_eq]; exact hs) (by rw [h.state_eq]; exact hl)
  unfold getMore connect
  cases pinned : run.state.pinned with
  | some connection => exact .made (.kept pinned) (fetched (.kept pinned))
  | none =>
    obtain ⟨version, h⟩ | ⟨error, closes, listed, h⟩ := Run.acquire_cases hs
    · simp only [h]
      exact .made (.made pinned) (fetched (.made pinned))
    · simp only [h]
      exact .refused pinned listed

/-! ## Kills on a connection of their own -/

/-- **The ways a kill on a connection of its own goes.** A connection that was opened for a kill is
given up again whether or not the kill succeeds. -/
inductive Discarded (setup : Setup α) (run : Run α) : Outcome α Unit → Prop
  /-- The server holds no cursor. -/
  | idle (none : run.state.live = none) : Discarded setup run (.pure () run)
  /-- There was no connection to be had. -/
  | refused {error : TransportError} {closes : Bool}
      (listed : .refused error closes ∈ run.script.grants) :
      Discarded setup run ⟨.error (.transport error), run.refused⟩
  | made {version : Int32} {source : Source} {cursor : ServerCursor} {outcome : Outcome α Unit}
      (held : run.state.source = some source) (names : run.state.live = some cursor)
      (killed : Killed setup ⟨run.issued + 1, version⟩ source cursor run.granted outcome) :
      Discarded setup run (outcome.always (·.giveUp ⟨run.issued + 1, version⟩))

/-- `killOnNew` goes in one of the ways of `Discarded` if the source is held while the server holds
a cursor. -/
theorem killOnNew_discarded (setup : Setup α)
    (h : run.state.live.isSome → run.state.source.isSome) :
    Discarded setup run (killOnNew setup run) := by
  unfold killOnNew
  cases hl : run.state.live with
  | none => exact .idle hl
  | some cursor =>
    obtain ⟨source, hs⟩ := Option.isSome_iff_exists.mp (h (by rw [hl]; rfl))
    simp only [Option.isNone_some, Bool.false_eq_true, if_false]
    obtain ⟨version, ha⟩ | ⟨error, closes, listed, ha⟩ := Run.acquire_cases hs
    · simp only [ha]
      exact .made hs hl (killOn_killed setup _ hs hl)
    · simp only [ha]
      exact .refused listed

end DocumentCursor.Cursor
