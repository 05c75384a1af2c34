import DocumentCursor.Proofs.Restating
import DocumentCursor.Proofs.Unrolling

/-! # Refusals that a caller hears of

A server may refuse the command for the next batch, or the command that kills the cursor when a
batch reaches the limit. The first is reported with the cursor and the address of the first reply,
and apart if the server does not know the cursor any more; the second is reported as it is. How the
connection reported the refusal is no matter.

* **`Fails`**: the error by which a round trip fails when a server refuses its command.
* **`hasNext_fails`**: a call fails by the error of the first round trip that fails in it.
* **`refusals_read_alike`**: so it is in every life of a cursor.
-/

namespace DocumentCursor.Cursor

variable {α : Type} {setup : Setup α} {run last : Run α} {connection : Connection} {source : Source}
  {cursor : ServerCursor} {failure : Failure} {error : CursorError}

/-! ## Round trips that meet a refusal -/

/-- **The error by which a round trip fails when the server refuses its command.** That the next
batch is refused is reported with the cursor and the address of the first reply, and apart if the
server does not know the cursor. That the cursor cannot be killed at the limit is reported as it
is. -/
inductive Fails (setup : Setup α) (run : Run α) (failure : Failure) : CursorError → Prop
  | fetch {connection : Connection} {cursor : ServerCursor}
      (connected : (connect run).result = .ok connection)
      (names : run.state.live = some cursor)
      (reports : (run.fetchTurn setup.ns).response.Reports failure) :
      Fails setup run failure
        (if failure.code = 43 then .cursorNotFound cursor setup.address
        else .cursorCommand cursor setup.address failure.code failure.message)
  | kill {connection : Connection} {source : Source} {cursor next : ServerCursor} {reply : Reply α}
      (connected : (connect run).result = .ok connection)
      (held : run.state.source = some source) (names : run.state.live = some cursor)
      (received : receive setup connection source cursor (run.fetchTurn setup.ns).response =
        .ok reply)
      (further : reply.cursor = some next)
      (reached : limitReached setup (absorb reply run).state = true)
      (reports : run.killTurn.response.Reports failure) :
      Fails setup run failure (.command failure)

/-- A refusal is read in the answer to a fetch, and named with the cursor: code 43 gives
`.cursorNotFound`, any other code gives `.cursorCommand` with that code and its message. -/
theorem receive_refusal (commands : HasCommands connection.wireVersion)
    {response : Response Batch} (reports : response.Reports failure) :
    receive setup connection source cursor response =
      .error (if failure.code = 43 then .cursorNotFound cursor setup.address
        else .cursorCommand cursor setup.address failure.code failure.message) := by
  unfold receive readFetch
  rw [commands.supportsCommands, if_pos rfl, reports.checked]
  by_cases unknown : failure.code = 43 <;>
    simp [Except.bind, CursorError.naming, CursorError.ofFailure, Failure.isCursorNotFound,
      Failure.cursorNotFoundCode, unknown]

/-- A refusal is read in the answer to a kill, as `.command failure` without the cursor. -/
theorem readKill_refusal (commands : HasCommands connection.wireVersion)
    {response : Response Unit} (reports : response.Reports failure) :
    readKill connection response = .error (.command failure) := by
  unfold readKill
  rw [commands.supportsCommands, if_pos rfl, reports.checked]
  rfl

/-- A kill that the server refuses fails for that: `killOn` gives `.command failure`, however
`run.killTurn` reports it. -/
theorem killOn_refusal (commands : HasCommands connection.wireVersion)
    (held : run.state.source = some source) (names : run.state.live = some cursor)
    (reports : run.killTurn.response.Reports failure) :
    (killOn setup connection run).result = .error (.command failure) := by
  have refused := readKill_refusal commands reports
  have ways := killOn_killed setup connection held names
  generalize killOn setup connection run = outcome at ways
  cases ways with
  | gone read => exact absurd (read.symm.trans refused) (by simp)
  | kept read => exact read.symm.trans refused

/-- The connection that a fetch is made on was opened: a `connect` that gives a connection is
`.pure` of it, and `Opened`. -/
theorem connect_opened (held : run.state.source = some source)
    (connected : (connect run).result = .ok connection) :
    connect run = .pure connection (connect run).run ∧
      Opened run connection (connect run).run := by
  unfold connect at *
  cases pinned : run.state.pinned with
  | some kept =>
    rw [pinned] at connected
    obtain rfl := Except.ok.inj connected
    exact ⟨rfl, .kept pinned⟩
  | none =>
    rw [pinned] at connected
    obtain ⟨version, granted⟩ | ⟨error, closes, -, refused⟩ := Run.acquire_cases held
    · simp only [granted] at connected ⊢
      obtain rfl := Except.ok.inj connected
      exact ⟨rfl, .made pinned⟩
    · simp only [refused] at connected
      exact nomatch connected

/-- **A round trip that meets a refusal fails by its error**: `Fails setup run failure error` gives
`getMore = .error error`, where all connections have commands. -/
theorem Fails.getMore (h : CommandsOnly run) (sourced : Sourced run)
    (fails : Fails setup run failure error) :
    (getMore setup run).result = .error error := by
  have speaks := h.connect.2
  have on {connection : Connection} (connected : (connect run).result = .ok connection)
      {source : Source} (held : run.state.source = some source) :
      (Cursor.getMore setup run).result =
        (Cursor.getMoreOn setup connection (connect run).run).result := by
    rw [Cursor.getMore, (connect_opened held connected).1]
    rfl
  cases fails with
  | @fetch connection cursor connected names reports =>
    obtain ⟨source, held⟩ := Option.isSome_iff_exists.mp (sourced.trans (by rw [names]; rfl))
    have opened := (connect_opened held connected).2
    have there : (connect run).run.state.source = some source := by rw [opened.state_eq, ← held]
    have live : (connect run).run.state.live = some cursor := by rw [opened.state_eq, ← names]
    rw [on connected held, getMoreOn_eq there live, opened.fetchTurn,
      receive_refusal (speaks connection connected) reports]
    rfl
  | @kill connection source cursor next reply connected held names received further reached
      reports =>
    have opened := (connect_opened held connected).2
    have there : (connect run).run.state.source = some source := by rw [opened.state_eq, ← held]
    have live : (connect run).run.state.live = some cursor := by rw [opened.state_eq, ← names]
    set taken := absorb reply (askFetch setup connection source cursor (connect run).run)
      with htaken
    -- The reply is counted from where the run was before a connection was opened.
    have still : limitReached setup taken.state = true := by
      rw [← reached]
      exact limitReached_congr (by simp [htaken, opened.state_eq])
    have killed : (killOn setup connection taken).result = .error (.command failure) := by
      refine killOn_refusal (speaks connection connected) (by simpa [htaken] using there) further ?_
      rw [show taken.killTurn = run.killTurn from opened.killTurn]
      exact reports
    rw [on connected held, getMoreOn_eq there live, opened.fetchTurn, received]
    show ((if limitReached setup taken.state then killOn setup connection taken
      else .pure () taken).andThen fun _ run => .pure () (releaseIfExhausted run)).result = _
    rw [if_pos still, Outcome.andThen_of_error killed]
    rfl

/-! ### Calls that meet a refusal -/

/-- Connections that have commands are all there is, also after round trips: `Skips` keeps
`CommandsOnly`. -/
theorem Skips.commands (h : Skips setup run last) (commands : CommandsOnly run) :
    CommandsOnly last := by
  induction h with
  | nil => exact commands
  | cons live ok isOpen empty rest ih => exact ih (commands.getMore setup).commands

/-- Looking for a batch fails by the first round trip that fails, with the error of its
`getMore`. -/
theorem hasNext_fails (asks : Asks setup run) (skips : Skips setup run last)
    (live : last.state.live.isSome) (failed : (getMore setup last).result = .error error) :
    (hasNext setup run).result = .error error := by
  rw [skips.hasNext_eq asks, hasNext_again (skips.asks asks) live, Outcome.andThen_of_error failed]
  rfl

/-! ## Whole lives -/

namespace Life

/-- **A call fails by the error of the first round trip that fails in it.** The looking calls make
as many round trips as it takes, and `tryNext` makes the first one only. -/
theorem perform_fails {life : Life α} (alive : life.dropped = false)
    (asks : Asks life.setup life.run) (skips : Skips life.setup life.run last)
    (live : last.state.live.isSome) (failed : (getMore life.setup last).result = .error error) :
    (∀ call, call = .hasNext ∨ call = .nextBatch ∨ call = .next →
        (life.perform call).1 = .error error) ∧
      (last = life.run → (life.perform .tryNext).1 = .error error) := by
  have looked := hasNext_fails asks skips live failed
  constructor
  · intro call fetches
    rw [perform_of_alive alive]
    obtain rfl | rfl | rfl := fetches
    · simp [performAlive, after, looked, Except.map]
    · rw [performAlive, nextBatch, Outcome.andThen_of_error looked]
      rfl
    · rw [performAlive, next, Outcome.andThen_of_error looked]
      rfl
  · rintro rfl
    rw [perform_of_alive alive]
    rw [performAlive, tryNext_asks asks live, Outcome.andThen_of_error failed]
    rfl

/-- **It is no matter how refusals are reported** where all connections have commands. Two cursors
whose scripts report the same refusals, each in its own way, are made alike and give the same
results in any calls, and then they are in the same state and have gone through the same events. A
call whose round trip meets a refusal fails by the error that `Fails` says. -/
theorem refusals_read_alike (first : Reply α) (options : Options)
    (decode : Document → Except DecodeError α) (source : Option Source)
    (connection : Option Connection) (script other : Script)
    (h : MadeWithCommands source connection script) (restates : script.Restates other)
    (calls : List Call) :
    let setup := Setup.of first options decode
    let made := begin first options decode source connection script
    let otherMade := begin first options decode source connection other
    let after := performAll calls made.2
    let otherAfter := performAll calls otherMade.2
    (otherMade.1 = made.1 ∧ otherAfter.1 = after.1 ∧
        otherAfter.2.run.state = after.2.run.state ∧
        otherAfter.2.run.events = after.2.run.events) ∧
      (after.2.dropped = false → Asks setup after.2.run →
        ∀ last failure error, Skips setup after.2.run last → Fails setup last failure error →
          (∀ call, call = .hasNext ∨ call = .nextBatch ∨ call = .next →
              (after.2.perform call).1 = .error error) ∧
            (last = after.2.run → (after.2.perform .tryNext).1 = .error error)) := by
  intro setup made otherMade after otherAfter
  refine ⟨performAll_of_restates first options decode h restates calls, ?_⟩
  intro alive asks last failure error skips fails
  have commands : CommandsOnly after.2.run :=
    (performAll_raise calls (begin_raise first options decode h).2.commands).2.commands
  have same : after.2.setup = setup := setup_performAll calls made.2
  have failed := fails.getMore (skips.commands commands) (skips.asks asks).sourced
  have live : last.state.live.isSome := by
    cases fails with
    | fetch connected names => rw [names]; rfl
    | kill connected held names => rw [names]; rfl
  rw [← same] at asks skips failed
  exact perform_fails alive asks skips live failed

/-- The server does not know the cursor any more. One connection reports that as a reply and the
other one as an error, and either way the cursor is reported as not found. -/
theorem refusals_read_alike_gone :
    let gone : Failure := ⟨43, some "CursorNotFound", "gone"⟩
    let script : Script := ⟨[], [⟨.failure gone false, false⟩], []⟩
    let other : Script := ⟨[], [⟨.reply gone.reply, false⟩], []⟩
    let life := (begin (Small.first [] 7) {} Small.decode (some (Small.source 5)) none script).2
    let otherLife :=
      (begin (Small.first [] 7) {} Small.decode (some (Small.source 5)) none other).2
    MadeWithCommands (some (Small.source 5)) none script ∧ script.Restates other ∧
      (performAll [.tryNext] otherLife).1 = (performAll [.tryNext] life).1 ∧
      (life.perform .hasNext).1 =
        .error (.cursorNotFound ⟨7, Small.ns, by decide⟩ Small.address) := by
  intro gone script other life otherLife
  have commands : MadeWithCommands (some (Small.source 5)) none script :=
    ⟨by rintro source ⟨⟩; decide, nofun, nofun⟩
  have reports : (Response.failure gone false : Response Batch).Reports gone := .refusal false
  have restates : script.Restates other :=
    ⟨rfl, .cons ⟨.refusal reports (.document gone.ofReply?_reply), rfl⟩ .nil, .nil⟩
  refine ⟨commands, restates, ?_, ?_⟩
  · exact (refusals_read_alike (Small.first [] 7) {} Small.decode (some (Small.source 5)) none
      script other commands restates [.tryNext]).1.2.1
  · have asks : Asks life.setup life.run := ⟨rfl, by decide, by decide, by decide⟩
    have fails : Fails life.setup life.run gone
        (.cursorNotFound ⟨7, Small.ns, by decide⟩ Small.address) :=
      .fetch (show (connect life.run).result = .ok ⟨1, 5⟩ from rfl) rfl reports
    exact ((refusals_read_alike (Small.first [] 7) {} Small.decode (some (Small.source 5)) none
      script other commands restates []).2 rfl asks _ gone _ (.nil _) fails).1 .hasNext
        (Or.inl rfl)

end Life

end DocumentCursor.Cursor
