import DocumentCursor.Proofs.ProtocolSimulation

/-! # Refusals that are reported in two ways

Where there are commands a connection may report that a command was refused as a reply that says so,
or as an error. A cursor takes both for the same. To raise the refusals of a script is to report all
of them as errors; what a cursor does is the same before and after that, step by step, and so it is
the same for any two scripts that only report refusals differently.

* **`Reports`** and **`Restates`**: answers that report a refusal, and answers of the same meaning.
* **`raise`**: every refusal reported as an error, in an answer, a script, a run or a life.
* **`checked_raise`**: what is read in an answer does not change.
* **`Alike`**: an outcome, and the same one in which refusals are raised; `CommandsOnly` with the
  name of an operation says that the operation goes alike.
* **`performAll_of_restates`**: scripts of the same meaning lead to the same results, states and
  events in every life of a cursor.
-/

namespace DocumentCursor

/-! ## Answers of the same meaning -/

/-- The failure that a reply was written for is found in it:
`ofReply? failure.reply = some failure`. -/
theorem Failure.ofReply?_reply (failure : Failure) : ofReply? failure.reply = some failure := by
  have refused := check_reply failure
  unfold check at refused
  split at refused
  · rename_i found
    rw [found, Except.error.inj refused]
  · exact nomatch refused

namespace Response

variable {σ : Type}

/-- **An answer reports a refusal**, as a reply or as an error, or it is a document in which
`Failure.ofReply?` finds that refusal. -/
inductive Reports (failure : Failure) : Response σ → Prop
  | refusal (raised : Bool) : Reports failure (.failure failure raised)
  | document {document : Document} (read : Failure.ofReply? document = some failure) :
      Reports failure (.reply document)

/-- **Two answers have the same meaning**: they are the same, or both report the same refusal. -/
inductive Restates : Response σ → Response σ → Prop
  | same (response : Response σ) : Restates response response
  | refusal {failure : Failure} {response other : Response σ} (reports : Reports failure response)
      (restated : Reports failure other) : Restates response other

/-- The answer with its refusal, if it reports one, as an error. Any other answer is left as it
is. -/
def raise : Response σ → Response σ
  | success value => .success value
  | reply document =>
    match Failure.ofReply? document with
    | some refusal => .failure refusal true
    | none => .reply document
  | failure refusal _ => .failure refusal true
  | broken error => .broken error

/-- A refusal is raised, however it was reported: `response.raise = .failure failure true`. -/
theorem Reports.raise_eq {failure : Failure} {response : Response σ}
    (h : Reports failure response) : response.raise = .failure failure true := by
  cases h with
  | refusal raised => rfl
  | document read => simp only [raise, read]

/-- Answers of the same meaning are the same when refusals are raised, so that one of them stands
for all. -/
theorem Restates.raise_eq {response other : Response σ} (h : Restates response other) :
    other.raise = response.raise := by
  cases h with
  | same => rfl
  | refusal reports restated => rw [reports.raise_eq, restated.raise_eq]

/-- **Raising a refusal does not change what is read** in the answer to a command: `checked` finds
in a reply what the connection says by an error. -/
theorem checked_raise (render : σ → Document) (response : Response σ) :
    (response.raise.toCommand render).bind Cursor.checked =
      (response.toCommand render).bind Cursor.checked := by
  cases response with
  | success value => rfl
  | broken error => rfl
  | failure refusal raised =>
    cases raised with
    | true => rfl
    | false => simp [raise, toCommand, Except.bind, Cursor.checked, Failure.check_reply]
  | reply document =>
    cases found : Failure.ofReply? document with
    | none => simp [raise, found]
    | some refusal =>
      simp [raise, found, toCommand, Except.bind, Cursor.checked, Failure.check]

/-- A refusal is read in the answer to a command as `.command failure`. -/
theorem Reports.checked {failure : Failure} {response : Response σ} (h : Reports failure response)
    (render : σ → Document) :
    (response.toCommand render).bind Cursor.checked = .error (.command failure) := by
  rw [← checked_raise, h.raise_eq]
  rfl

end Response

namespace Turn

variable {σ : Type}

/-- Two turns in which answers of the same meaning arrive. -/
structure Restates (turn other : Turn σ) : Prop where
  response : turn.response.Restates other.response
  closes : other.closes = turn.closes

/-- The turn with its refusal, if it reports one, as an error. -/
def raise (turn : Turn σ) : Turn σ := { turn with response := turn.response.raise }

theorem Restates.raise_eq {turn other : Turn σ} (h : turn.Restates other) :
    other.raise = turn.raise := by
  unfold raise
  rw [h.response.raise_eq, h.closes]

/-- Turns of the same meaning one by one are the same when refusals are raised:
`others.map raise = turns.map raise`. -/
theorem map_raise_eq {turns others : List (Turn σ)} (h : List.Forall₂ Restates turns others) :
    others.map raise = turns.map raise := by
  induction h with
  | nil => rfl
  | cons first rest ih => rw [List.map_cons, List.map_cons, first.raise_eq, ih]

end Turn

namespace Script

/-- **Two scripts have the same meaning**: they report refusals, wherever there are any, each in its
own way. -/
structure Restates (script other : Script) : Prop where
  grants : other.grants = script.grants
  fetches : List.Forall₂ Turn.Restates script.fetches other.fetches
  kills : List.Forall₂ Turn.Restates script.kills other.kills

/-- The script with every refusal as an error. -/
def raise (script : Script) : Script :=
  { script with fetches := script.fetches.map .raise, kills := script.kills.map .raise }

/-- Scripts of the same meaning are the same when refusals are raised:
`other.raise = script.raise`. -/
theorem Restates.raise_eq {script other : Script} (h : script.Restates other) :
    other.raise = script.raise := by
  unfold raise
  rw [h.grants, Turn.map_raise_eq h.fetches, Turn.map_raise_eq h.kills]

end Script

/-! ## Connections that have commands -/

/-- A connection of this protocol version has commands, which is where a refusal may be reported as
a reply. -/
def HasCommands (version : Int32) : Prop :=
  (Capability.ofWireVersion version).supportsCommands = true
  deriving Decidable

/-- What a connection with commands can do: `supportsCommands` holds of its capability. -/
theorem HasCommands.supportsCommands {connection : Connection}
    (h : HasCommands connection.wireVersion) : connection.capability.supportsCommands = true := h

/-- Every connection that a script has a version of its own for has commands. -/
def Script.CommandsOnly (script : Script) : Prop :=
  ∀ version closes, .granted (some version) closes ∈ script.grants → HasCommands version

namespace Cursor

variable {α β γ : Type} {setup : Setup α} {run : Run α} {connection : Connection}

/-- **All connections of a run have commands**: the one that is kept, those of the source, and all
that can still be handed out. -/
structure CommandsOnly (run : Run α) : Prop where
  source : ∀ source ∈ run.state.source, HasCommands source.wireVersion
  pinned : ∀ connection ∈ run.state.pinned, HasCommands connection.wireVersion
  grants : run.script.CommandsOnly

/-! ## Runs in which refusals are raised -/

/-- The run with every refusal that is still to come as an error. -/
def Run.raise (run : Run α) : Run α := { run with script := run.script.raise }

@[simp] theorem Run.state_raise (run : Run α) : run.raise.state = run.state := rfl

/-- The outcome with every refusal that is still to come as an error. -/
def Outcome.raise (outcome : Outcome α β) : Outcome α β := ⟨outcome.result, outcome.run.raise⟩

/-- **Two runs are alike**: in one of them all refusals that are still to come are raised,
`other = run.raise`. -/
structure AlikeRun (run other : Run α) : Prop where
  raised : other = run.raise
  commands : CommandsOnly run

/-- **Two outcomes are alike**: they have the same result and leave runs that are alike,
`other = outcome.raise`. -/
structure Alike (outcome other : Outcome α β) : Prop where
  raised : other = outcome.raise
  commands : CommandsOnly outcome.run

namespace Alike

variable {outcome other : Outcome α β}

theorem pure (h : CommandsOnly run) (value : β) :
    Alike (.pure value run) (.pure value run.raise) := ⟨rfl, h⟩

theorem fail (h : CommandsOnly run) (error : CursorError) :
    Alike (.fail error run : Outcome α β) (.fail error run.raise) := ⟨rfl, h⟩

/-- What is done in any case is alike if it is done alike after either result. -/
theorem always {after : Run α → Run α} (h : Alike outcome other)
    (hafter : ∀ run, CommandsOnly run → AlikeRun (after run) (after run.raise)) :
    Alike (outcome.always after) (other.always after) := by
  obtain ⟨rfl, commands⟩ := h
  obtain ⟨raised, still⟩ := hafter outcome.run commands
  exact ⟨congrArg (Outcome.mk outcome.result) raised, still⟩

/-- What goes on after a success is alike if it goes on alike; a failure goes through. -/
theorem andThen {next : β → Run α → Outcome α γ} (h : Alike outcome other)
    (hnext : ∀ value, outcome.result = .ok value → CommandsOnly outcome.run →
      Alike (next value outcome.run) (next value outcome.run.raise)) :
    Alike (outcome.andThen next) (other.andThen next) := by
  obtain ⟨rfl, commands⟩ := h
  obtain ⟨result, run⟩ := outcome
  cases result with
  | ok value => exact hnext value rfl commands
  | error error => exact ⟨rfl, commands⟩

/-- The runs after outcomes that are alike are alike. -/
theorem runs (h : Alike outcome other) : AlikeRun outcome.run other.run := by
  obtain ⟨rfl, commands⟩ := h
  exact ⟨rfl, commands⟩

end Alike

/-- What is done to runs that are alike leaves them so if it is done alike to `run` and
`run.raise`. -/
theorem AlikeRun.next {other : Run α} (h : AlikeRun run other) (after : Run α → Run α)
    (hafter : CommandsOnly run → AlikeRun (after run) (after run.raise)) :
    AlikeRun (after run) (after other) := by
  obtain ⟨rfl, commands⟩ := h
  exact hafter commands

/-! ### What changes no answer -/

namespace CommandsOnly

/-- A change that takes up no connection and no source commutes with raising refusals. -/
theorem modify (h : CommandsOnly run) {change : State α → State α}
    (source : (change run.state).source = run.state.source)
    (pinned : (change run.state).pinned = run.state.pinned) :
    AlikeRun (run.modify change) (run.raise.modify change) := by
  refine ⟨rfl, ?_, ?_, h.grants⟩
  · rw [Run.state_modify, source]
    exact h.source
  · rw [Run.state_modify, pinned]
    exact h.pinned

theorem markClosed (h : CommandsOnly run) : AlikeRun run.markClosed run.raise.markClosed :=
  h.modify rfl rfl

theorem giveUp (h : CommandsOnly run) (connection : Connection) :
    AlikeRun (run.giveUp connection) (run.raise.giveUp connection) :=
  ⟨rfl, h.source, h.pinned, h.grants⟩

theorem absorb (h : CommandsOnly run) (reply : Reply α) :
    AlikeRun (absorb reply run) (absorb reply run.raise) :=
  ⟨rfl, h.source, h.pinned, h.grants⟩

theorem release (h : CommandsOnly run) : AlikeRun (release run) (release run.raise) := by
  unfold Cursor.release
  rw [Run.state_raise]
  split
  · exact ⟨rfl, nofun, h.pinned, h.grants⟩
  · exact ⟨rfl, h⟩

theorem releaseIfExhausted (h : CommandsOnly run) :
    AlikeRun (releaseIfExhausted run) (releaseIfExhausted run.raise) := by
  unfold Cursor.releaseIfExhausted
  rw [Run.state_raise]
  split
  · exact h.release
  · exact ⟨rfl, h⟩

theorem unpin (h : CommandsOnly run) : AlikeRun (unpin run) (unpin run.raise) := by
  unfold Cursor.unpin
  rw [Run.state_raise]
  split
  · exact ⟨rfl, h⟩
  · exact ⟨rfl, h.source, by simp, h.grants⟩

theorem settle (h : CommandsOnly run) (setup : Setup α)
    (commands : HasCommands connection.wireVersion) :
    AlikeRun (settle setup connection run) (settle setup connection run.raise) := by
  unfold Cursor.settle
  rw [Run.state_raise]
  split
  · refine ⟨rfl, h.source, ?_, h.grants⟩
    rintro kept ⟨⟩
    exact commands
  · exact h.giveUp connection

end CommandsOnly

/-! ### Exchanges -/

/-- What a source answers leaves only connections that have commands, since it takes one from the
grants. -/
theorem CommandsOnly.afterGrant (h : CommandsOnly run) : CommandsOnly run.afterGrant :=
  ⟨h.source, h.pinned, fun version closes mem => h.grants version closes (List.mem_of_mem_tail mem)⟩

/-- A connection that is granted to both runs has commands, by its own version or by that of the
source; a refusal of the source is the same for both. -/
theorem CommandsOnly.acquire (h : CommandsOnly run) :
    Alike run.acquire run.raise.acquire ∧
      ∀ connection, run.acquire.result = .ok connection → HasCommands connection.wireVersion := by
  cases held : run.state.source with
  | none =>
    have missing {other : Run α} (none : other.state.source = none) :
        other.acquire = .fail .missingConnectionSource other := by rw [Run.acquire, none]
    rw [missing held, missing (show run.raise.state.source = none from held)]
    refine ⟨.fail h _, ?_⟩
    rintro connection ⟨⟩
  | some source =>
    rw [Run.acquire_eq held, Run.acquire_eq (show run.raise.state.source = some source from held),
      show run.raise.nextGrant = run.nextGrant from rfl]
    have after := h.afterGrant
    have listed := run.nextGrant_cases
    generalize run.nextGrant = grant at listed
    cases grant with
    | refused error closes =>
      refine ⟨⟨rfl, after.source, after.pinned, after.grants⟩, ?_⟩
      rintro connection ⟨⟩
    | granted version closes =>
      refine ⟨⟨rfl, after.source, after.pinned, after.grants⟩, ?_⟩
      rintro connection ⟨⟩
      cases version with
      | none => exact h.source source held
      | some version => exact h.grants version closes (listed.resolve_left (by simp))

/-- The answer to the next fetch when refusals are raised: `(run.fetchTurn ns).raise`. -/
theorem fetchTurn_raise (ns : Namespace) (run : Run α) :
    run.raise.fetchTurn ns = (run.fetchTurn ns).raise := by
  unfold Run.fetchTurn
  cases turns : run.script.fetches <;>
    simp [Run.raise, Script.raise, turns, Turn.raise, Response.raise]

/-- The answer to the next kill when refusals are raised: `run.killTurn.raise`. -/
theorem killTurn_raise (run : Run α) : run.raise.killTurn = run.killTurn.raise := by
  unfold Run.killTurn
  cases turns : run.script.kills <;>
    simp [Run.raise, Script.raise, turns, Turn.raise, Response.raise]

variable {source : Source} {cursor : ServerCursor}

/-- A fetch is heard alike: the same request is sent, and the same turn is used up. -/
theorem CommandsOnly.askFetch (h : CommandsOnly run) (setup : Setup α) (connection : Connection)
    (source : Source) (cursor : ServerCursor) :
    AlikeRun (askFetch setup connection source cursor run)
      (askFetch setup connection source cursor run.raise) := by
  have turn (event : Event α) : (run.raise.emit event).fetchTurn setup.ns =
      ((run.emit event).fetchTurn setup.ns).raise := fetchTurn_raise setup.ns (run.emit event)
  refine ⟨?_, h.source, h.pinned, h.grants⟩
  simp only [Cursor.askFetch, Run.afterFetch, turn]
  simp [Run.raise, Run.emit, Script.raise, Turn.raise]

/-- A kill is heard alike. -/
theorem CommandsOnly.askKill (h : CommandsOnly run) (setup : Setup α) (connection : Connection)
    (source : Source) (id : Int64) :
    AlikeRun (askKill setup connection source id run)
      (askKill setup connection source id run.raise) := by
  have turn (event : Event α) : (run.raise.emit event).killTurn =
      (run.emit event).killTurn.raise := killTurn_raise (run.emit event)
  refine ⟨?_, h.source, h.pinned, h.grants⟩
  simp only [Cursor.askKill, Run.afterKill, turn]
  simp [Run.raise, Run.emit, Script.raise, Turn.raise]

/-- **A fetch is read alike** where there are commands: `receive` of `response.raise` is that of
`response`. -/
theorem receive_raise (commands : HasCommands connection.wireVersion) (response : Response Batch) :
    receive setup connection source cursor response.raise =
      receive setup connection source cursor response := by
  unfold receive readFetch
  rw [commands.supportsCommands, if_pos rfl, if_pos rfl, Response.checked_raise]

/-- **A kill is read alike** where there are commands: `readKill` of `response.raise` is that of
`response`. -/
theorem readKill_raise (commands : HasCommands connection.wireVersion) (response : Response Unit) :
    readKill connection response.raise = readKill connection response := by
  unfold readKill
  rw [commands.supportsCommands, if_pos rfl, if_pos rfl, Response.checked_raise]

/-! ### Kills and closing -/

/-- **A cursor is killed alike** on a connection that has commands. -/
theorem CommandsOnly.killOn (h : CommandsOnly run) (setup : Setup α)
    (commands : HasCommands connection.wireVersion) :
    Alike (killOn setup connection run) (killOn setup connection run.raise) := by
  unfold Cursor.killOn
  rw [Run.state_raise]
  cases run.state.live with
  | none => exact .pure h ()
  | some cursor =>
    refine Alike.andThen ?_ fun _ _ still => ⟨rfl, still.source, still.pinned, still.grants⟩
    cases held : run.state.source with
    | none =>
      have unsent (run : Run α) (none : run.state.source = none) :
          sendKill setup connection cursor.id run = .fail .missingConnectionSource run := by
        simp only [sendKill, commands.supportsCommands, if_true, sendCommand, none,
          Outcome.andThen_fail]
      rw [unsent run held, unsent run.raise held]
      exact .fail h _
    | some source =>
      have raisedHeld : run.raise.state.source = some source := held
      rw [sendKill_eq setup connection cursor.id held,
        sendKill_eq setup connection cursor.id raisedHeld, killTurn_raise]
      obtain ⟨asked, still⟩ := h.askKill setup connection source cursor.id
      exact ⟨by rw [asked, Turn.raise, readKill_raise commands]; rfl, still⟩

/-- **A cursor is killed alike** on a connection of its own. -/
theorem CommandsOnly.killOnNew (h : CommandsOnly run) (setup : Setup α) :
    Alike (killOnNew setup run) (killOnNew setup run.raise) := by
  unfold Cursor.killOnNew
  rw [Run.state_raise]
  split
  · exact .pure h ()
  · obtain ⟨alike, speaks⟩ := h.acquire
    refine alike.andThen fun connection granted still => ?_
    exact (still.killOn setup (speaks connection granted)).always fun _ still =>
      still.giveUp connection

/-- **The work of closing is done alike**, whatever its kill comes to. -/
theorem CommandsOnly.finish (h : CommandsOnly run) (setup : Setup α) :
    AlikeRun (finish setup run) (finish setup run.raise) := by
  have closing : AlikeRun (closing run) (closing run.raise) :=
    AlikeRun.next (h.modify rfl rfl) Cursor.unpin fun still => still.unpin
  have killed := closing.next (fun run => (Cursor.killOnNew setup run).run) fun still =>
    (still.killOnNew setup).runs
  have forgotten := killed.next (·.modify fun state => { state with live := none }) fun still =>
    still.modify rfl rfl
  have released := forgotten.next Cursor.release fun still => still.release
  exact released.next (·.modify fun state => { state with buffered := [] }) fun still =>
    still.modify rfl rfl

/-- Closing is done alike. -/
theorem CommandsOnly.close (h : CommandsOnly run) (setup : Setup α) :
    AlikeRun (close setup run) (close setup run.raise) := by
  refine h.markClosed.next
    (fun run => if run.state.finished then run else Cursor.finish setup run) fun still => ?_
  rw [Run.state_raise]
  split
  · exact ⟨rfl, still⟩
  · exact still.finish setup

/-- The check that a cursor is open is done alike. -/
theorem CommandsOnly.ensureOpen (h : CommandsOnly run) (setup : Setup α) :
    Alike (ensureOpen setup run) (ensureOpen setup run.raise) := by
  unfold Cursor.ensureOpen
  rw [Run.state_raise]
  split
  · obtain ⟨raised, still⟩ := h.close setup
    rw [raised]
    exact .fail still _
  · exact .pure h ()

/-! ### Round trips -/

/-- **A fetch goes alike** on a connection that has commands. -/
theorem CommandsOnly.getMoreOn (h : CommandsOnly run) (setup : Setup α)
    (commands : HasCommands connection.wireVersion) :
    Alike (getMoreOn setup connection run) (getMoreOn setup connection run.raise) := by
  cases live : run.state.live with
  | none =>
    unfold Cursor.getMoreOn
    rw [Run.state_raise, live]
    exact .pure h ()
  | some cursor =>
    cases held : run.state.source with
    | none =>
      -- A fetch without a source does not reach a server, whatever its answer would be.
      have unsent (run : Run α) (names : run.state.live = some cursor)
          (none : run.state.source = none) :
          Cursor.getMoreOn setup connection run = .fail .missingConnectionSource run := by
        simp only [Cursor.getMoreOn, names, Cursor.fetch, commands.supportsCommands, if_true,
          sendCommand, none, Outcome.andThen_fail]
        rfl
      rw [unsent run live held, unsent run.raise live held]
      exact .fail h _
    | some source =>
      have raisedHeld : run.raise.state.source = some source := held
      have raisedLive : run.raise.state.live = some cursor := live
      rw [getMoreOn_eq held live, getMoreOn_eq raisedHeld raisedLive, fetchTurn_raise, Turn.raise,
        receive_raise commands]
      obtain ⟨asked, still⟩ := h.askFetch setup connection source cursor
      refine Alike.andThen ⟨by rw [asked]; rfl, still⟩ fun reply _ still => ?_
      obtain ⟨taken, still⟩ := still.absorb reply
      refine Alike.andThen ?_ fun _ _ still => ?_
      · rw [taken, Run.state_raise]
        split
        · exact still.killOn setup commands
        · exact .pure still ()
      · obtain ⟨released, still⟩ := still.releaseIfExhausted
        exact ⟨congrArg (Outcome.pure ()) released, still⟩

/-- The connection to fetch on is found alike, be it kept or new, and it has commands. -/
theorem CommandsOnly.connect (h : CommandsOnly run) :
    Alike (connect run) (connect run.raise) ∧
      ∀ connection, (Cursor.connect run).result = .ok connection →
        HasCommands connection.wireVersion := by
  unfold Cursor.connect
  rw [Run.state_raise]
  cases pinned : run.state.pinned with
  | none => exact h.acquire
  | some connection =>
    refine ⟨⟨rfl, h.source, by simp [Outcome.pure], h.grants⟩, ?_⟩
    rintro other ⟨⟩
    exact h.pinned connection pinned

/-- **A round trip goes alike.** -/
theorem CommandsOnly.getMore (h : CommandsOnly run) (setup : Setup α) :
    Alike (getMore setup run) (getMore setup run.raise) := by
  obtain ⟨alike, speaks⟩ := h.connect
  refine alike.andThen fun connection granted still => ?_
  have commands := speaks connection granted
  exact (still.getMoreOn setup commands).always fun _ still => still.settle setup commands

/-! ### Calls -/

/-- **Fetching until there is a batch** goes alike, by induction on the fuel. -/
theorem CommandsOnly.fetchUntilBatch (h : CommandsOnly run) (setup : Setup α) (fuel : Nat) :
    Alike (fetchUntilBatch setup fuel run) (fetchUntilBatch setup fuel run.raise) := by
  induction fuel generalizing run with
  | zero => exact .pure h false
  | succ fuel ih =>
    rw [Cursor.fetchUntilBatch, Cursor.fetchUntilBatch, Run.state_raise]
    split
    · exact .pure h false
    · refine (h.getMore setup).andThen fun _ _ still => ?_
      refine (still.ensureOpen setup).andThen fun _ _ still => ?_
      rw [Run.state_raise]
      split
      · exact ih still
      · exact .pure still true

/-- **Finding out whether there is another batch** goes alike. -/
theorem CommandsOnly.hasNext (h : CommandsOnly run) (setup : Setup α) :
    Alike (hasNext setup run) (hasNext setup run.raise) := by
  unfold Cursor.hasNext
  refine (h.ensureOpen setup).andThen fun _ _ still => ?_
  -- As many answers are left to both.
  have fuel (run : Run α) : run.raise.script.fetches.length = run.script.fetches.length := by
    simp [Run.raise, Script.raise]
  rw [Run.state_raise, fuel]
  split
  · exact .pure still true
  · split
    · exact .pure still false
    · exact still.fetchUntilBatch setup _

/-- Handing out the batch that was not handed out yet goes alike. -/
theorem CommandsOnly.takeBuffered (h : CommandsOnly run) :
    Alike (takeBuffered run) (takeBuffered run.raise) :=
  ⟨rfl, h.source, h.pinned, h.grants⟩

/-- **Looking for the next batch** goes alike. -/
theorem CommandsOnly.nextBatch (h : CommandsOnly run) (setup : Setup α) :
    Alike (nextBatch setup run) (nextBatch setup run.raise) := by
  unfold Cursor.nextBatch
  refine (h.hasNext setup).andThen fun more _ still => ?_
  cases more with
  | true => exact still.takeBuffered
  | false => exact .fail still _

/-- **Looking for a batch in one round trip** goes alike. -/
theorem CommandsOnly.tryNext (h : CommandsOnly run) (setup : Setup α) :
    Alike (tryNext setup run) (tryNext setup run.raise) := by
  have take {run : Run α} (h : CommandsOnly run) :
      Alike
        ((Cursor.takeBuffered run).andThen fun batch run =>
          .pure (if batch.isEmpty then none else some batch) run)
        ((Cursor.takeBuffered run.raise).andThen fun batch run =>
          .pure (if batch.isEmpty then none else some batch) run) :=
    h.takeBuffered.andThen fun _ _ still => .pure still _
  unfold Cursor.tryNext
  refine (h.ensureOpen setup).andThen fun _ _ still => ?_
  rw [Run.state_raise]
  split
  · exact (still.getMore setup).andThen fun _ _ still => take still
  · exact take still

/-- **The next item of the iteration** is found alike. -/
theorem CommandsOnly.next (h : CommandsOnly run) (setup : Setup α) :
    Alike (next setup run) (next setup run.raise) := by
  unfold Cursor.next
  refine (h.hasNext setup).andThen fun more _ still => ?_
  cases more with
  | true => exact (still.nextBatch setup).andThen fun _ _ still => .pure still _
  | false => exact .pure still none

/-- **Items of the iteration one after the other** are found alike. -/
theorem CommandsOnly.collect (h : CommandsOnly run) (setup : Setup α) (most : Nat) :
    (collect setup most run.raise).1 = (collect setup most run).1 ∧
      AlikeRun (collect setup most run).2 (collect setup most run.raise).2 := by
  induction most generalizing run with
  | zero => exact ⟨rfl, rfl, h⟩
  | succ most ih =>
    obtain ⟨raised, still⟩ := h.next setup
    obtain ⟨items, rest⟩ := ih still
    rw [Cursor.collect, Cursor.collect, raised]
    simp only [Outcome.raise]
    cases (Cursor.next setup run).result with
    | error error => exact ⟨congrArg (.error error :: ·) items, rest⟩
    | ok item =>
      cases item with
      | none => exact ⟨rfl, rfl, still⟩
      | some batch => exact ⟨congrArg (.ok batch :: ·) items, rest⟩

/-! ## Whole lives -/

namespace Life

/-- The life with every refusal that is still to come as an error. -/
def raise (life : Life α) : Life α := { life with run := life.run.raise }

/-- **Two lives are alike**: in one of them all refusals that are still to come are raised. -/
structure AlikeLife (life other : Life α) : Prop where
  raised : other = life.raise
  commands : CommandsOnly life.run

/-- The outcome of a call is alike if it is what its caller gets: `life.after answer` keeps outcomes
alike. -/
theorem after_raise {life : Life α} (answer : β → Answer α) {outcome other : Outcome α β}
    (h : Alike outcome other) :
    (life.raise.after answer other).1 = (life.after answer outcome).1 ∧
      AlikeLife (life.after answer outcome).2 (life.raise.after answer other).2 := by
  obtain ⟨rfl, commands⟩ := h
  exact ⟨rfl, rfl, commands⟩

/-- **A call goes alike**: the same result, and lives that are alike. -/
theorem perform_raise (call : Call) {life : Life α} (h : CommandsOnly life.run) :
    (life.raise.perform call).1 = (life.perform call).1 ∧
      AlikeLife (life.perform call).2 (life.raise.perform call).2 := by
  have of_run {run other : Run α} (alike : AlikeRun run other) (dropped : Bool) :
      AlikeLife ⟨life.setup, run, dropped⟩ ⟨life.setup, other, dropped⟩ := by
    obtain ⟨rfl, commands⟩ := alike
    exact ⟨rfl, commands⟩
  unfold perform
  rw [show life.raise.dropped = life.dropped from rfl]
  split
  · exact ⟨rfl, rfl, h⟩
  · cases call with
    | hasNext => exact after_raise _ (h.hasNext life.setup)
    | nextBatch => exact after_raise _ (h.nextBatch life.setup)
    | tryNext => exact after_raise _ (h.tryNext life.setup)
    | next => exact after_raise _ (h.next life.setup)
    | collect most =>
      obtain ⟨items, alike⟩ := h.collect life.setup most
      exact ⟨congrArg (fun results => Except.ok (Answer.batches results)) items,
        of_run alike life.dropped⟩
    | setBatchSize size => exact ⟨rfl, of_run (h.modify rfl rfl) life.dropped⟩
    | close => exact ⟨rfl, of_run (h.close life.setup) life.dropped⟩
    | handleClose => exact ⟨rfl, of_run h.markClosed life.dropped⟩
    | drop => exact ⟨rfl, of_run (h.close life.setup) true⟩
    | batchSize | limit | count | ns | serverCursor | serverAddress | isClosed | handleIsClosed =>
      exact ⟨rfl, rfl, h⟩

/-- **A sequence of calls goes alike**, by induction on the calls. -/
theorem performAll_raise (calls : List Call) {life : Life α} (h : CommandsOnly life.run) :
    (performAll calls life.raise).1 = (performAll calls life).1 ∧
      AlikeLife (performAll calls life).2 (performAll calls life.raise).2 := by
  induction calls generalizing life with
  | nil => exact ⟨rfl, rfl, h⟩
  | cons call calls ih =>
    obtain ⟨result, raised, still⟩ := perform_raise call h
    obtain ⟨results, rest⟩ := ih still
    simp only [performAll, result, raised]
    exact ⟨congrArg _ results, rest⟩

end Life

/-- **What a cursor is made with has commands**: its source, the connection of the query, and every
connection that is handed out. -/
structure MadeWithCommands (source : Option Source) (connection : Option Connection)
    (script : Script) : Prop where
  source : ∀ held ∈ source, HasCommands held.wireVersion
  connection : ∀ given ∈ connection, HasCommands given.wireVersion
  grants : script.CommandsOnly

/-- A first batch that reaches the limit is dealt with alike, on the connection that was given or a
new one. -/
theorem CommandsOnly.killIfReached (h : CommandsOnly run) (setup : Setup α)
    {connection : Option Connection}
    (commands : ∀ given ∈ connection, HasCommands given.wireVersion) :
    AlikeRun (killIfReached setup connection run) (killIfReached setup connection run.raise) := by
  have opened {run other : Run α} (h : AlikeRun run other) :
      AlikeRun (run.modify fun state => { state with closed := false })
        (other.modify fun state => { state with closed := false }) :=
    h.next (·.modify fun state => { state with closed := false }) fun still => still.modify rfl rfl
  unfold Cursor.killIfReached
  rw [Run.state_raise]
  split
  · cases connection with
    | none => exact opened (h.killOnNew setup).runs
    | some connection => exact opened (h.killOn setup (commands connection rfl)).runs
  · exact ⟨rfl, h⟩

/-- **A cursor is made alike**, or refused alike: `create` from `script.raise` and from `script`. -/
theorem create_raise (setup : Setup α) (batchSize : Int32) (first : Reply α)
    {source : Option Source} {connection : Option Connection} {script : Script}
    (h : MadeWithCommands source connection script) :
    Alike (create setup batchSize first source connection script)
      (create setup batchSize first source connection script.raise) := by
  have bare : CommandsOnly (⟨.initial batchSize none, script, 0, []⟩ : Run α) :=
    ⟨nofun, nofun, h.grants⟩
  unfold create
  split
  · exact .fail bare _
  · split
    · exact .fail bare _
    · have held : CommandsOnly (started batchSize source script : Run α) :=
        ⟨h.source, nofun, h.grants⟩
      have pruned := (held.absorb first).next (Cursor.killIfReached setup connection) fun still =>
        still.killIfReached setup h.connection
      obtain ⟨raised, still⟩ := pruned.next Cursor.releaseIfExhausted fun still =>
        still.releaseIfExhausted
      cases source <;> exact ⟨congrArg (Outcome.pure ()) raised, still⟩

namespace Life

variable {source : Option Source} {connection : Option Connection} {script other : Script}

/-- A cursor is made alike, also after the connection that it was made with is given up. -/
theorem begin_raise (first : Reply α) (options : Options)
    (decode : Document → Except DecodeError α) (h : MadeWithCommands source connection script) :
    (begin first options decode source connection script.raise).1 =
        (begin first options decode source connection script).1 ∧
      AlikeLife (begin first options decode source connection script).2
        (begin first options decode source connection script.raise).2 := by
  obtain ⟨raised, still⟩ :=
    create_raise (Setup.of first options decode) options.batchSize first h
  simp only [begin, raised]
  refine ⟨rfl, ?_⟩
  cases connection with
  | none => exact ⟨rfl, still⟩
  | some connection => exact ⟨rfl, (still.giveUp connection).commands⟩

/-- **Scripts of the same meaning** lead to the same results, states and events, as both are alike
to the one whose refusals are all raised. -/
theorem performAll_of_restates (first : Reply α) (options : Options)
    (decode : Document → Except DecodeError α) (h : MadeWithCommands source connection script)
    (restates : script.Restates other) (calls : List Call) :
    let made := begin first options decode source connection script
    let otherMade := begin first options decode source connection other
    let after := performAll calls made.2
    let otherAfter := performAll calls otherMade.2
    otherMade.1 = made.1 ∧ otherAfter.1 = after.1 ∧
      otherAfter.2.run.state = after.2.run.state ∧
      otherAfter.2.run.events = after.2.run.events := by
  intro made otherMade after otherAfter
  have commands : MadeWithCommands source connection other :=
    ⟨h.source, h.connection,
      fun version closes mem => h.grants version closes (restates.grants ▸ mem)⟩
  -- Both are alike to the one in which all refusals are raised.
  obtain ⟨result, raised, still⟩ := begin_raise first options decode h
  obtain ⟨otherResult, otherRaised, otherStill⟩ := begin_raise first options decode commands
  rw [restates.raise_eq] at otherResult otherRaised
  obtain ⟨results, life, -⟩ := performAll_raise calls still
  obtain ⟨otherResults, otherLife, -⟩ := performAll_raise calls otherStill
  have same : otherMade.2.raise = made.2.raise := otherRaised.symm.trans raised
  have ends : otherAfter.2.raise = after.2.raise := by rw [← life, ← otherLife, same]
  exact ⟨otherResult.symm.trans result, otherResults.symm.trans (same ▸ results),
    congrArg (·.run.state) ends, congrArg (·.run.events) ends⟩

end Life

end Cursor

end DocumentCursor
