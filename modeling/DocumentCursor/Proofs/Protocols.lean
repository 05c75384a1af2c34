import DocumentCursor.Proofs.ProtocolSimulation

/-! # The two protocols agree

A cursor whose connections have no commands is asked for by binary messages, and one whose
connections have them by commands. If both are answered alike, then they go through the same states
and give the same results, whatever is asked of them. Only the failure of a fetch has another name:
where there are commands it is reported with the cursor that it was about.

* **`Generations`**: what two cursors are made of that speak different protocols.
* **`Life.named`**: the result of a call in which the failure of a fetch is named with the cursor.
* **`protocols_agree`**: two cursors agree over their whole lives.
-/

namespace DocumentCursor.Cursor

open Net

variable {α β : Type} {setup : Setup α} {run otherRun : Run α}

/-! ## Results of calls -/

/-- The items of an iteration, in which the failures of fetches are named with the cursor, each by
the state after its own `next`. -/
def namedItems (setup : Setup α) : Nat → Run α → List (Output α)
  | 0, _ => []
  | most + 1, run =>
    let outcome := next setup run
    let rest := namedItems setup most outcome.run
    match outcome.result with
    | .ok none => []
    | .ok (some batch) => .ok batch :: rest
    | .error error => .error (setup.named outcome.run.state error) :: rest

/-- **Items of the iteration one after the other** agree: those of the other run are `namedItems`,
and twins are left. -/
theorem collect_agrees (h : Twins setup run otherRun) (sourced : Sourced run) (most : Nat) :
    (collect setup most otherRun).1 = namedItems setup most run ∧
      Twins setup (collect setup most run).2 (collect setup most otherRun).2 := by
  -- Items go on after a failure, so that each one is named by the state that it leaves.
  induction most generalizing run otherRun with
  | zero => exact ⟨rfl, h⟩
  | succ most ih =>
    obtain ⟨result, twins⟩ := next_agrees h sourced
    obtain ⟨items, rest⟩ := ih twins ((next_follows setup sourced).path.sourced sourced)
    rw [collect, collect, namedItems]
    simp only [result]
    cases hr : (next setup run).result with
    | error error => exact ⟨by simp [items], rest⟩
    | ok item =>
      cases item with
      | none => exact ⟨rfl, twins⟩
      | some batch => exact ⟨by simp [items], rest⟩

/-- **Two lives that differ in their protocol only**: they have one setup, are dropped or not, and
their runs are `Twins`. -/
structure LifeTwins (life other : Life α) : Prop where
  setup : other.setup = life.setup
  dropped : other.dropped = life.dropped
  twins : Twins life.setup life.run other.run
  sourced : Sourced life.run

namespace Life

/-- The result of a call on a cursor that was not dropped, in which the failures of fetches are
named with the cursor. Items of an iteration have their failures inside of a success. -/
def namedAlive (call : Call) (life : Life α) : Except CursorError (Answer α) :=
  match call with
  | .collect most => .ok (.batches (namedItems life.setup most life.run))
  | call =>
    let done := life.performAlive call
    done.1.mapError (life.setup.named done.2.run.state)

/-- **The result of a call in which the failures of fetches are named with the cursor.** A dropped
cursor has none. -/
def named (call : Call) (life : Life α) : Except CursorError (Answer α) :=
  if life.dropped && call ≠ .handleClose && call ≠ .handleIsClosed then .ok .dropped
  else namedAlive call life

/-- What a call answers is no matter for how it agrees: `life.after answer` keeps `Agreed` outcomes
so. -/
theorem after_agrees {life other : Life α} (h : LifeTwins life other) {answer : β → Answer α}
    {outcome otherOutcome : Outcome α β} (agreed : Agreed life.setup outcome otherOutcome)
    (sourced : Sourced outcome.run) :
    (other.after answer otherOutcome).1 = (life.after answer outcome).1.mapError
        (life.setup.named (life.after answer outcome).2.run.state) ∧
      LifeTwins (life.after answer outcome).2 (other.after answer otherOutcome).2 := by
  refine ⟨?_, h.setup, h.dropped, agreed.twins, sourced⟩
  have result := agreed.result
  simp only [after]
  rw [result]
  cases outcome.result <;> rfl

/-- **A call on twins that were not dropped agrees**, with one case for each constructor of
`Call`. -/
theorem performAlive_agrees (call : Call) {life other : Life α} (h : LifeTwins life other) :
    (other.performAlive call).1 = life.namedAlive call ∧
      LifeTwins (life.performAlive call).2 (other.performAlive call).2 := by
  have path := (performAlive_path call h.sourced).sourced h.sourced
  obtain ⟨otherSetup, otherRun, otherDropped⟩ := other
  obtain rfl : otherSetup = life.setup := h.setup
  have twins : Twins life.setup life.run otherRun := h.twins
  have refused : CursorError.cursorClosed =
      life.setup.named life.run.state CursorError.cursorClosed :=
    (named_of_ne_command _ _ (by simp [CursorError.cursorClosed])).symm
  cases call with
  | hasNext => exact after_agrees h (hasNext_agrees twins h.sourced) path
  | nextBatch => exact after_agrees h (nextBatch_agrees twins h.sourced) path
  | tryNext => exact after_agrees h (tryNext_agrees twins h.sourced) path
  | next => exact after_agrees h (next_agrees twins h.sourced) path
  | collect most =>
    obtain ⟨items, rest⟩ := collect_agrees twins h.sourced most
    exact ⟨congrArg (fun results => Except.ok (Answer.batches results)) items,
      rfl, h.dropped, rest, path⟩
  | setBatchSize size =>
    exact ⟨rfl, rfl, h.dropped,
      twins.modify (fun state => { state with batchSize := size }) (fun _ _ => rfl) twins.pinned,
      path⟩
  -- A question changes nothing, and is answered from what twins have in common.
  | batchSize =>
    exact ⟨congrArg (fun size => Except.ok (Answer.number size)) twins.batchSize_eq, h⟩
  | count => exact ⟨congrArg (fun count => Except.ok (Answer.number count)) twins.count_eq, h⟩
  | isClosed | handleIsClosed =>
    exact ⟨congrArg (fun closed => Except.ok (Answer.flag closed)) twins.closed_eq, h⟩
  | limit | ns => exact ⟨rfl, h⟩
  | serverCursor =>
    refine ⟨?_, h⟩
    simp only [performAlive, namedAlive, serverCursor, twins.closed_eq, twins.live_eq]
    split
    · exact congrArg Except.error refused
    · rfl
  | serverAddress =>
    refine ⟨?_, h⟩
    simp only [performAlive, namedAlive, serverAddress, twins.closed_eq]
    split
    · exact congrArg Except.error refused
    · rfl
  | close => exact ⟨rfl, rfl, h.dropped, twins.close h.sourced, path⟩
  | handleClose => exact ⟨rfl, rfl, h.dropped, twins.markClosed, path⟩
  | drop => exact ⟨rfl, rfl, rfl, twins.close h.sourced, path⟩

/-- **A call on twins agrees**, also after they were dropped: the result on the other side is
`life.named call`. -/
theorem perform_agrees (call : Call) {life other : Life α} (h : LifeTwins life other) :
    (other.perform call).1 = life.named call ∧
      LifeTwins (life.perform call).2 (other.perform call).2 := by
  unfold perform named
  rw [h.dropped]
  split
  · exact ⟨rfl, h⟩
  · exact performAlive_agrees call h

/-- Twins stay twins, whatever is asked of them, by induction on the calls. -/
theorem performAll_agrees (calls : List Call) {life other : Life α} (h : LifeTwins life other) :
    LifeTwins (performAll calls life).2 (performAll calls other).2 := by
  induction calls generalizing life other with
  | nil => exact h
  | cons call calls ih => exact ih (perform_agrees call h).2

end Life

/-! ## The making of twins -/

/-- **What two cursors are made of that speak different protocols**: sources and connections without
commands for one and with them for the other, and the same answers, which either kind of connection
understands. A batch is about the collection of the cursor, as a message names none. -/
structure Generations (ns : Namespace) (exhaust : Bool) (source otherSource : Option Source)
    (connection otherConnection : Option Connection) (script otherScript : Script) : Prop where
  sources : Option.Rel (SourceTwins exhaust) source otherSource
  connections : Option.Rel (ConnectionTwins exhaust) connection otherConnection
  grants : List.Forall₂ (GrantTwins exhaust) script.grants otherScript.grants
  fetches : otherScript.fetches = script.fetches
  kills : otherScript.kills = script.kills
  plainFetches : ∀ turn ∈ script.fetches,
    turn.response.IsPlain fun batch => batch.name = ns.fullName
  plainKills : ∀ turn ∈ script.kills, turn.response.IsPlain fun _ => True

section Making

variable {source otherSource : Option Source} {connection otherConnection : Option Connection}
  {script otherScript : Script}

/-- Runs of which nothing was asked are twins, whether or not the source is held on to yet. -/
theorem Generations.twins (h : Generations setup.ns setup.exhaust source otherSource connection
      otherConnection script otherScript)
    (batchSize : Int32) {held otherHeld : Option Source}
    (sources : Option.Rel (SourceTwins setup.exhaust) held otherHeld) {events : List (Event α)}
    (silent : ∀ event ∈ events, event.sent? = none) :
    Twins setup ⟨.initial batchSize held, script, 0, events⟩
      ⟨.initial batchSize otherHeld, otherScript, 0, events⟩ := by
  refine ⟨rfl, sources, rfl, h.grants, h.fetches, h.kills, h.plainFetches, h.plainKills, rfl, ?_⟩
  rw [List.forall₂_same]
  exact fun event listed => .same (silent event listed)

/-- Either both cursors have a source or none has: `otherSource.isSome = source.isSome`. -/
theorem Generations.isSome_source {ns : Namespace} {exhaust : Bool}
    (h : Generations ns exhaust source otherSource connection otherConnection script otherScript) :
    otherSource.isSome = source.isSome := by
  cases h.sources <;> rfl

/-- Runs that hold on to their sources are twins, with the same `retain` if there is one. -/
theorem Generations.started (h : Generations setup.ns setup.exhaust source otherSource connection
      otherConnection script otherScript) (batchSize : Int32) :
    Twins setup (started batchSize source script) (started batchSize otherSource otherScript) := by
  unfold Cursor.started
  rw [h.isSome_source]
  refine h.twins batchSize h.sources fun event listed => ?_
  split at listed
  · rw [List.mem_singleton.mp listed]
    rfl
  · exact absurd listed List.not_mem_nil

/-- Twins kill the server's cursor alike after the first batch, on the connections that were given
or on new ones. -/
theorem Twins.killIfReached (h : Twins setup run otherRun)
    (connections : Option.Rel (ConnectionTwins setup.exhaust) connection otherConnection)
    (held : run.state.live.isSome → run.state.source.isSome) :
    Twins setup (killIfReached setup connection run)
      (killIfReached setup otherConnection otherRun) := by
  have opened {run otherRun : Run α} (h : Twins setup run otherRun) :
      Twins setup (run.modify fun state => { state with closed := false })
        (otherRun.modify fun state => { state with closed := false }) :=
    h.modify _ (fun _ _ => rfl) h.pinned
  unfold Cursor.killIfReached
  rw [h.limitReached_eq]
  split
  · cases connections with
    | none => exact opened (h.killOnNew held).2
    | some connections => exact opened (h.killOn connections held).2
  · exact h

/-- **Cursors that speak different protocols are made alike**, or refused alike: `create` has the
same result, and leaves twins. -/
theorem create_agrees (h : Generations setup.ns setup.exhaust source otherSource connection
      otherConnection script otherScript)
    (batchSize : Int32) (first : Reply α) :
    let outcome := create setup batchSize first source connection script
    let other := create setup batchSize first otherSource otherConnection otherScript
    other.result = outcome.result ∧ Twins setup outcome.run other.run ∧ Sourced outcome.run := by
  intro outcome other
  have empty : Twins setup (⟨.initial batchSize none, script, 0, []⟩ : Run α)
      ⟨.initial batchSize none, otherScript, 0, []⟩ :=
    h.twins batchSize .none fun _ listed => absurd listed List.not_mem_nil
  -- What a cursor is refused for is no matter of the protocol, and nothing has happened then.
  have refused (error : CursorError)
      (own : outcome = .fail error ⟨.initial batchSize none, script, 0, []⟩)
      (others : other = .fail error ⟨.initial batchSize none, otherScript, 0, []⟩) :
      other.result = outcome.result ∧ Twins setup outcome.run other.run ∧ Sourced outcome.run := by
    rw [own, others]
    exact ⟨rfl, empty, rfl⟩
  by_cases negative : setup.maxTimeMs < 0
  · exact refused _ (if_pos negative) (if_pos negative)
  have alike : otherSource.isNone = source.isNone := by
    rw [← Option.not_isSome, h.isSome_source, Option.not_isSome]
  by_cases missing : (first.cursor.isSome && source.isNone) = true
  · have lacks : (first.cursor.isSome && otherSource.isNone) = true := by rwa [alike]
    exact refused _ ((if_neg negative).trans (if_pos missing))
      ((if_neg negative).trans (if_pos lacks))
  · have lacks : ¬(first.cursor.isSome && otherSource.isNone) = true := by rwa [alike]
    have held : first.cursor.isSome → source.isSome := fun names => by
      simpa [names, Option.isSome_iff_ne_none] using missing
    have own : outcome = .pure () (releaseIfExhausted (killIfReached setup connection
        (absorb first (Cursor.started batchSize source script)))) := by
      cases source <;> exact (if_neg negative).trans (if_neg missing)
    have others : other = .pure () (releaseIfExhausted (killIfReached setup otherConnection
        (absorb first (Cursor.started batchSize otherSource otherScript)))) := by
      cases otherSource <;> exact (if_neg negative).trans (if_neg lacks)
    have taken : Twins setup (absorb first (Cursor.started batchSize source script))
        (absorb first (Cursor.started batchSize otherSource otherScript)) :=
      (h.started batchSize).absorb rfl rfl
    rw [own, others]
    exact ⟨rfl, (taken.killIfReached h.connections held).releaseIfExhausted,
      (made_of_held setup batchSize connection script held).sourced⟩

end Making

/-! ## Whole lives -/

namespace Life

variable {source otherSource : Option Source} {connection otherConnection : Option Connection}
  {script otherScript : Script}

/-- Cursors that speak different protocols are made alike, also after the connections that they were
made with are given up: `begin` leaves `LifeTwins`. -/
theorem begin_agrees (first : Reply α) (options : Options)
    (decode : Document → Except DecodeError α)
    (h : Generations first.ns options.exhaust source otherSource connection otherConnection script
      otherScript) :
    let made := begin first options decode source connection script
    let other := begin first options decode otherSource otherConnection otherScript
    other.1 = made.1 ∧ LifeTwins made.2 other.2 := by
  have generations : Generations (Setup.of first options decode).ns
      (Setup.of first options decode).exhaust source otherSource connection otherConnection script
      otherScript := h
  obtain ⟨result, twins, sourced⟩ := create_agrees generations options.batchSize first
  unfold begin
  refine ⟨result, rfl, rfl, ?_, ?_⟩
  · have connections := h.connections
    cases connections with
    | none => exact twins
    | some connections => exact twins.giveUp connections
  · cases connection <;> exact sourced

/-- **The two protocols agree.** Let one cursor have connections without commands only, and another
one, which is made of the same reply and options, connections with commands that are not kept, and
let both be answered alike. Then both are made or refused alike, and after any calls both

* are in the same state, but for the source that they hold;
* have gone through the same events one by one, except that a message stands where the other cursor
  sent the command for it;
* give the same result for any call, except that the failure of a command that was to fetch a batch
  is named with the cursor. -/
theorem protocols_agree (first : Reply α) (options : Options)
    (decode : Document → Except DecodeError α)
    (source otherSource : Option Source) (connection otherConnection : Option Connection)
    (script otherScript : Script)
    (h : Generations first.ns options.exhaust source otherSource connection otherConnection script
      otherScript) :
    let made := begin first options decode source connection script
    let other := begin first options decode otherSource otherConnection otherScript
    other.1 = made.1 ∧
      ∀ calls : List Call,
        let life := (performAll calls made.2).2
        let otherLife := (performAll calls other.2).2
        otherLife.dropped = life.dropped ∧
          otherLife.run.state = { life.run.state with source := otherLife.run.state.source } ∧
          otherLife.run.state.source.isSome = life.run.state.source.isSome ∧
          List.Forall₂ (EventTwins made.2.setup) life.run.events otherLife.run.events ∧
          ∀ call, (otherLife.perform call).1 = life.named call := by
  intro made other
  obtain ⟨result, twins⟩ := begin_agrees first options decode h
  refine ⟨result, fun calls => ?_⟩
  intro life otherLife
  have after : LifeTwins life otherLife := performAll_agrees calls twins
  have setup : life.setup = made.2.setup := setup_performAll calls made.2
  exact ⟨after.dropped, after.twins.state, after.twins.isSome_source,
    setup ▸ after.twins.events, fun call => (perform_agrees call after).1⟩

/-- The server does not know the cursor any more when it is asked for the third batch. The cursor
that speaks messages reports just that failure, the other one the cursor that was not found. -/
theorem protocols_agree_gone :
    let script : Script :=
      ⟨[], [Small.turn [2] 7, ⟨.failure ⟨43, none, "gone"⟩ false, false⟩], []⟩
    let life := (performAll [.nextBatch, .nextBatch] (begin (Small.first [1] 7) {} Small.decode
      (some (Small.source 3)) none script).2).2
    let otherLife := (performAll [.nextBatch, .nextBatch] (begin (Small.first [1] 7) {} Small.decode
      (some (Small.source 5)) none script).2).2
    ((life.perform .hasNext).1.map fun _ => ()) = .error (.command ⟨43, none, "gone"⟩) ∧
      ((life.named .hasNext).map fun _ => ()) =
        .error (.cursorNotFound ⟨7, Small.ns, by decide⟩ Small.address) ∧
      (otherLife.perform .hasNext).1 = life.named .hasNext := by
  intro script life otherLife
  have alike : Generations (Small.first [1] 7).ns false (some (Small.source 3))
      (some (Small.source 5)) none none script script :=
    ⟨.some ⟨by decide, by decide, fun _ => rfl⟩, .none, .nil, rfl, rfl, by
      intro turn listed
      simp only [script, List.mem_cons, List.not_mem_nil, or_false] at listed
      obtain rfl | rfl := listed
      · rfl
      · trivial, fun _ listed => absurd listed List.not_mem_nil⟩
  refine ⟨by decide +kernel, by decide +kernel, ?_⟩
  exact ((protocols_agree (Small.first [1] 7) {} Small.decode (some (Small.source 3))
    (some (Small.source 5)) none none script script alike).2 [.nextBatch, .nextBatch]).2.2.2.2
      .hasNext

end Life

end DocumentCursor.Cursor
