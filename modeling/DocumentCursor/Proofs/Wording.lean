import DocumentCursor.Proofs.Killing
import DocumentCursor.Proofs.Leasing

/-! # The wording of commands

Every command that a cursor sends is put in the same words: the fields of its document stand in one
order, a number or a time that leaves the choice to the server is left out, and one that is there is
positive. The number depends on the batch size, which may be set to anything between two calls, so
what a call keeps is told apart from what is set.

* **`Kept`**: a property of runs that every step but the setting of a batch size keeps, and with it
  every call but that one: `Kept.performAlive`.
* **`askingWords`** and **`killingWords`**: what the two commands say.
* **`Worded`**: a command is well-formed, as what was before it and the batch size demand.
* **`commands_worded`**: every command of every life of a cursor is.
-/

namespace DocumentCursor.Cursor

variable {α β γ : Type} {setup : Setup α} {run : Run α} {Q : Run α → Prop}

/-! ## What a call keeps -/

/-- What holds after a first part and after what follows its success holds after both: a property of
runs goes through `andThen`. -/
theorem holds_andThen {outcome : Outcome α β} {next : β → Run α → Outcome α γ}
    (h : Q outcome.run)
    (hnext : ∀ value, outcome.result = .ok value → Q (next value outcome.run).run) :
    Q (outcome.andThen next).run := by
  obtain ⟨result, after⟩ := outcome
  cases result with
  | error error => exact h
  | ok value => exact hnext value rfl

/-- A round trip leaves the batch size as it is: `Trip` keeps `batchSize`. -/
theorem Trip.batchSize_eq {source : Source} {cursor : ServerCursor} {outcome : Outcome α Unit}
    (trip : Trip setup source cursor run outcome) :
    outcome.run.state.batchSize = run.state.batchSize := by
  cases trip with
  | refused result listed state => rw [state]
  | failed pinned result received state => rw [state]
  | brought pinned live closed received state => rw [state]

/-- **A property of runs is kept** by every step that leaves the batch size as it is. Every call but
`setBatchSize` consists of such steps, which the lemmas below say once for all properties. -/
structure Kept (setup : Setup α) (Q : Run α → Prop) : Prop where
  sourced : ∀ {run : Run α}, Q run → Sourced run
  step : ∀ {run after : Run α} {given : List (Output α)}, Q run → Step setup run given after →
    after.state.batchSize = run.state.batchSize → Q after

namespace Kept

variable (kept : Kept setup Q)
include kept

theorem close (h : Q run) : Q (Cursor.close setup run) := by
  have marked : Q run.markClosed := kept.step h (.shut run) rfl
  show Q (if run.markClosed.state.finished then run.markClosed else finish setup run.markClosed)
  cases unfinished : run.markClosed.state.finished with
  | true => exact marked
  | false =>
    have state := finish_state setup (kept.sourced marked) rfl
    exact kept.step marked (.finish rfl unfinished) (congrArg (·.batchSize) state)

theorem ensureOpen (h : Q run) : Q (Cursor.ensureOpen setup run).run := by
  unfold Cursor.ensureOpen
  split
  · exact kept.close h
  · exact h

theorem getMore (h : Q run) (asks : Asks setup run) (live : run.state.live.isSome) :
    Q (Cursor.getMore setup run).run := by
  obtain ⟨source, cursor, -, trip⟩ := getMore_trip setup asks.sourced live
  exact kept.step h (.fetch asks.isOpen asks.empty asks.unreached live) trip.batchSize_eq

/-- Fetching until there is a batch keeps what a fetch keeps, by induction on the fuel. -/
theorem fetchUntilBatch (fuel : Nat) (h : Q run) (asks : Asks setup run) :
    Q (Cursor.fetchUntilBatch setup fuel run).run := by
  induction fuel generalizing run with
  | zero => exact h
  | succ fuel ih =>
    rw [Cursor.fetchUntilBatch]
    split
    · exact h
    rename_i there
    have live : run.state.live.isSome := by simpa [Option.isSome_iff_ne_none] using there
    have fetched := kept.getMore h asks live
    refine holds_andThen fetched fun done ok => ?_
    obtain ⟨sourced, -, unreached, -⟩ := (getMore_follows asks live).tells done ok
    refine holds_andThen (kept.ensureOpen fetched) fun done ok => ?_
    obtain ⟨same, isOpen⟩ := (ensureOpen_follows setup _).tells done ok
    rw [← same]
    split
    · rename_i nothing
      have empty := List.isEmpty_iff.mp nothing
      exact ih fetched ⟨sourced, isOpen, empty, unreached empty⟩
    · exact fetched

theorem hasNext (h : Q run) : Q (Cursor.hasNext setup run).run := by
  unfold Cursor.hasNext
  refine holds_andThen (kept.ensureOpen h) fun done ok => ?_
  obtain ⟨same, isOpen⟩ := (ensureOpen_follows setup run).tells done ok
  rw [← same]
  split
  · exact h
  rename_i empty
  split
  · exact h
  rename_i unreached
  exact kept.fetchUntilBatch _ h ⟨kept.sourced h, isOpen, by simpa using empty,
    Bool.eq_false_iff.mpr unreached⟩

theorem takeBuffered (h : Q run) : Q (Cursor.takeBuffered run).run := by
  by_cases empty : run.state.buffered = []
  · rw [takeBuffered_empty empty]
    exact h
  · exact kept.step h (.hand empty) rfl

theorem nextBatch (h : Q run) : Q (Cursor.nextBatch setup run).run := by
  unfold Cursor.nextBatch
  refine holds_andThen (kept.hasNext h) fun more _ => ?_
  cases more with
  | true => exact kept.takeBuffered (kept.hasNext h)
  | false => exact kept.hasNext h

theorem tryNext (h : Q run) : Q (Cursor.tryNext setup run).run := by
  unfold Cursor.tryNext
  have take {run : Run α} (h : Q run) : Q ((Cursor.takeBuffered run).andThen fun batch run =>
      .pure (if batch.isEmpty then none else some batch) run).run :=
    holds_andThen (kept.takeBuffered h) fun _ _ => kept.takeBuffered h
  refine holds_andThen (kept.ensureOpen h) fun done ok => ?_
  obtain ⟨same, isOpen⟩ := (ensureOpen_follows setup run).tells done ok
  rw [← same]
  split
  · rename_i asks
    simp only [Bool.and_eq_true, List.isEmpty_iff, Bool.not_eq_true'] at asks
    obtain ⟨⟨empty, unreached⟩, live⟩ := asks
    have fetched := kept.getMore h ⟨kept.sourced h, isOpen, empty, unreached⟩ live
    exact holds_andThen fetched fun _ _ => take fetched
  · exact take h

theorem next (h : Q run) : Q (Cursor.next setup run).run := by
  unfold Cursor.next
  refine holds_andThen (kept.hasNext h) fun more _ => ?_
  cases more with
  | true =>
    have handed := kept.nextBatch (kept.hasNext h)
    exact holds_andThen handed fun _ _ => handed
  | false => exact kept.hasNext h

theorem collect (most : Nat) (h : Q run) : Q (Cursor.collect setup most run).2 := by
  induction most generalizing run with
  | zero => exact h
  | succ most ih =>
    rw [Cursor.collect]
    have went := kept.next h
    cases (Cursor.next setup run).result with
    | error error => exact ih went
    | ok item =>
      cases item with
      | none => exact went
      | some batch => exact ih went

end Kept

/-- **A call keeps what every step keeps**, unless it sets the batch size: `Kept` goes to
`perform`. -/
theorem Kept.perform {life : Life α} (kept : Kept life.setup Q) (call : Call)
    (other : ∀ size, call ≠ .setBatchSize size) (h : Q life.run) : Q (life.perform call).2.run := by
  unfold Life.perform
  split
  · exact h
  cases call with
  | hasNext => exact kept.hasNext h
  | nextBatch => exact kept.nextBatch h
  | tryNext => exact kept.tryNext h
  | next => exact kept.next h
  | collect most => exact kept.collect most h
  | setBatchSize size => exact absurd rfl (other size)
  | close | drop => exact kept.close h
  | handleClose => exact kept.step h (.shut life.run) rfl
  | batchSize | limit | count | ns | serverCursor | serverAddress | isClosed | handleIsClosed =>
    exact h

/-! ## Words -/

/-- **What the command for the next batch says**: `getMore` and `collection`, then the number of
documents without its sign and the time, where these are not zero. The order of the fields is that
of the list. -/
def askingWords (collection : String) (id : Int64) (number : Int32) (maxTimeMs : Int64) :
    Document :=
  [("getMore", .integer id.toInt), ("collection", .text collection)] ++
    (if number = 0 then []
      else [("batchSize", .integer (min (number.toInt.natAbs : Int) 2147483647))]) ++
    if maxTimeMs = 0 then [] else [("maxTimeMS", .integer maxTimeMs.toInt)]

/-- **What the command that kills a cursor says**: the collection, and an array of the one
cursor. -/
def killingWords (collection : String) (id : Int64) : Document :=
  [("killCursors", .text collection), ("cursors", .array [.integer id.toInt])]

/-- The absolute value is zero for zero only: `Saturating.abs n = 0 ↔ n = 0`, although the smallest
integer is not negated. -/
theorem abs_eq_zero_iff (n : Int32) : Saturating.abs n = 0 ↔ n = 0 := by
  rw [← Int32.toInt_inj, ← Int32.toInt_inj, Saturating.toInt_abs, Int32.toInt_maxValue]
  show _ = (0 : Int) ↔ _ = (0 : Int)
  omega

/-- The command for the next batch says just that: its `document` is `askingWords`. -/
theorem document_getMoreCommand (collection : String) (id : Int64) (number : Int32)
    (maxTimeMs : Int64) :
    GetMoreCommand.document ⟨id, collection, number, maxTimeMs⟩ =
      askingWords collection id number maxTimeMs := by
  have most : Int32.maxValue.toInt = 2147483647 := rfl
  simp only [GetMoreCommand.document, askingWords, abs_eq_zero_iff, Saturating.toInt_abs, most]

/-- **The command for the next batch is well-formed.** It is about a cursor that was reported last
and was not killed, and it says no number that is not positive, and no such time. -/
structure AsksMore (setup : Setup α) (number : Int32) (before : List (Event α))
    (document : Document) : Prop where
  words : ∃ cursor, reported before = some cursor ∧ cursor.id ≠ 0 ∧
    document = askingWords setup.ns.collection cursor.id number setup.maxTimeMs
  unkilled : kills before = []
  number : number ≠ 0 →
    1 ≤ min (number.toInt.natAbs : Int) 2147483647 ∧
      min (number.toInt.natAbs : Int) 2147483647 ≤ 2147483647
  time : setup.maxTimeMs ≠ 0 → 0 < setup.maxTimeMs.toInt

/-- **The command that kills a cursor is well-formed.** It is about the cursor that was reported
last. -/
def Kills (setup : Setup α) (before : List (Event α)) (document : Document) : Prop :=
  ∃ cursor, reported before = some cursor ∧ cursor.id ≠ 0 ∧
    document = killingWords setup.ns.collection cursor.id

/-- **A command is well-formed**, as it is sent with a batch size after some events. It is sent to
the database of the cursor, with the session of its source, and asks for a primary. Nothing is said
of other events. -/
def Worded (setup : Setup α) (origin : Option Source) (size : Int32) (before : List (Event α)) :
    Event α → Prop
  | .send _ (.command database document preference session _) =>
    database = setup.ns.database ∧ preference = .primary ∧
      (∃ source, origin = some source ∧ session = source.session) ∧
      (AsksMore setup (numberToReturn setup.limit size (counted (received before))) before
        document ∨ Kills setup before document)
  | _ => True

section Requests

variable {origin : Option Source} {size : Int32} {source : Source} {cursor : ServerCursor}
  {connection : Connection} {before prior work : List (Event α)}

/-- Where nothing is sent, nothing has to be well-formed: `Worded` holds of every event with
`sent? = none`. -/
theorem worded_of_sent?_eq (before : List (Event α)) (event : Event α) (h : event.sent? = none) :
    Worded setup origin size before event := by
  cases event with
  | send number request => exact absurd h (by simp [Event.sent?])
  | retain | release | acquire | acquireFailed | accept | giveUp => trivial

/-- A time that is neither negative nor zero is positive, as an integer: `0 < time.toInt`. -/
theorem toInt_pos {time : Int64} (accepted : ¬time < 0) (some : time ≠ 0) : 0 < time.toInt := by
  have notNegative : ¬time.toInt < (0 : Int64).toInt := mt Int64.lt_iff_toInt_lt.mpr accepted
  have notZero : time.toInt ≠ (0 : Int64).toInt := mt Int64.toInt_inj.mp some
  have zero : (0 : Int64).toInt = 0 := rfl
  omega

/-- **The request for the next batch is well-formed** where its cursor was reported last: `asking`
is `Worded`. -/
theorem worded_asking (accepted : ¬setup.maxTimeMs < 0) (held : origin = some source)
    (sized : run.state.batchSize = size) (count : run.state.count = counted (received before))
    (last : reported before = some cursor) (unkilled : kills before = []) :
    Worded setup origin size before (asking setup connection source cursor run) := by
  unfold asking fetchRequest
  by_cases commands : connection.capability.supportsCommands = true
  · rw [if_pos commands, sized, count]
    refine ⟨rfl, rfl, ⟨source, held, rfl⟩, Or.inl ⟨?_, unkilled, ?_, toInt_pos accepted⟩⟩
    · exact ⟨cursor, last, cursor.id_ne_zero, document_getMoreCommand ..⟩
    · intro some
      have := toInt_ne_zero some
      omega
  · rw [if_neg commands]
    trivial

/-- **A kill is well-formed** where its cursor was reported last: `killing` is `Worded`. -/
theorem worded_killing (held : origin = some source) (last : reported before = some cursor) :
    Worded setup origin size before (killing setup connection source cursor) := by
  unfold killing killRequest
  by_cases commands : connection.capability.supportsCommands = true
  · rw [if_pos commands]
    exact ⟨rfl, rfl, ⟨source, held, rfl⟩, Or.inr ⟨cursor, last, cursor.id_ne_zero, rfl⟩⟩
  · rw [if_neg commands]
    trivial

/-- A kill on a connection of its own is well-formed after events that reported its cursor last: all
of `Discarding` is `Worded`. -/
theorem Discarding.worded (h : Discarding setup run work)
    (held : ∀ source, run.state.source = some source → origin = some source)
    (last : ∀ cursor, run.state.live = some cursor → reported prior = some cursor) :
    Throughout (fun before => Worded setup origin size (prior ++ before)) work := by
  cases h with
  | idle none => exact throughout_nil
  | refused names => exact (throughout_singleton _).mpr trivial
  | @made connection source cursor there names number =>
    simp only [throughout_cons, throughout_nil, and_true]
    refine ⟨trivial, worded_killing (held source there) ?_, trivial⟩
    rw [reported_append _ _ (by simp [Event.reported?])]
    exact last cursor names

/-- The kill after the first batch is well-formed: all of `Cutting` is `Worded` after the event of
the first reply. -/
theorem Cutting.worded {given : Option Connection} (h : Cutting setup run given work)
    (held : ∀ source, run.state.source = some source → origin = some source)
    (last : ∀ cursor, run.state.live = some cursor → reported prior = some cursor) :
    Throughout (fun before => Worded setup origin size (prior ++ before)) work := by
  cases h with
  | unreached | idle => exact throughout_nil
  | supplied reached there names =>
    rw [throughout_singleton, List.append_nil]
    exact worded_killing (held _ there) (last _ names)
  | own reached discards => exact discards.worded held last

end Requests

/-! ## Words of a call -/

/-- **What is said since some moment is well-formed**, with all that is known of the cursor: the
invariant of `perform_worded`. `since` is the number of events up to that moment. -/
structure Wellspoken (setup : Setup α) (origin : Option Source) (grants : List Grant)
    (size : Int32) (since : Nat) (run : Run α) : Prop where
  known : ∃ first fetches turns given, Known setup first fetches turns given run
  leased : Leased setup origin grants run
  sized : run.state.batchSize = size
  worded : Throughout (fun before event => since ≤ before.length →
    Worded setup origin size before event) run.events

/-- **Every step says what is well-formed**, if it leaves the batch size as it is: `Wellspoken` is
`Kept`. -/
theorem wellspoken_kept {origin : Option Source} {grants : List Grant} {size : Int32} {since : Nat}
    (accepted : ¬setup.maxTimeMs < 0) :
    Kept setup (Wellspoken setup origin grants size since) where
  sourced h := by
    obtain ⟨first, fetches, turns, given, known⟩ := h.known
    exact known.delivery.sourced
  step {run after here} h step sized := by
    obtain ⟨first, fetches, turns, given, known⟩ := h.known
    refine ⟨⟨first, fetches, turns, _, step.known known⟩, step.leased known.delivery h.leased,
      sized.trans h.sized, ?_⟩
    cases step with
    | shut | resize | deny | lack | hand => exact h.worded
    | fetch isOpen empty unreached live =>
      obtain ⟨source, cursor, hs, hl, passage⟩ := exists_passage setup known.delivery.sourced live
      have held := h.leased.origin source hs
      refine passage.throughout
        (fun before event silent _ => worded_of_sent?_eq before event silent) ?_ ?_ h.worded
      · intro connection opening opens _
        refine worded_asking accepted held h.sized ?_ ?_ ?_
        · rw [received_opening opens, known.delivery.count]
        · rw [reported_append _ _ (around_silent opens true).1]
          exact known.disciplined.reports cursor hl
        · rw [kills_append, known.stopped.unkilled unreached live,
            (requests_of_sent?_eq opens.sent?_eq).2, List.nil_append]
      · intro connection opening reply next opens names reached _
        refine worded_killing held ?_
        rw [names, ← List.singleton_append, ← List.append_assoc, ← List.append_assoc,
          reported_append_accept _ _ _ _ (by simp)]
    | finish closed unfinished =>
      have closes := finish_closes setup known.delivery.sourced closed unfinished
      obtain ⟨work, discarding, works⟩ := closes.works
      have silent (before : List (Event α)) (event : Event α) (h : event.sent? = none) :
          since ≤ before.length → Worded setup origin size before event :=
        fun _ => worded_of_sent?_eq before event h
      rw [works.events, throughout_append, throughout_append, throughout_append]
      refine ⟨h.worded, throughout_of_sent?_eq (by simp [Event.sent?]) fun _ => silent _, ?_,
        throughout_of_sent?_eq (by split <;> simp [Event.sent?]) fun _ => silent _⟩
      intro before event later split _
      rw [← List.append_assoc]
      refine discarding.worded h.leased.origin (fun cursor names => ?_) before event later split
      rw [reported_append _ _ (by simp [Event.reported?])]
      exact known.disciplined.reports cursor names

/-! ## Whole lives -/

/-- The batch sizes that are set by some calls, in order, be it on a cursor that was dropped. -/
def sizes (calls : List Call) : List Int32 :=
  calls.filterMap fun call => match call with
    | .setBatchSize size => some size
    | _ => none

namespace Life

variable {life : Life α} {first : Reply α} {options : Options}
  {decode : Document → Except DecodeError α} {source : Option Source}
  {connection : Option Connection} {script : Script}

/-- **What a call says is well-formed**, as the batch size demands that was set before it: `Worded`
of every event that `perform` adds. -/
theorem perform_worded {origin : Option Source} {grants : List Grant} {documents : List α}
    {fetches : List (Turn Batch)} {turns : List (Turn Unit)} {given : List (Output α)}
    (accepted : ¬life.setup.maxTimeMs < 0)
    (known : Known life.setup documents fetches turns given life.run)
    (leased : Leased life.setup origin grants life.run) (call : Call) :
    ∃ work, (life.perform call).2.run.events = life.run.events ++ work ∧
      Throughout (fun before => Worded life.setup origin life.run.state.batchSize
        (life.run.events ++ before)) work := by
  by_cases sets : ∃ size, call = .setBatchSize size
  · obtain ⟨size, rfl⟩ := sets
    refine ⟨[], ?_, throughout_nil⟩
    rw [List.append_nil]
    unfold perform
    split <;> rfl
  · -- Only what this call says is looked at, as its batch size says nothing about what was before.
    have start : Wellspoken life.setup origin grants life.run.state.batchSize
        life.run.events.length life.run := by
      refine ⟨⟨_, _, _, _, known⟩, leased, rfl, fun before event later split since => ?_⟩
      have length := congrArg List.length split
      rw [List.length_append, List.length_cons] at length
      omega
    have kept := (wellspoken_kept accepted).perform call (fun size set => sets ⟨size, set⟩) start
    obtain ⟨work, grown⟩ := (perform_path call known.delivery.sourced).grows known.delivery.sourced
    have worded := kept.worded
    rw [← grown, throughout_append] at worded
    refine ⟨work, grown.symm, fun before event later split => ?_⟩
    exact worded.2 before event later split (by simp)

/-- A negative time is refused, so a cursor that was made has none. -/
theorem accepted_of_ok (hok : (begin first options decode source connection script).1 = .ok ()) :
    ¬options.maxTimeMs < 0 := by
  intro negative
  have refused : (begin first options decode source connection script).1 =
      .error (.invalidArgument
        ("maxTimeMS must be >= 0, got " ++ toString options.maxTimeMs.toInt)) :=
    congrArg Outcome.result (if_pos negative)
  rw [hok] at refused
  cases refused

/-- **What is said when a cursor is made is well-formed**: all events of `begin` are `Worded`. -/
theorem begin_worded (hok : (begin first options decode source connection script).1 = .ok ())
    (size : Int32) :
    Throughout (Worded (Setup.of first options decode) source size)
      (begin first options decode source connection script).2.run.events := by
  obtain ⟨work, cuts, -, works⟩ := begin_works hok
  rw [works.events, throughout_append, throughout_append, throughout_append]
  refine ⟨?_, cuts.worded (fun _ there => there) fun cursor names => ?_,
    throughout_of_sent?_eq ?_ fun _ => worded_of_sent?_eq _,
    throughout_of_sent?_eq (by simp [Event.sent?]) fun _ => worded_of_sent?_eq _⟩
  · rw [events_absorb]
    refine throughout_of_sent?_eq ?_ worded_of_sent?_eq
    cases source <;> simp [started, Event.sent?]
  · rw [events_absorb, reported_append_accept _ _ _ _ (by simp)]
    exact names
  · split <;> simp [Event.sent?]

/-- A call leaves the batch size as it is unless it sets one, by `Kept.perform` for the batch size
itself. -/
theorem batchSize_perform {call : Call} (h : Sourced life.run)
    (other : ∀ size, call ≠ .setBatchSize size) :
    (life.perform call).2.run.state.batchSize = life.run.state.batchSize := by
  have kept : Kept life.setup fun run =>
      Sourced run ∧ run.state.batchSize = life.run.state.batchSize :=
    ⟨fun h => h.1, fun h step same => ⟨step.sourced h.1, same.trans h.2⟩⟩
  exact (kept.perform call other ⟨h, rfl⟩).2

/-- The batch size after a call is the one before it, or it is set by the call: in either case it is
a `known` one. -/
theorem batchSize_perform_mem {known : List Int32} (call : Call) (h : Sourced life.run)
    (set : life.run.state.batchSize ∈ known) :
    (life.perform call).2.run.state.batchSize ∈ known ++ sizes [call] := by
  by_cases sets : ∃ size, call = .setBatchSize size
  · obtain ⟨size, rfl⟩ := sets
    unfold perform
    split
    · exact List.mem_append_left _ set
    · exact List.mem_append_right _ (List.mem_singleton_self size)
  · rw [batchSize_perform h fun size set => sets ⟨size, set⟩]
    exact List.mem_append_left _ set

/-- **What calls say is well-formed**, as one of the batch sizes demands that were set. By induction
on the calls, each by `perform_worded`. -/
theorem performAll_worded {origin : Option Source} {grants : List Grant} {documents : List α}
    {fetches : List (Turn Batch)} {turns : List (Turn Unit)} {given : List (Output α)}
    {set : List Int32} (calls : List Call) (accepted : ¬life.setup.maxTimeMs < 0)
    (known : Known life.setup documents fetches turns given life.run)
    (leased : Leased life.setup origin grants life.run)
    (sized : life.run.state.batchSize ∈ set)
    (worded : Throughout (fun before event => ∃ size ∈ set,
      Worded life.setup origin size before event) life.run.events) :
    Throughout (fun before event => ∃ size ∈ set ++ sizes calls,
      Worded life.setup origin size before event) (performAll calls life).2.run.events := by
  induction calls generalizing life given set with
  | nil =>
    rw [show sizes [] = [] from rfl, List.append_nil]
    exact worded
  | cons call calls ih =>
    have sourced := known.delivery.sourced
    have path := perform_path call sourced
    have same := setup_perform call life
    obtain ⟨work, events, here⟩ := perform_worded accepted known leased call
    have each : sizes (call :: calls) = sizes [call] ++ sizes calls := by
      rw [sizes, ← List.singleton_append, List.filterMap_append]
      rfl
    rw [each, ← List.append_assoc, ← same]
    have later := path.known known
    have lent := path.leased known.delivery leased
    rw [← same] at later lent
    refine ih (same ▸ accepted) later lent (batchSize_perform_mem call sourced sized) ?_
    rw [same, events, throughout_append]
    constructor
    · intro before event after split
      obtain ⟨size, listed, said⟩ := worded before event after split
      exact ⟨size, List.mem_append_left _ listed, said⟩
    · intro before event after split
      exact ⟨_, List.mem_append_left _ sized, here before event after split⟩

/-- The batch size is the one that was set last, as long as the cursor is not dropped: the last of
`sizes calls`, or the one before the calls. -/
theorem batchSize_performAll (calls : List Call) (h : Sourced life.run)
    (alive : life.dropped = false) (undropped : .drop ∉ calls) :
    (performAll calls life).2.run.state.batchSize =
      (sizes calls).getLastD life.run.state.batchSize := by
  induction calls generalizing life with
  | nil => rfl
  | cons call calls ih =>
    obtain ⟨this, rest⟩ := not_or.mp (mt List.mem_cons.mpr undropped)
    have path := perform_path call h
    have still : (life.perform call).2.dropped = false :=
      (dropped_perform (Ne.symm this) life).trans alive
    refine (ih (path.sourced h) still rest).trans ?_
    by_cases sets : ∃ size, call = .setBatchSize size
    · obtain ⟨size, rfl⟩ := sets
      have taken : (life.perform (.setBatchSize size)).2.run.state.batchSize = size := by
        simp [perform, performAlive, alive]
      rw [taken, show sizes (.setBatchSize size :: calls) = size :: sizes calls from rfl,
        List.getLastD_cons]
    · have none : sizes (call :: calls) = sizes calls := by
        cases call with
        | setBatchSize size => exact absurd ⟨size, rfl⟩ sets
        | _ => rfl
      rw [none, batchSize_perform h fun size set => sets ⟨size, set⟩]

/-- **Every command is well-formed**, over the whole life of a cursor, whatever its limit, its batch
sizes and its time.

* The command for the next batch says in this order which cursor is asked, of which collection, for
  how many documents and in what time. The cursor is the one that was reported last, it was not
  killed, and its number is not zero. The number of documents is there if and only if the requested
  one is not zero; it is its absolute value then, or the largest 32-bit integer if that is smaller,
  and it is positive. The time is there if and only if it is not zero, and it is positive then.
* The command that kills names the collection and the one cursor that was reported last.
* Both are sent to the database of the cursor, with the session of its source, and ask for a
  primary.

In every call the requested number is the one that the batch size demands which was set last. -/
theorem commands_worded (first : Reply α) (options : Options)
    (decode : Document → Except DecodeError α) (source : Option Source)
    (connection : Option Connection) (script : Script) (calls : List Call)
    (hok : (begin first options decode source connection script).1 = .ok ()) :
    let made := (begin first options decode source connection script).2
    let life := (performAll calls made).2
    Throughout (fun before event => ∃ size ∈ options.batchSize :: sizes calls,
      Worded made.setup source size before event) life.run.events ∧
    (∀ call, ∃ work, (life.perform call).2.run.events = life.run.events ++ work ∧
      Throughout (fun before => Worded made.setup source life.run.state.batchSize
        (life.run.events ++ before)) work) ∧
    (.drop ∉ calls →
      life.run.state.batchSize = (sizes calls).getLastD options.batchSize) := by
  intro made life
  have fresh := made_of_ok hok
  have known := begin_known hok
  have leased := begin_leased hok
  have accepted : ¬made.setup.maxTimeMs < 0 := accepted_of_ok hok
  have sized : made.run.state.batchSize = options.batchSize := by
    obtain ⟨live, state, -⟩ := fresh.state
    exact congrArg State.batchSize state
  have path := performAll_path calls fresh.sourced
  have same : life.setup = made.setup := setup_performAll calls made
  refine ⟨?whole, fun call => ?each, fun undropped => ?last⟩
  case whole =>
    show Throughout (fun before event => ∃ size ∈ [options.batchSize] ++ sizes calls,
      Worded made.setup source size before event) life.run.events
    refine performAll_worded calls accepted known leased ?_ fun before event later split => ?_
    · rw [sized]
      exact List.mem_singleton_self _
    · exact ⟨_, List.mem_singleton_self _, begin_worded hok _ before event later split⟩
  case each =>
    have later := path.known known
    have lent := path.leased fresh.delivery leased
    rw [show Setup.of first options decode = life.setup from same.symm] at later lent
    rw [← same] at accepted ⊢
    exact perform_worded accepted later lent call
  case last =>
    rw [← sized]
    exact batchSize_performAll calls fresh.sourced rfl undropped

/-- The smallest batch size asks for the largest number of documents. -/
theorem commands_worded_smallest :
    let made := begin (Small.first [1] 7) { batchSize := 5, maxTimeMs := 10 } Small.decode
      (some (Small.source 5)) none ⟨[], [Small.turn [2] 7], []⟩
    let life := (performAll [.nextBatch, .setBatchSize Int32.minValue] made.2).2
    made.1 = .ok () ∧ life.run.state.batchSize = Int32.minValue ∧
      (∀ call, ∃ work, (life.perform call).2.run.events = life.run.events ++ work ∧
        Throughout (fun before => Worded made.2.setup (some (Small.source 5))
          life.run.state.batchSize (life.run.events ++ before)) work) ∧
      (requests (life.perform .nextBatch).2.run.events).map Request.asked? =
        [some 2147483647] := by
  obtain ⟨-, each, last⟩ := commands_worded (Small.first [1] 7)
    { batchSize := 5, maxTimeMs := 10 } Small.decode (some (Small.source 5)) none
    ⟨[], [Small.turn [2] 7], []⟩ [.nextBatch, .setBatchSize Int32.minValue] rfl
  exact ⟨rfl, last (by decide), each, by decide +kernel⟩

end Life

end DocumentCursor.Cursor
