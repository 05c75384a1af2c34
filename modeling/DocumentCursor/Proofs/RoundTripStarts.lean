import DocumentCursor.Proofs.Delivery
import DocumentCursor.Proofs.RoundTripEvents

/-! # When round trips are begun

A cursor may be closed from elsewhere while its source looks for a connection, while the server
answers a request for documents, and while it answers a kill. What was begun before that is brought
to its end: a request for documents is sent even when the cursor was closed since its connection was
asked for. But no round trip is begun any more.

A round trip is begun by the event for which `Event.Begins` holds: by asking the source for a
connection, or by a request for documents where the connection was kept. Whether the cursor was
closed by then is read off the script, whose answers are used up in order.

* **`Unshut`**: in the given events nobody closed the cursor.
* **`WhileOpen`**: an event begins a round trip only if nobody closed the cursor before it.
* **`Stopped`**: a kill is the end of asking.
* **`Path.watched`**: every event before the work of closing is `WhileOpen`.
-/

namespace DocumentCursor.Cursor

variable {α : Type} {setup : Setup α} {connection : Connection} {source : Source}
  {cursor : ServerCursor} {run after : Run α} {outcome : Outcome α Unit}

/-! ## Beginnings -/

/-- **An event begins a round trip** after the events `before`: the source is asked for a
connection, or documents are asked for on a connection that was not handed out just then. -/
def Event.Begins (before : List (Event α)) : Event α → Prop
  | acquire _ | acquireFailed => True
  | send number request => request.asked?.isSome ∧ before.getLast? ≠ some (acquire number)
  | _ => False

/-- Neither an event other than `acquire` and `acquireFailed` nor one that asks for no documents
begins a round trip. -/
theorem Event.not_begins {event : Event α} (before : List (Event α))
    (inquiry : event.isInquiry = false) (request : event.request? = none) :
    ¬event.Begins before := by
  cases event with
  | acquire | acquireFailed => exact absurd inquiry (by simp [isInquiry])
  | send number sent =>
    rintro ⟨asked, -⟩
    simp [asked] at request
  | retain | release | accept | giveUp => exact id

/-- **Nobody closed the cursor in the given events**: nothing was killed, and no answer that was
used up for a connection or for documents says that the cursor was closed before it arrived. -/
structure Unshut (script : Script) (events : List (Event α)) : Prop where
  kills : kills events = []
  grants : ∀ grant ∈ script.grants.take (inquiries events), grant.closes = false
  fetches : ∀ turn ∈ script.fetches.take (requests events).length, turn.closes = false

/-- **A round trip is begun only while the cursor is open**: if `event` begins one, nobody closed
the cursor in the events `before` it. -/
def WhileOpen (script : Script) (before : List (Event α)) (event : Event α) : Prop :=
  event.Begins before → Unshut script before

/-- Events that neither ask for a connection nor for documents begin no round trip, whatever
`before` says was before them. -/
theorem throughout_whileOpen {script : Script} {work : List (Event α)}
    (before : List (Event α) → List (Event α))
    (h : ∀ event ∈ work, event.isInquiry = false ∧ event.request? = none) :
    Throughout (fun later => WhileOpen script (before later)) work := by
  rintro later event rest rfl begins
  obtain ⟨inquiry, request⟩ := h event (by simp)
  exact absurd begins (event.not_begins _ inquiry request)

/-! ## The events of one round trip -/

/-- Nothing that is said after the request for documents asks for anything: the list begins with
`asking`, and neither an inquiry nor a request follows it. -/
theorem Said.asks_once {result : Except CursorError Unit} {state : State α}
    {said : List (Event α)} (h : Said setup connection source cursor run result state said) :
    ∃ rest, said = asking setup connection source cursor run :: rest ∧
      ∀ event ∈ rest, event.isInquiry = false ∧ event.request? = none :=
  h.eq_cons (fun _ _ => ⟨rfl, rfl⟩) (fun _ => ⟨rfl, by simp [killing]⟩) ⟨rfl, rfl⟩

/-- If the cursor is open after what was said, it was not closed while that was begun:
`run.tripCloses setup.ns = false`. -/
theorem Said.tripCloses_eq {result : Except CursorError Unit} {state : State α}
    {said : List (Event α)} (h : Said setup connection source cursor run result state said)
    (isOpen : state.closed = false) : run.tripCloses setup.ns = false := by
  cases h <;> simp_all [heard, replied]

/-- Events that ask for nothing count neither as `inquiries` nor as `requests`. -/
theorem counts_of_asks_nothing {work : List (Event α)}
    (h : ∀ event ∈ work, event.isInquiry = false ∧ event.request? = none) :
    inquiries work = 0 ∧ requests work = [] :=
  ⟨List.countP_eq_zero.mpr fun event listed => by simp [(h event listed).1],
    List.filterMap_eq_nil_iff.mpr fun event listed => (h event listed).2⟩

/-- Nobody closed the cursor while it asked for nothing and killed nothing, since no answer arrived
then. -/
theorem unshut_of_asks_nothing {script : Script} {work : List (Event α)}
    (unkilled : kills work = [])
    (h : ∀ event ∈ work, event.isInquiry = false ∧ event.request? = none) : Unshut script work := by
  obtain ⟨uninquired, unasked⟩ := counts_of_asks_nothing h
  exact ⟨unkilled, by simp [uninquired], by simp [unasked]⟩

/-- What becomes of a connection after a round trip asks for nothing, be it kept or given up. -/
theorem settled_asks_nothing (keep : Bool) (number : Nat) :
    ∀ event ∈ (if keep then [] else [(.giveUp number : Event α)]),
      event.isInquiry = false ∧ event.request? = none := by
  cases keep <;> simp [Event.isInquiry, Event.request?]

/-- **The events of a round trip are begun by its first one**, so that it is begun while the cursor
is open if nobody closed the cursor before it. -/
theorem Passage.whileOpen {script : Script} (passage : Passage setup source cursor run outcome)
    (unshut : Unshut script run.events) (holds : Throughout (WhileOpen script) run.events) :
    Throughout (WhileOpen script) outcome.run.events := by
  cases passage with
  | refused unpinned result state works =>
    rw [works.events, throughout_append, throughout_singleton, List.append_nil]
    exact ⟨holds, fun _ => unshut⟩
  | @made connection opening said state opens talk state_eq works =>
    obtain ⟨rest, rfl, quiet⟩ := talk.asks_once
    rw [works.events, throughout_append]
    refine ⟨holds, ?_⟩
    have later (before : List (Event α) → List (Event α)) :
        Throughout (fun events => WhileOpen script (before events)) (rest ++
          if keeps setup connection state then [] else [.giveUp connection.number]) :=
      throughout_whileOpen before fun event listed =>
        (List.mem_append.mp listed).elim (quiet event)
          (settled_asks_nothing (keeps setup connection state) connection.number event)
    cases opens with
    | kept pinned =>
      rw [List.nil_append, List.cons_append, throughout_cons, List.append_nil]
      exact ⟨fun _ => unshut, later fun events => run.events ++ _ :: events⟩
    | made unpinned number version =>
      rw [List.cons_append, List.cons_append, List.nil_append, throughout_cons, throughout_cons,
        List.append_nil]
      refine ⟨fun _ => unshut, ?_, later fun events => run.events ++ _ :: _ :: events⟩
      -- The request is sent on the connection that was handed out for it.
      rintro ⟨-, elsewhere⟩
      exact absurd (by simp) elsewhere

/-! ## What nobody closed stays unclosed -/

/-- What holds of `items.take n` and of the next item, if there is one, holds of
`items.take (n + 1)`. -/
theorem forall_mem_take_succ {β : Type} {P : β → Prop} {items left : List β} {n : Nat}
    (before : ∀ item ∈ items.take n, P item) (rest : left = items.drop n)
    (next : ∀ item ∈ left.head?, P item) : ∀ item ∈ items.take (n + 1), P item := by
  intro item listed
  rw [List.take_add_one, List.mem_append, Option.mem_toList] at listed
  refine listed.elim (before item) fun last => next item ?_
  rw [rest, List.head?_drop]
  exact last

/-- **If the cursor is open after a round trip, nobody closed it up to then**, unless a kill was
sent. The grant and the answer that the round trip used up are the next ones of the script, as
`grants` and `fetches` say. -/
theorem Passage.unshut {script : Script} (passage : Passage setup source cursor run outcome)
    (grants : run.script.grants = script.grants.drop (inquiries run.events))
    (fetches : run.script.fetches = script.fetches.drop (requests run.events).length)
    (unshut : Unshut script run.events) (isOpen : outcome.run.state.closed = false)
    (unkilled : kills outcome.run.events = []) : Unshut script outcome.run.events := by
  -- The grant and the answer of this round trip are the next ones, if there are any left.
  have grant (calm : run.nextGrant.closes = false) :
      ∀ grant ∈ script.grants.take (inquiries run.events + 1), grant.closes = false := by
    refine forall_mem_take_succ unshut.grants grants fun grant next => ?_
    rwa [Run.nextGrant, List.headD_eq_head?_getD, next] at calm
  have fetch (calm : (run.fetchTurn setup.ns).closes = false) :
      ∀ turn ∈ script.fetches.take ((requests run.events).length + 1), turn.closes = false := by
    refine forall_mem_take_succ unshut.fetches fetches fun turn next => ?_
    rwa [Run.fetchTurn, List.headD_eq_head?_getD, next] at calm
  cases passage with
  | refused unpinned result state works =>
    have calm : run.state.closed = false ∧ run.openingCloses = false := by
      simpa [state] using isOpen
    rw [works.events] at unkilled ⊢
    refine ⟨unkilled, ?_, by simpa [Event.request?] using unshut.fetches⟩
    simpa [Event.isInquiry] using grant (by simpa [Run.openingCloses, unpinned] using calm.2)
  | @made connection opening said state opens talk state_eq works =>
    have calm := talk.tripCloses_eq (by simpa [state_eq] using isOpen)
    rw [Run.tripCloses, Bool.or_eq_false_iff] at calm
    obtain ⟨rest, rfl, quiet⟩ := talk.asks_once
    obtain ⟨here, none⟩ := counts_of_asks_nothing quiet
    obtain ⟨there, nothing⟩ := counts_of_asks_nothing
      (settled_asks_nothing (α := α) (keeps setup connection state) connection.number)
    have inquired : inquiries outcome.run.events = inquiries run.events + inquiries opening := by
      simp [works.events, here, there, asking, Event.isInquiry]
    have once : (requests outcome.run.events).length = (requests run.events).length + 1 := by
      rw [works.events]
      cases opens <;> simp [none, nothing, asking, Event.request?]
    refine ⟨unkilled, ?_, once ▸ fetch calm.2⟩
    rw [inquired]
    cases opens with
    | kept pinned => exact unshut.grants
    | made unpinned number version =>
      exact grant (by simpa [Run.openingCloses, unpinned] using calm.1)

/-! ## The making of a cursor -/

/-- Nothing is asked for before the first batch is taken over. -/
theorem started_asks_nothing (batchSize : Int32) (first : Reply α) (source : Option Source)
    (script : Script) : ∀ event ∈ (absorb first (started batchSize source script)).events,
      event.isInquiry = false ∧ event.request? = none := by
  rw [events_absorb]
  cases source <;> simp [started, Event.isInquiry, Event.request?]

/-- A kill begins no round trip, whatever was before it. -/
theorem whileOpen_killing {script : Script} (before : List (Event α)) :
    WhileOpen script before (killing setup connection source cursor) := fun begins =>
  absurd begins (Event.not_begins before rfl (by simp [killing]))

/-- **A kill after the first batch** is made on the connection that was given, or on one that is
asked for when nobody can have closed the cursor. -/
theorem Cutting.whileOpen {given : Option Connection} {work : List (Event α)} {script : Script}
    (h : Cutting setup run given work) (unshut : Unshut script run.events) :
    Throughout (fun later => WhileOpen script (run.events ++ later)) work := by
  cases h with
  | unreached | idle => exact throughout_nil
  | supplied reached held names => exact (throughout_singleton _).mpr (whileOpen_killing _)
  | own reached discards =>
    cases discards with
    | idle none => exact throughout_nil
    | refused names =>
      rw [throughout_singleton, List.append_nil]
      exact fun _ => unshut
    | made held names number =>
      simp only [throughout_cons, throughout_nil, and_true, List.append_nil]
      exact ⟨fun _ => unshut, whileOpen_killing _, fun begins => False.elim begins⟩

/-! ## A kill is the end of asking -/

/-- **A kill is the end of asking**: if one was sent, then the limit is reached or the server holds
no cursor. -/
def Stopped (setup : Setup α) (run : Run α) : Prop :=
  kills run.events ≠ [] → limitReached setup run.state = true ∨ run.state.live = none

/-- Nothing was killed as long as there is more to be asked for. -/
theorem Stopped.unkilled (h : Stopped setup run)
    (unreached : limitReached setup run.state = false) (live : run.state.live.isSome) :
    kills run.events = [] := by
  by_cases killed : kills run.events = []
  · exact killed
  · obtain reached | none := h killed
    · exact absurd reached (by simp [unreached])
    · exact absurd live (by simp [none])

section Paths

variable {first : List α} {turns : List (Turn Batch)} {given here : List (Output α)}
  {script : Script}

/-- Every step keeps a kill the end of asking: after a kill in a round trip the limit is reached or
the server's cursor is gone, and the work of closing leaves none. -/
theorem Step.stopped (sourced : Sourced run) (stopped : Stopped setup run)
    (step : Step setup run here after) : Stopped setup after := by
  cases step with
  | shut | resize | deny | lack | hand => exact stopped
  | fetch isOpen empty unreached live =>
    obtain ⟨source, cursor, -, hl, passage⟩ := exists_passage setup sourced live
    exact passage.killed (stopped.unkilled unreached live)
  | finish closed => exact fun _ => Or.inr (by rw [finish_state setup sourced closed])

/-! ## Whole paths -/

/-- **Every round trip so far was begun while the cursor was open**, and the run says whether it
still is. Every inquiry of the source used up one grant. -/
structure Watched (setup : Setup α) (script : Script) (run : Run α) : Prop where
  begun : Throughout (WhileOpen script) run.events
  still : run.state.closed = false → limitReached setup run.state = false →
    run.state.live.isSome → Unshut script run.events
  left : run.script.grants = script.grants.drop (inquiries run.events)

/-- **Every step begins a round trip only while the cursor is open**, up to the work of closing. -/
theorem Step.watched (h : Delivery setup first script.fetches given run)
    (stopped : Stopped setup run) (watched : Watched setup script run)
    (unfinished : after.state.finished = false) (step : Step setup run here after) :
    Watched setup script after := by
  have ends := step.stopped h.sourced stopped
  cases step with
  | shut => exact ⟨watched.begun, nofun, watched.left⟩
  | resize | deny | lack | hand => exact ⟨watched.begun, watched.still, watched.left⟩
  | fetch isOpen empty unreached live =>
    obtain ⟨source, cursor, -, hl, passage⟩ := exists_passage setup h.sourced live
    have unshut := watched.still isOpen unreached live
    refine ⟨passage.whileOpen unshut watched.begun, fun still far there => ?_, ?_⟩
    · exact passage.unshut watched.left h.left unshut still (ends.unkilled far there)
    · obtain ⟨work, works⟩ := passage.works
      rw [works.inquiries, watched.left, List.drop_drop, works.events, inquiries_append]
  | finish closed => exact absurd unfinished (by simp [finish_state setup h.sourced closed])

/-- **Every round trip is begun while the cursor is open** on a path that does not come to the work
of closing. -/
theorem Path.watched (h : Delivery setup first script.fetches given run)
    (stopped : Stopped setup run) (watched : Watched setup script run)
    (path : Path setup run here after) (unfinished : after.state.finished = false) :
    Watched setup script after := by
  have both := path.invariant_of_delivery
    (P := fun run => Stopped setup run ∧
      (run.state.finished = false → Watched setup script run))
    (fun delivery step held => ⟨step.stopped delivery.sourced held.1, fun last =>
      step.watched delivery held.1 (held.2 (step.unfinished delivery.sourced last)) last⟩)
    h ⟨stopped, fun _ => watched⟩
  exact both.2 unfinished

end Paths

end DocumentCursor.Cursor
