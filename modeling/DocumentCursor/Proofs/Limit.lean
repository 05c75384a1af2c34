import DocumentCursor.Proofs.Delivery

/-! # The limit

A cursor asks for no more documents than are left of its limit, whatever the batch size, and for
none once it is reached. If the server never returns more than it is asked for, the limit is never
exceeded.

* **`numberToReturn_below_limit`**: the number to ask for, over the whole range of 32 bits.
* **`Moderate`**: a server that returns no more than it is asked for.
* **`Bounded`**: the limit was never exceeded, nor would it have been by what was asked for.
* **`Step.bounded`**: every step keeps it so.
* **`limit_respected`**: so it is in every life of a cursor.
-/

namespace DocumentCursor.Cursor

variable {α : Type} {setup : Setup α} {run after : Run α}

/-! ## Servers -/

/-- An answer that brings no more documents than the request asks for, if it asks for a number:
`documents.length ≤ n` for `n ≠ 0`. -/
def Modest (setup : Setup α) (request : Request) (response : Response Batch) : Prop :=
  ∀ n ∈ request.asked?, ∀ documents ∈ documents? setup request response,
    n ≠ 0 → documents.length ≤ n

/-- **A server that returns no more than it is asked for**, in its answers to the given requests.
Nothing is said of answers to requests that were not made. -/
def Moderate (setup : Setup α) : List Request → List (Turn Batch) → Prop
  | [], _ => True
  | request :: requests, turns =>
    Modest setup request
      (turns.headD ⟨.success ⟨[], 0, setup.ns.fullName⟩, false⟩).response ∧
    Moderate setup requests turns.tail

instance Modest.decidable (setup : Setup α) (request : Request) (response : Response Batch) :
    Decidable (Modest setup request response) :=
  inferInstanceAs (Decidable (∀ n ∈ request.asked?, ∀ documents ∈ documents? setup request response,
    n ≠ 0 → documents.length ≤ n))

instance Moderate.decidable (setup : Setup α) :
    (requests : List Request) → (turns : List (Turn Batch)) →
      Decidable (Moderate setup requests turns)
  | [], _ => inferInstanceAs (Decidable True)
  | request :: requests, turns =>
    have := Moderate.decidable setup requests turns.tail
    inferInstanceAs (Decidable (Modest setup request
      (turns.headD ⟨.success ⟨[], 0, setup.ns.fullName⟩, false⟩).response ∧
        Moderate setup requests turns.tail))

/-- One more answer is moderate if all are: the last request is answered at the place
`requests.length` in `turns`. -/
theorem moderate_concat (requests : List Request) (request : Request) (turns : List (Turn Batch)) :
    Moderate setup (requests ++ [request]) turns ↔ Moderate setup requests turns ∧
      Modest setup request ((turns.drop requests.length).headD
        ⟨.success ⟨[], 0, setup.ns.fullName⟩, false⟩).response := by
  induction requests generalizing turns with
  | nil => simp [Moderate]
  | cons first requests ih =>
    rw [List.cons_append, Moderate, Moderate, ih, and_assoc, List.length_cons, ← List.drop_tail]

/-! ## The number that is asked for -/

/-- **Below the limit** a fetch asks for at least one document, and for no more than are left,
`asks setup connection state + n ≤ |limit|`, in either protocol. -/
theorem asks_bounds (connection : Connection) {state : State α} {n : Nat}
    (hmin : setup.limit ≠ Int32.minValue)
    (hcount : state.count = counted n) (hn : n < setup.limit.toInt.natAbs) :
    1 ≤ asks setup connection state ∧
      asks setup connection state + n ≤ setup.limit.toInt.natAbs := by
  have bounds := numberToReturn_bounds state.batchSize hmin hn
  have size := abs_numberToReturn state.batchSize hmin hn
  simp only [asks, hcount]
  split
  · rw [size]
    exact bounds
  · exact bounds

/-- **The number to ask for below a limit**, whatever the limit, the batch size and the count are.
It is no more than what is left of the limit, it is no more than the batch size if that is not zero,
and it is negative only as a negative batch size. All of it is computed in the integers: a size is
cut off at the largest number, which only that of the least number exceeds, and the difference never
is. For that reason `Int32.minValue` for a limit with `Int32.maxValue` for a count is the one case
in which the number is zero: one document is left there, and the choice is the server's. -/
theorem numberToReturn_below_limit (setup : Setup α) (state : State α)
    (limited : setup.limit ≠ 0) (counts : 0 ≤ state.count)
    (unreached : limitReached setup state = false) :
    let limit := setup.limit
    let size := state.batchSize
    let count := state.count
    let number := numberToReturn limit size count
    (number = 0 ↔ limit = Int32.minValue ∧ count = Int32.maxValue) ∧
      number.toInt.natAbs + count.toInt ≤ limit.toInt.natAbs ∧
      (size ≠ 0 → number.toInt.natAbs ≤ size.toInt.natAbs) ∧
      (number < 0 → number = size) ∧
      (Saturating.abs limit).toInt = min (limit.toInt.natAbs : Int) 2147483647 ∧
      (Saturating.abs size).toInt = min (size.toInt.natAbs : Int) 2147483647 ∧
      (Saturating.sub (Saturating.abs limit) count).toInt =
        (Saturating.abs limit).toInt - count.toInt := by
  intro limit size count number
  have counts : 0 ≤ state.count.toInt := by
    rwa [Int32.le_iff_toInt_le, Int32.toInt_zero] at counts
  have below := below_of_unreached limited counts unreached
  have cut (n : Int32) : (Saturating.abs n).toInt = min (n.toInt.natAbs : Int) 2147483647 := by
    rw [Saturating.toInt_abs, Int32.toInt_maxValue]
    rfl
  refine ⟨numberToReturn_eq_zero_iff size counts below,
    natAbs_numberToReturn_add_le size counts below, natAbs_numberToReturn_le counts below,
    eq_size_of_numberToReturn_neg counts below, cut limit, cut size, ?_⟩
  rw [toInt_left counts, cut limit]

/-- With the least number for a limit and for a batch size, and one document less than the largest
count, `1` is asked for: the size is cut off, and so is what is left. -/
theorem numberToReturn_below_limit_least :
    let setup : Setup Nat := .of (Small.first [] 7) { limit := Int32.minValue } Small.decode
    let state : State Nat := { State.initial Int32.minValue none with count := 2147483646 }
    setup.limit ≠ 0 ∧ 0 ≤ state.count ∧ limitReached setup state = false ∧
      numberToReturn setup.limit state.batchSize state.count = 1 ∧
      numberToReturn setup.limit state.batchSize state.count ≠ 0 := by
  intro setup state
  have limited : setup.limit ≠ 0 := by decide
  have counts : 0 ≤ state.count := by decide
  have unreached : limitReached setup state = false := by decide
  have ends := (numberToReturn_below_limit setup state limited counts unreached).1
  refine ⟨limited, counts, unreached, by decide, fun zero => ?_⟩
  exact absurd (ends.mp zero).2 (by decide)

/-- **With the least limit and the largest count** one document is left, and no number is asked
for. -/
theorem numberToReturn_at_ends :
    let setup : Setup Nat := .of (Small.first [] 7) { limit := Int32.minValue } Small.decode
    let state : State Nat := { State.initial 0 none with count := Int32.maxValue }
    setup.limit ≠ 0 ∧ 0 ≤ state.count ∧ limitReached setup state = false ∧
      setup.limit.toInt.natAbs - state.count.toInt = 1 ∧
      numberToReturn setup.limit state.batchSize state.count = 0 := by
  decide

/-! ## The invariants -/

/-- Nothing is asked for once the limit is reached: what was received before a request, as it is
counted, is less than `|limit|`. -/
def AsksBelow (setup : Setup α) (before : List (Event α)) (event : Event α) : Prop :=
  event.asked?.isSome → (counted (received before)).toInt < setup.limit.toInt.natAbs

/-- At least one document is asked for, and no more than are left: `1 ≤ n` and `n` with what was
received before make `|limit|` at most. -/
def AsksWithin (setup : Setup α) (before : List (Event α)) (event : Event α) : Prop :=
  ∀ n, event.asked? = some n →
    1 ≤ n ∧ n + (counted (received before)).toInt ≤ setup.limit.toInt.natAbs

/-- **The limit was never exceeded**, nor would it have been by what was asked for, had every answer
brought all of it. -/
structure Bounded (setup : Setup α) (run : Run α) : Prop where
  within : received run.events ≤ setup.limit.toInt.natAbs
  asking : Throughout (AsksWithin setup) run.events

variable {first : List α} {turns : List (Turn Batch)} {given here : List (Output α)}

/-- `AsksBelow` holds of every event that is no request. -/
theorem asksBelow_of_none (before : List (Event α)) (event : Event α) (h : event.asked? = none) :
    AsksBelow setup before event := by
  simp [AsksBelow, h]

/-- `AsksWithin` holds of every event that is no request. -/
theorem asksWithin_of_none (before : List (Event α)) (event : Event α) (h : event.asked? = none) :
    AsksWithin setup before event := by
  simp [AsksWithin, h]

/-- **Every step asks for documents only below the limit**, whatever the server returns: a round
trip is made only where `limitReached` is false. -/
theorem Step.asksBelow (hlimit : setup.limit ≠ 0) (h : Delivery setup first turns given run)
    (below : Throughout (AsksBelow setup) run.events) (step : Step setup run here after) :
    Throughout (AsksBelow setup) after.events := by
  cases step with
  | shut | resize | deny | lack | hand => exact below
  | fetch isOpen empty unreached live =>
    obtain ⟨source, cursor, -, trip⟩ := getMore_trip setup h.sourced live
    have left := (limitReached_eq_false h.count).mp unreached hlimit
    -- Between the check of the limit and the request nothing is received.
    have allowed (event : Event α) (before : List (Event α))
        (same : received before = received run.events) : AsksBelow setup before event := by
      intro _
      rw [same, toInt_counted]
      omega
    cases trip with
    | refused result listed state quietly => exact quietly.throughout asksBelow_of_none below
    | failed pinned result missed state exchanged =>
      exact exchanged.throughout asksBelow_of_none (allowed _) (by simp) below
    | brought pinned live closed got state exchanged =>
      exact exchanged.throughout asksBelow_of_none (allowed _) (by simp) below
  | finish closed unfinished =>
    exact (finish_quietly setup h.sourced).throughout asksBelow_of_none below

/-- A moderate server was moderate before, as its earlier answers are among the later ones. -/
theorem moderate_of_grows (grows : run.events <+: after.events)
    (h : Moderate setup (requests after.events) turns) :
    Moderate setup (requests run.events) turns := by
  obtain ⟨work, events⟩ := grows
  rw [← events, requests_append] at h
  generalize requests run.events = asked at h
  induction asked generalizing turns with
  | nil => trivial
  | cons request asked ih => exact ⟨h.1, ih h.2⟩

/-- **A round trip to a moderate server stays within the limit**: it asks for no more than is left,
and gets no more than it asks for. -/
theorem Bounded.trip (h : Bounded setup run) (hlimit : setup.limit ≠ 0)
    (hmin : setup.limit ≠ Int32.minValue) (delivery : Delivery setup first turns given run)
    (unreached : limitReached setup run.state = false) {source : Source} {cursor : ServerCursor}
    {outcome : Outcome α Unit} (trip : Trip setup source cursor run outcome)
    (moderate : Moderate setup (requests outcome.run.events) turns) :
    Bounded setup outcome.run := by
  have size := natAbs_le_of_ne_minValue hmin
  have within := h.within
  have below : received run.events < setup.limit.toInt.natAbs := by
    have left := (limitReached_eq_false delivery.count).mp unreached hlimit
    omega
  have bounds (connection : Connection) : 1 ≤ asks setup connection run.state ∧
      asks setup connection run.state + received run.events ≤ setup.limit.toInt.natAbs :=
    asks_bounds connection hmin delivery.count below
  have allowed (connection : Connection) (before : List (Event α))
      (same : received before = received run.events) :
      AsksWithin setup before (.send connection.number
        (fetchRequest setup connection source cursor run.state)) := by
    intro n asked
    rw [Event.asked?_send, asked?_fetchRequest] at asked
    obtain rfl : asks setup connection run.state = n := by simpa using asked
    have bounds := bounds connection
    rw [same, toInt_counted]
    omega
  cases trip with
  | refused result listed state quietly =>
    refine ⟨?_, quietly.throughout asksWithin_of_none h.asking⟩
    rw [received, quietly.accepted_eq]
    exact within
  | @failed error connection pinned result missed state exchanged =>
    refine ⟨?_, exchanged.throughout asksWithin_of_none (allowed connection) (by simp) h.asking⟩
    rw [exchanged.received_eq]
    exact within
  | @brought connection reply pinned live closed got state exchanged =>
    refine ⟨?_, exchanged.throughout asksWithin_of_none (allowed connection) (by simp) h.asking⟩
    -- The request was the last one so far, and the reply is the server's answer to it.
    rw [exchanged.requests_concat rfl, moderate_concat, ← delivery.left] at moderate
    have bounds := bounds connection
    have few : reply.documents.length ≤ asks setup connection run.state := by
      have brought := documents?_fetchRequest setup connection source cursor run.state
        (run.fetchTurn setup.ns).response
      rw [got] at brought
      exact moderate.2 _ (asked?_fetchRequest ..) _ brought (by omega)
    rw [exchanged.received_eq]
    have gained : received [(.send connection.number
        (fetchRequest setup connection source cursor run.state) : Event α),
          .accept reply.documents reply.cursor] = reply.documents.length := by
      simp [Event.accepted?]
    omega

/-- **Every step stays within the limit** if the server is moderate in its answers up to then. -/
theorem Step.bounded (hlimit : setup.limit ≠ 0) (hmin : setup.limit ≠ Int32.minValue)
    (delivery : Delivery setup first turns given run) (h : Bounded setup run)
    (step : Step setup run here after) (moderate : Moderate setup (requests after.events) turns) :
    Bounded setup after := by
  cases step with
  | shut | resize | deny | lack | hand => exact ⟨h.within, h.asking⟩
  | fetch isOpen empty unreached live =>
    obtain ⟨source, cursor, -, trip⟩ := getMore_trip setup delivery.sourced live
    exact h.trip hlimit hmin delivery unreached trip moderate
  | finish closed unfinished =>
    have quietly := finish_quietly setup delivery.sourced
    refine ⟨?_, quietly.throughout asksWithin_of_none h.asking⟩
    rw [received, quietly.accepted_eq]
    exact h.within

/-! ## Paths -/

/-- Documents are asked for only below the limit along a path. -/
theorem Path.asksBelow (hlimit : setup.limit ≠ 0) (h : Delivery setup first turns given run)
    (below : Throughout (AsksBelow setup) run.events) (path : Path setup run here after) :
    Throughout (AsksBelow setup) after.events :=
  path.invariant_of_delivery (P := fun run => Throughout (AsksBelow setup) run.events)
    (fun delivery step below => step.asksBelow hlimit delivery below) h below

/-- The limit is not exceeded along a path if the server is moderate in its answers up to the end of
it. -/
theorem Path.bounded (hlimit : setup.limit ≠ 0) (hmin : setup.limit ≠ Int32.minValue)
    (delivery : Delivery setup first turns given run) (h : Bounded setup run)
    (path : Path setup run here after) (moderate : Moderate setup (requests after.events) turns) :
    Bounded setup after := by
  induction path generalizing given with
  | nil run => exact h
  | cons step rest ih =>
    have next := step.delivery delivery
    -- The server is moderate over the whole path, and so it is after this step.
    have still := moderate_of_grows (rest.grows next.sourced) moderate
    exact ih next (step.bounded hlimit hmin delivery h still) moderate

/-- Nothing was asked for when a cursor was just made, so that what is said of requests holds. -/
theorem Made.throughout {P : List (Event α) → Event α → Prop} {batchSize : Int32}
    {first : Reply α} {source : Option Source} {script : Script}
    (h : Made setup batchSize first source script run)
    (hP : ∀ before event, event.asked? = none → P before event) : Throughout P run.events := by
  refine h.quietly.throughout hP ?_
  rw [events_absorb]
  refine throughout_of_asked?_eq (fun event listed => ?_) hP
  cases source <;> simp [started] at listed
  · rw [listed, Event.asked?_accept]
  · obtain rfl | rfl := listed <;> rfl

/-- The first batch is what a cursor that was just made received:
`received run.events = first.documents.length`. -/
theorem Made.received_eq {batchSize : Int32} {first : Reply α} {source : Option Source}
    {script : Script} (h : Made setup batchSize first source script run) :
    received run.events = first.documents.length := by
  rw [received, h.quietly.accepted_eq, ← received, events_absorb]
  cases source <;> simp [started, Event.accepted?]

/-! ## Whole lives -/

namespace Life

/-- **The limit is respected** over the whole life of a cursor, whatever the batch sizes. No
documents are asked for once the count has reached the limit, whatever the server returns. If the
server is `Moderate` and the first batch within the limit, every request is for at least one
document and for no more than are left, and neither what is counted nor what is handed out exceeds
the limit. The least number, whose absolute value no count reaches, is left out there. -/
theorem limit_respected (first : Reply α) (options : Options)
    (decode : Document → Except DecodeError α) (source : Option Source)
    (connection : Option Connection) (script : Script) (calls : List Call)
    (hok : (begin first options decode source connection script).1 = .ok ())
    (hlimit : options.limit ≠ 0) :
    let made := (begin first options decode source connection script).2
    let after := performAll calls made
    let run := after.2.run
    let limit := options.limit.toInt.natAbs
    run.state.count = counted (received run.events) ∧
      Throughout (fun before event => event.asked?.isSome →
        (counted (received before)).toInt < limit) run.events ∧
      (options.limit ≠ Int32.minValue → first.documents.length ≤ limit →
        Moderate made.setup (requests run.events) script.fetches →
        run.state.count.toInt ≤ limit ∧
          Throughout (fun before event => ∀ n, event.asked? = some n →
            1 ≤ n ∧ n + (counted (received before)).toInt ≤ limit) run.events ∧
          (handedOut (allGiven after.1)).flatten.length ≤ limit) := by
  intro made
  have same : made.setup.limit = options.limit := rfl
  have fresh : Made made.setup options.batchSize first source script made.run := made_of_ok hok
  clear_value made
  rw [← same] at hlimit ⊢
  intro after run limit
  have path : Path made.setup made.run (allGiven after.1) run :=
    performAll_path calls fresh.sourced
  have start := fresh.delivery
  have delivery := path.delivery start
  rw [List.nil_append] at delivery
  refine ⟨delivery.count, ?_, fun hmin few moderate => ?_⟩
  · exact path.asksBelow hlimit start (fresh.throughout asksBelow_of_none)
  · have opening : Bounded made.setup made.run :=
      ⟨by rw [fresh.received_eq]; exact few, fresh.throughout asksWithin_of_none⟩
    have bounded := path.bounded hlimit hmin start opening moderate
    have within : received run.events ≤ limit := bounded.within
    refine ⟨?_, bounded.asking, ?_⟩
    · rw [delivery.count, toInt_counted]
      omega
    · -- What was handed out is a part of what was received.
      obtain ⟨rest, whole⟩ := delivery.part
      have total := congrArg (·.flatten.length) whole
      simp only [flatten_nonempty, List.flatten_append, List.length_append] at total
      rw [received] at within
      omega

/-- With a limit of three and a batch size of five, two documents are asked for after the first
one, and one after the second. -/
theorem limit_respected_three :
    let turns := [Small.turn [2] 7, Small.turn [3] 7]
    let made := begin (Small.first [1] 7) { limit := 3, batchSize := 5 } Small.decode
      (some (Small.source 5)) none ⟨[], turns, []⟩
    let after := performAll [.nextBatch, .nextBatch, .nextBatch] made.2
    (requests after.2.run.events).map Request.asked? = [some 2, some 1] ∧
      Moderate made.2.setup (requests after.2.run.events) turns ∧
      after.2.run.state.count.toInt ≤ (3 : Int32).toInt.natAbs := by
  refine ⟨by decide +kernel, by decide +kernel, ?_⟩
  have respected := limit_respected (Small.first [1] 7) { limit := 3, batchSize := 5 } Small.decode
    (some (Small.source 5)) none ⟨[], [Small.turn [2] 7, Small.turn [3] 7], []⟩
    [.nextBatch, .nextBatch, .nextBatch] rfl (by decide)
  exact (respected.2.2 (by decide) (by decide) (by decide +kernel)).1

end Life

end DocumentCursor.Cursor
