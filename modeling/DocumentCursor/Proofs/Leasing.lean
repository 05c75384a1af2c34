import DocumentCursor.Proofs.Closing

/-! # Connections that a cursor holds

A cursor takes a connection from its source for each thing that it has to say, and gives it up when
that is said. With `exhaust` it keeps one for all batches. Either way every connection is given up
once, and the cursor never holds two.

* **`held`**: the connections that were handed out and not given up.
* **`Orderly`**: when a connection may be taken, used and given up.
* **`Leased`**: what is held between calls is the connection that is kept.
* **`connections_leased`**: so it is in every life of a cursor.
-/

namespace DocumentCursor.Cursor

open Net

variable {α : Type} {setup : Setup α} {run after : Run α}

/-! ## Readings of events -/

namespace Event

/-- The number of a connection that was given up, read off a `giveUp` event. -/
def givenUp? : Event α → Option Nat
  | giveUp number => some number
  | _ => none

/-- The number of a connection on which documents were asked for, read off a `send` event. -/
def fetcher? : Event α → Option Nat
  | send number request => if request.continues?.isSome then some number else none
  | _ => none

/-- The connections that are held after an event, if the given ones were held before it: `acquire`
adds one and `giveUp` takes one away. -/
def hold (held : List Nat) : Event α → List Nat
  | acquire number => number :: held
  | giveUp number => held.erase number
  | _ => held

/-- Whether an event is of no matter for the connections that are held: none is handed out, given up
or asked for documents. -/
def isIdle (event : Event α) : Bool :=
  event.acquired?.isNone && event.givenUp?.isNone && event.fetcher?.isNone

end Event

/-- The connections that were given up, in order. -/
def givenUp (events : List (Event α)) : List Nat := events.filterMap (·.givenUp?)

/-- The connections on which documents were asked for, request by request. -/
def fetchers (events : List (Event α)) : List Nat := events.filterMap (·.fetcher?)

/-- **The connections that are held**: those that were handed out and not given up, the newest
first. -/
def held (events : List (Event α)) : List Nat := events.foldl Event.hold []

section Readings

variable (event : Event α) (events others : List (Event α))

@[simp] theorem held_nil : held ([] : List (Event α)) = [] := rfl

@[simp] theorem held_append : held (events ++ others) = others.foldl Event.hold (held events) :=
  List.foldl_append

@[simp] theorem givenUp_nil : givenUp ([] : List (Event α)) = [] := rfl

@[simp] theorem givenUp_cons :
    givenUp (event :: events) = event.givenUp?.toList ++ givenUp events := by
  cases h : event.givenUp? <;> simp [givenUp, h]

@[simp] theorem fetchers_nil : fetchers ([] : List (Event α)) = [] := rfl

@[simp] theorem fetchers_cons :
    fetchers (event :: events) = event.fetcher?.toList ++ fetchers events := by
  cases h : event.fetcher? <;> simp [fetchers, h]

@[simp] theorem fetchers_append :
    fetchers (events ++ others) = fetchers events ++ fetchers others :=
  List.filterMap_append

end Readings

section Idle

variable {connection : Connection} {source : Source} {cursor : ServerCursor}

@[simp] theorem Event.isIdle_retain : (retain : Event α).isIdle = true := rfl

@[simp] theorem Event.isIdle_release : (release : Event α).isIdle = true := rfl

@[simp] theorem Event.isIdle_acquireFailed : (acquireFailed : Event α).isIdle = true := rfl

@[simp] theorem Event.isIdle_accept (documents : List α) (next : Option ServerCursor) :
    (accept documents next).isIdle = true := rfl

@[simp] theorem isIdle_killing :
    (killing setup connection source cursor : Event α).isIdle = true := by
  simp [killing, Event.isIdle, Event.acquired?, Event.givenUp?, Event.fetcher?]

end Idle

/-- An idle event leaves what is held: `event.hold held = held`. -/
theorem Event.hold_of_isIdle {event : Event α} (h : event.isIdle = true) (held : List Nat) :
    event.hold held = held := by
  cases event <;> first | rfl | exact absurd h (by simp [isIdle, acquired?, givenUp?])

/-- Idle events leave what is held, hand out nothing and ask for nothing: `acquired events = []` and
`fetchers events = []`. -/
theorem idle_events {events : List (Event α)} (h : ∀ event ∈ events, event.isIdle = true) :
    (∀ held, events.foldl Event.hold held = held) ∧ acquired events = [] ∧
      fetchers events = [] := by
  have idle (event : Event α) (listed : event ∈ events) :
      event.acquired? = none ∧ event.fetcher? = none := by
    have here := h event listed
    simp only [Event.isIdle, Bool.and_eq_true, Option.isNone_iff_eq_none] at here
    exact ⟨here.1.1, here.2⟩
  refine ⟨fun held => ?_, List.filterMap_eq_nil_iff.mpr fun event listed => (idle event listed).1,
    List.filterMap_eq_nil_iff.mpr fun event listed => (idle event listed).2⟩
  clear idle
  induction events with
  | nil => rfl
  | cons event events ih =>
    rw [List.foldl_cons, Event.hold_of_isIdle (h event (by simp))]
    exact ih fun other listed => h other (List.mem_cons_of_mem event listed)

/-- Only connections that were handed out are held: `held events` are among `acquired events`. -/
theorem mem_acquired_of_mem_held {events : List (Event α)} {number : Nat}
    (h : number ∈ held events) : number ∈ acquired events := by
  have all (events : List (Event α)) (start : List Nat)
      (h : number ∈ events.foldl Event.hold start) : number ∈ start ∨ number ∈ acquired events := by
    induction events generalizing start with
    | nil => exact Or.inl h
    | cons event events ih =>
      rw [acquired_cons, List.mem_append]
      obtain here | later := ih _ h
      · cases event with
        | acquire other =>
          refine (List.mem_cons.mp here).elim (fun same => Or.inr (Or.inl ?_)) Or.inl
          simp [Event.acquired?, same]
        | giveUp other => exact Or.inl (List.mem_of_mem_erase here)
        | retain | release | acquireFailed | send | accept => exact Or.inl here
      · exact Or.inr (Or.inr later)
  exact (all events [] h).resolve_left List.not_mem_nil

/-! ## Order -/

/-- **When a connection may be taken, used and given up.** One is taken only when none is held, and
never twice. Documents are asked for on the one that is held, `held before = [number]`. What is
given up is held, if it was taken at all. -/
structure Orderly (before : List (Event α)) (event : Event α) : Prop where
  takes : ∀ number, event.acquired? = some number → number ∉ acquired before ∧ held before = []
  asks : ∀ number, event.fetcher? = some number → held before = [number]
  givesUp : ∀ number, event.givenUp? = some number → number ∈ acquired before →
    number ∈ held before

/-- A new connection may be taken when none is held: `.acquire number` is in order if `number` is
fresh. -/
theorem Orderly.acquire {before : List (Event α)} {number : Nat} (fresh : number ∉ acquired before)
    (empty : held before = []) : Orderly before (.acquire number) := by
  refine ⟨?_, by simp [Event.fetcher?], by simp [Event.givenUp?]⟩
  rintro other ⟨⟩
  exact ⟨fresh, empty⟩

/-- A connection that is held may be given up, and so may one that was never taken, like the one
that a caller supplies. -/
theorem Orderly.giveUp {before : List (Event α)} {number : Nat}
    (there : number ∈ acquired before → number ∈ held before) :
    Orderly before (.giveUp number) := by
  refine ⟨by simp [Event.acquired?], by simp [Event.fetcher?], ?_⟩
  rintro other ⟨⟩
  exact there

/-- Idle events are in order, whatever was before them. -/
theorem Orderly.of_isIdle {event : Event α} (h : event.isIdle = true) (before : List (Event α)) :
    Orderly before event := by
  simp only [Event.isIdle, Bool.and_eq_true, Option.isNone_iff_eq_none] at h
  obtain ⟨⟨takes, givesUp⟩, asks⟩ := h
  exact ⟨by simp [takes], by simp [asks], by simp [givesUp]⟩

/-- Idle events are in order one after the other, whatever was before them. -/
theorem orderly_idle {events : List (Event α)} (h : ∀ event ∈ events, event.isIdle = true)
    {before : List (Event α) → List (Event α)} :
    Throughout (fun here => Orderly (before here)) events := by
  rintro here event later rfl
  exact .of_isIdle (h event (by simp)) _

/-- An event in order moves a connection from what is held to what was given up, or leaves it: the
sum of the two counts of `number` stays. -/
theorem Orderly.moves {before : List (Event α)} {event : Event α} (h : Orderly before event)
    {number : Nat} (taken : number ∈ acquired before) :
    event.givenUp?.toList.count number + (event.hold (held before)).count number =
      (held before).count number := by
  cases event with
  | acquire other =>
    have fresh : other ≠ number := fun same => (h.takes other rfl).1 (same ▸ taken)
    simp [Event.givenUp?, Event.hold, fresh]
  | giveUp other =>
    by_cases same : other = number
    · subst same
      have there := List.count_pos_iff.mpr (h.givesUp other rfl taken)
      simp only [Event.givenUp?, Event.hold, Option.toList_some, List.count_singleton_self,
        List.count_erase_self]
      omega
    · simp [Event.givenUp?, Event.hold, List.count_erase_of_ne (Ne.symm same), same]
  | retain | release | acquireFailed | send | accept => simp [Event.givenUp?, Event.hold]

/-- **Each connection is given up once**, unless it is still held: after its `.acquire` the two
counts make `1`. -/
theorem givenUp_once {before later : List (Event α)} {number : Nat}
    (h : Throughout Orderly (before ++ .acquire number :: later)) :
    (givenUp later).count number + (held (before ++ .acquire number :: later)).count number =
      1 := by
  -- Every event after the first one moves what is held to what was given up.
  have all (later before : List (Event α)) (taken : number ∈ acquired before)
      (h : Throughout (fun here => Orderly (before ++ here)) later) :
      (givenUp later).count number + (held (before ++ later)).count number =
        (held before).count number := by
    induction later generalizing before with
    | nil => simp
    | cons event later ih =>
      rw [throughout_cons, List.append_nil] at h
      obtain ⟨here, rest⟩ := h
      have rest := ih (before ++ [event]) (by simp [taken])
        (by simpa only [List.append_assoc, List.singleton_append] using rest)
      rw [List.append_assoc, List.singleton_append, held_append before [event]] at rest
      have moved := here.moves taken
      rw [givenUp_cons, List.count_append]
      rw [List.foldl_cons, List.foldl_nil] at rest
      omega
  rw [throughout_append, throughout_cons, List.append_nil] at h
  obtain ⟨-, here, rest⟩ := h
  have empty := (here.takes number rfl).2
  have rest := all later (before ++ [.acquire number]) (by simp [Event.acquired?])
    (by simpa only [List.append_assoc, List.singleton_append] using rest)
  rw [List.append_assoc, List.singleton_append, held_append before [.acquire number], empty] at rest
  simpa [Event.hold] using rest

/-! ## What is held between calls -/

/-- The protocol version of the connection with the given number: its own, else that of the source.
Numbers begin at one. -/
def versionOf (source : Option Source) (grants : List Grant) (number : Nat) : Int32 :=
  (((versions grants).drop (number - 1)).headD none).getD ((source.map (·.wireVersion)).getD 0)

/-- The connection with the given number, with the version that the script and the source give
it. -/
def connectionOf (source : Option Source) (grants : List Grant) (number : Nat) : Connection :=
  ⟨number, versionOf source grants number⟩

/-- **What is held between calls is the connection that is kept**, if one is: `held run.events` is
the number of `pinned`. All that a connection is kept for is in `kept`. -/
structure Leased (setup : Setup α) (source : Option Source) (grants : List Grant)
    (run : Run α) : Prop where
  /-- Connections are numbered as they are handed out. -/
  numbers : ∀ number ∈ acquired run.events, number ≤ run.issued
  left : versions run.script.grants = (versions grants).drop run.issued
  origin : ∀ other, run.state.source = some other → source = some other
  orderly : Throughout Orderly run.events
  holds : held run.events = run.state.pinned.toList.map (·.number)
  kept : ∀ connection, run.state.pinned = some connection →
    connection = connectionOf source grants connection.number ∧ setup.exhaust = true ∧
      connection.capability.supportsExhaust = true ∧ run.state.live.isSome ∧
      run.state.finished = false
  /-- If every connection can be kept, documents were asked for on one connection only. -/
  shared : setup.exhaust = true →
    (∀ number ∈ acquired run.events,
      (connectionOf source grants number).capability.supportsExhaust = true) →
    ∀ number ∈ fetchers run.events, (∀ other ∈ fetchers run.events, other = number) ∧
      (run.state.live = none ∨ ∃ connection, run.state.pinned = some connection ∧
        connection.number = number)

section Steps

variable {source : Source} {connection : Connection} {cursor : ServerCursor}
  {result : Except CursorError Unit} {state : State α} {said opening : List (Event α)}
  {origin : Option Source} {grants : List Grant}

/-- Documents are asked for first, by `asking`, and what follows is idle. -/
theorem Said.asks (h : Said setup connection source cursor run result state said) :
    ∃ rest, said = asking setup connection source cursor run :: rest ∧
      ∀ event ∈ rest, event.isIdle = true :=
  h.eq_cons (fun _ _ => rfl) (fun _ => isIdle_killing) rfl

/-- The work of closing is no part of a round trip, and no other source comes with it: `source`
stays, or is let go of. -/
theorem Said.stays (h : Said setup connection source cursor run result state said) :
    state.finished = run.state.finished ∧
      (state.source = run.state.source ∨ state.source = none) := by
  cases h with
  | failed received => exact ⟨rfl, Or.inl rfl⟩
  | @taken reply received last =>
    refine ⟨rfl, ?_⟩
    cases reply.cursor
    · exact Or.inr rfl
    · exact Or.inl rfl
  | gone received names reached read => exact ⟨rfl, Or.inr rfl⟩
  | kept received names reached read => exact ⟨rfl, Or.inl rfl⟩

/-- The connection that was opened is the one that is held, be it kept or new: `held (run.events ++
opening) = [connection.number]`. -/
theorem Leased.held_opening (h : Leased setup origin grants run)
    (opens : Opening source run connection opening) :
    held (run.events ++ opening) = [connection.number] := by
  rw [held_append, h.holds]
  cases opens with
  | kept pinned => simp [pinned]
  | made unpinned number version => simp [unpinned, Event.hold]

/-- A connection is opened in order: its number is new, and none is held when it is taken. -/
theorem Leased.opens (h : Leased setup origin grants run)
    (opens : Opening source run connection opening) :
    Throughout (fun here => Orderly (run.events ++ here)) opening := by
  cases opens with
  | kept pinned => exact throughout_nil
  | made unpinned number version =>
    rw [throughout_singleton, List.append_nil]
    refine .acquire (fun listed => ?_) (by rw [h.holds, unpinned]; rfl)
    have numbers := h.numbers _ listed
    omega

/-- A connection that is opened is the one of its number,
`connectionOf origin grants connection.number`. -/
theorem Leased.opened (h : Leased setup origin grants run) (hs : run.state.source = some source)
    (opens : Opening source run connection opening) :
    connection = connectionOf origin grants connection.number := by
  cases opens with
  | kept pinned => exact (h.kept connection pinned).1
  | made unpinned number version =>
    obtain ⟨issued, wireVersion⟩ := connection
    simp only at number version
    rw [connectionOf, versionOf, number, version, h.origin source hs, nextVersion, h.left]
    rfl

/-- If every connection can be kept, the one that is opened is the one on which documents were asked
for before, since the first of them is kept as long as the server holds a cursor. -/
theorem Leased.fetchers_eq (h : Leased setup origin grants run)
    (hs : run.state.source = some source) (hl : run.state.live = some cursor)
    (opens : Opening source run connection opening) (exhaust : setup.exhaust = true)
    (supports : ∀ number ∈ acquired (run.events ++ opening),
      (connectionOf origin grants number).capability.supportsExhaust = true) :
    (∀ number ∈ fetchers run.events, number = connection.number) ∧
      connection.capability.supportsExhaust = true := by
  have before := h.shared exhaust fun number listed => supports number (by simp [listed])
  refine ⟨fun number listed => ?_, ?_⟩
  · obtain ⟨-, none | ⟨kept, there, rfl⟩⟩ := before number listed
    · exact absurd hl (by simp [none])
    · cases opens with
      | kept pinned => rw [Option.some.inj (there.symm.trans pinned)]
      | made unpinned => exact absurd there (by simp [unpinned])
  · rw [h.opened hs opens]
    cases opens with
    | kept pinned =>
      obtain ⟨same, -, supported, -⟩ := h.kept connection pinned
      rw [← same]
      exact supported
    | made unpinned => exact supports connection.number (by simp [Event.acquired?])

/-- Connections that were opened are numbered as they are handed out, and `versions` are used up as
they are numbered. -/
theorem Leased.numbers_of_works (h : Leased setup origin grants run) {work : List (Event α)}
    (works : Works run after work)
    (next : ∀ number ∈ acquired work, number ≤ run.issued + (acquired work).length) :
    (∀ number ∈ acquired after.events, number ≤ after.issued) ∧
      versions after.script.grants = (versions grants).drop after.issued := by
  refine ⟨fun number listed => ?_, ?_⟩
  · rw [works.events, acquired_append, List.mem_append] at listed
    rw [works.issued]
    obtain before | here := listed
    · have := h.numbers number before
      omega
    · exact next number here
  · rw [works.grants, h.left, List.drop_drop, works.issued]

/-- Idle events that leave the state, but that the cursor may have been closed meanwhile, leave the
connection that is kept. -/
theorem Leased.idle (h : Leased setup origin grants run) {work : List (Event α)} {closed : Bool}
    (works : Works run after work) (idle : ∀ event ∈ work, event.isIdle = true)
    (same : after.state = { run.state with closed }) : Leased setup origin grants after := by
  obtain ⟨still, none, unasked⟩ := idle_events idle
  obtain ⟨numbers, left⟩ := h.numbers_of_works works (by simp [none])
  refine ⟨numbers, left, by rw [same]; exact h.origin, ?_, ?_, by rw [same]; exact h.kept, ?_⟩
  · rw [works.events, throughout_append]
    exact ⟨h.orderly, orderly_idle idle⟩
  · rw [works.events, held_append, still, same, h.holds]
  · rw [works.events, acquired_append, fetchers_append, none, unasked, same, List.append_nil,
      List.append_nil]
    exact h.shared

/-- **What is said on the connection that is held** is in order and leaves it held: documents are
asked for on it once, and nothing else is taken. -/
theorem Said.orderly (h : Said setup connection source cursor run result state said)
    {before : List (Event α)} (opened : held before = [connection.number]) :
    Throughout (fun here => Orderly (before ++ here)) said ∧
      held (before ++ said) = [connection.number] ∧ acquired said = [] ∧
      fetchers said = [connection.number] := by
  obtain ⟨rest, rfl, idle⟩ := h.asks
  obtain ⟨still, none, unasked⟩ := idle_events idle
  refine ⟨?_, ?_, by simp [none, asking, Event.acquired?],
    by simp [unasked, asking, Event.fetcher?]⟩
  · rw [throughout_cons, List.append_nil]
    refine ⟨⟨by simp [asking, Event.acquired?], ?_, by simp [asking, Event.givenUp?]⟩,
      orderly_idle idle⟩
    intro number asked
    obtain rfl : connection.number = number := by simpa [asking, Event.fetcher?] using asked
    exact opened
  · rw [held_append, List.foldl_cons, still, opened]
    rfl

/-- What becomes of the connection that is held is in order: it is kept and still held, or given up
and not. -/
theorem orderly_settling {number : Nat} {before : List (Event α)} (there : held before = [number])
    (kept : Bool) :
    let settling : List (Event α) := if kept then [] else [.giveUp number]
    Throughout (fun here => Orderly (before ++ here)) settling ∧
      held (before ++ settling) = (if kept then [number] else []) ∧ acquired settling = [] ∧
      fetchers settling = [] := by
  cases kept with
  | true => exact ⟨throughout_nil, by simpa using there, rfl, rfl⟩
  | false =>
    have gives :
        Throughout (fun here => Orderly (before ++ here)) [(.giveUp number : Event α)] := by
      rw [throughout_singleton, List.append_nil]
      exact .giveUp fun _ => by simp [there]
    exact ⟨gives, by simp [there, Event.hold], rfl, rfl⟩

/-- **A round trip** leaves the connection that is kept, and no other, in each of the cases of
`Passage`. -/
theorem Leased.passage (h : Leased setup origin grants run) (hs : run.state.source = some source)
    (hl : run.state.live = some cursor) (unfinished : run.state.finished = false)
    {outcome : Outcome α Unit} (passage : Passage setup source cursor run outcome) :
    Leased setup origin grants outcome.run := by
  cases passage with
  | refused unpinned failed same works => exact h.idle works (by simp) same
  | @made connection opening said state opens talk state_eq works =>
    obtain ⟨finished, released⟩ := talk.stays
    obtain ⟨order, spoken, untaken, asked⟩ := talk.orderly (h.held_opening opens)
    obtain ⟨settles, left, returned, unasked⟩ :=
      orderly_settling spoken (keeps setup connection state)
    have taken : ∀ number ∈ acquired opening,
        number ≤ run.issued + (acquired opening).length := by
      cases opens <;> simp_all [Event.acquired?]
    have silent : fetchers opening = [] := by cases opens <;> rfl
    obtain ⟨numbers, versions⟩ := h.numbers_of_works works (by
      rw [acquired_append, acquired_append, untaken, returned, List.append_nil, List.append_nil]
      exact taken)
    have events := works.events
    rw [← List.append_assoc, ← List.append_assoc] at events
    refine ⟨numbers, versions, ?_, ?_, ?_, ?_, ?_⟩
    · rw [state_eq]
      intro other there
      obtain same | gone := released
      · exact h.origin other (same.symm.trans there)
      · exact absurd there (by simp [gone])
    · rw [events, throughout_append, throughout_append, throughout_append]
      exact ⟨⟨⟨h.orderly, h.opens opens⟩, order⟩, settles⟩
    · rw [events, left, state_eq]
      cases keeps setup connection state <;> rfl
    · intro other there
      rw [state_eq] at there ⊢
      cases hk : keeps setup connection state with
      | false => exact absurd there (by simp [hk])
      | true =>
        obtain rfl : connection = other := by simpa [hk] using there
        simp only [keeps, Bool.and_eq_true] at hk
        exact ⟨h.opened hs opens, hk.1.1, hk.1.2, hk.2, finished.trans unfinished⟩
    · rw [events, fetchers_append, fetchers_append, fetchers_append, silent, asked, unasked,
        List.append_nil, List.append_nil, state_eq]
      intro exhaust supports number listed
      obtain ⟨same, supported⟩ := h.fetchers_eq hs hl opens exhaust fun number listed =>
        supports number (by
          rw [acquired_append, acquired_append]
          exact List.mem_append_left _ (List.mem_append_left _ listed))
      have all : ∀ other ∈ fetchers run.events ++ [connection.number],
          other = connection.number := by
        intro other listed
        exact (List.mem_append.mp listed).elim (same other) List.mem_singleton.mp
      obtain rfl := all number listed
      refine ⟨all, ?_⟩
      cases hl : state.live with
      | none => exact Or.inl rfl
      | some next => exact Or.inr ⟨connection, by simp [keeps, exhaust, supported, hl], rfl⟩

/-- **A kill on a connection of its own** takes it in order and gives it up again, so that nothing
is held after it. -/
theorem Discarding.orderly {work before : List (Event α)} (h : Discarding setup run work)
    (empty : held before = []) (numbers : ∀ number ∈ acquired before, number ≤ run.issued) :
    Throughout (fun here => Orderly (before ++ here)) work ∧ held (before ++ work) = [] ∧
      (∀ number ∈ acquired work, number ≤ run.issued + (acquired work).length) ∧
      fetchers work = [] := by
  cases h with
  | idle none => exact ⟨throughout_nil, by simpa using empty, by simp, rfl⟩
  | refused names =>
    have idle : ∀ event ∈ [(.acquireFailed : Event α)], event.isIdle = true := by simp
    obtain ⟨still, none, unasked⟩ := idle_events idle
    exact ⟨orderly_idle idle, by rw [held_append, still, empty], by simp [none], unasked⟩
  | @made connection source cursor held names number =>
    have fresh : connection.number ∉ acquired before := fun listed => by
      have := numbers _ listed
      omega
    refine ⟨?_, ?_, ?_, ?_⟩
    · simp only [throughout_cons, throughout_nil, and_true, List.append_nil]
      exact ⟨.acquire fresh empty, .of_isIdle isIdle_killing _,
        .giveUp fun _ => by simp [empty, killing, Event.hold]⟩
    · simp [empty, killing, Event.hold]
    · simp [killing, Event.acquired?, number]
    · simp [killing, Event.fetcher?]

/-- **The work of closing** gives up the connection that was kept, and leaves none. The one that it
opens for the kill is taken only after that. -/
theorem Leased.closes (h : Leased setup origin grants run) (closes : Closes setup run after) :
    Leased setup origin grants after := by
  obtain ⟨work, discarding, works⟩ := closes.works
  set returned : List (Event α) :=
    run.state.pinned.toList.map fun connection => .giveUp connection.number with hreturned
  have empty : held (run.events ++ returned) = [] := by
    rw [held_append, h.holds, hreturned]
    cases run.state.pinned <;> simp [Event.hold]
  have same : acquired (run.events ++ returned) = acquired run.events := by
    rw [acquired_append, hreturned, acquired_giveUps, List.append_nil]
  obtain ⟨order, nothing, next, unasked⟩ := discarding.orderly empty
    (by rw [same]; exact h.numbers)
  have idle : ∀ event ∈ (if run.state.live.isSome then [(.release : Event α)] else []),
      event.isIdle = true := by
    split <;> simp
  obtain ⟨still, none, unheard⟩ := idle_events idle
  obtain ⟨numbers, left⟩ := h.numbers_of_works works (by
    rw [acquired_append, acquired_append, none, hreturned, acquired_giveUps, List.nil_append,
      List.append_nil]
    exact next)
  have events := works.events
  rw [← List.append_assoc, ← List.append_assoc] at events
  refine ⟨numbers, left, by simp [closes.state], ?_, ?_, by simp [closes.state], ?_⟩
  · rw [events, throughout_append, throughout_append, throughout_append]
    refine ⟨⟨⟨h.orderly, ?_⟩, order⟩, orderly_idle idle⟩
    rw [hreturned]
    cases kept : run.state.pinned with
    | none => exact throughout_nil
    | some connection =>
      rw [Option.toList_some, List.map_singleton, throughout_singleton, List.append_nil]
      exact .giveUp fun _ => by simp [h.holds, kept]
  · rw [events, held_append, nothing, still, closes.state]
    rfl
  · have asked : fetchers after.events = fetchers run.events := by
      have unasked' : fetchers returned = [] :=
        List.filterMap_eq_nil_iff.mpr (by simp [hreturned, Event.fetcher?])
      rw [events, fetchers_append, fetchers_append, fetchers_append, unasked', unasked, unheard,
        List.append_nil, List.append_nil, List.append_nil]
    rw [asked, closes.state]
    intro exhaust supports number listed
    refine ⟨(h.shared exhaust (fun other there => supports other ?_) number listed).1, Or.inl rfl⟩
    rw [events, acquired_append, acquired_append, same]
    exact List.mem_append_left _ (List.mem_append_left _ there)

/-- **Every step leaves the connection that is kept, and no other**: `Leased` is an invariant. -/
theorem Step.leased {first : List α} {turns : List (Turn Batch)} {given here : List (Output α)}
    (delivery : Delivery setup first turns given run) (h : Leased setup origin grants run)
    (step : Step setup run here after) : Leased setup origin grants after := by
  cases step with
  | shut | resize | deny | lack | hand =>
    exact ⟨h.numbers, h.left, h.origin, h.orderly, h.holds, h.kept, h.shared⟩
  | fetch isOpen empty unreached live =>
    obtain ⟨source, cursor, hs, hl, passage⟩ := exists_passage setup delivery.sourced live
    have unfinished : run.state.finished = false := by
      cases hf : run.state.finished with
      | true => exact absurd (delivery.ended hf).1 (by simp [hl])
      | false => rfl
    exact h.passage hs hl unfinished passage
  | finish closed unfinished =>
    exact h.closes (finish_closes setup delivery.sourced closed unfinished)

/-- What is held along a path is the connection that is kept, and no other. -/
theorem Path.leased {first : List α} {turns : List (Turn Batch)} {given here : List (Output α)}
    (delivery : Delivery setup first turns given run) (h : Leased setup origin grants run)
    (path : Path setup run here after) : Leased setup origin grants after :=
  path.invariant_of_delivery (fun delivery step leased => step.leased delivery leased) delivery h

/-- **A connection that is kept stays until the server's cursor is gone**: no step gives it up
before, and none puts another in its place. -/
theorem Step.keeps {given : List (Output α)} (sourced : Sourced run)
    (h : Leased setup origin grants run) (pinned : run.state.pinned = some connection)
    (step : Step setup run given after) :
    after.state.pinned = some connection ∨ after.state.live = none := by
  cases step with
  | shut | resize | deny | lack | hand => exact Or.inl pinned
  | fetch isOpen empty unreached live =>
    obtain ⟨source, cursor, hs, hl, passage⟩ := exists_passage setup sourced live
    cases passage with
    | refused unpinned => exact absurd pinned (by simp [unpinned])
    | @made other opening said state opens talk state_eq works =>
      obtain rfl : connection = other := by
        cases opens with
        | kept there => exact Option.some.inj (pinned.symm.trans there)
        | made unpinned => exact absurd pinned (by simp [unpinned])
      obtain ⟨-, exhaust, supported, -⟩ := h.kept connection pinned
      rw [state_eq]
      cases hl : state.live with
      | none => exact Or.inr rfl
      | some next => exact Or.inl (by simp [Cursor.keeps, exhaust, supported, hl])
  | finish closed unfinished => exact Or.inr (by rw [finish_state setup sourced closed])

/-- A server's cursor that is gone is gone for good: `live = none` stays. -/
theorem Step.gone {given : List (Output α)} (sourced : Sourced run) (gone : run.state.live = none)
    (step : Step setup run given after) : after.state.live = none := by
  cases step with
  | shut | resize | deny | lack | hand => exact gone
  | fetch isOpen empty unreached live => exact absurd live (by simp [gone])
  | finish closed unfinished => rw [finish_state setup sourced closed]

/-- A connection that is kept stays along a path until the server's cursor is gone. -/
theorem Path.keeps {first : List α} {turns : List (Turn Batch)} {given here : List (Output α)}
    (delivery : Delivery setup first turns given run) (h : Leased setup origin grants run)
    (pinned : run.state.pinned = some connection) (path : Path setup run here after) :
    after.state.pinned = some connection ∨ after.state.live = none := by
  have both := path.invariant_of_delivery
    (P := fun run => Leased setup origin grants run ∧
      (run.state.pinned = some connection ∨ run.state.live = none))
    (fun delivery step holds => ⟨step.leased delivery holds.1, ?_⟩) delivery ⟨h, Or.inl pinned⟩
  · exact both.2
  · obtain ⟨leased, pinned | gone⟩ := holds
    · exact step.keeps delivery.sourced leased pinned
    · exact Or.inr (step.gone delivery.sourced gone)

/-! ### What follows of a run that leases in order -/

/-- **A connection is acquired anew, with none in hand, and given up once**: after
`events = before ++ .acquire number :: later` its number stands once among those that `later` gives
up and those that are held at the end, and it stands in only one of the two. -/
theorem Leased.givenUp_once {before later : List (Event α)} {number : Nat}
    (h : Leased setup origin grants run) (split : run.events = before ++ .acquire number :: later) :
    number ∉ acquired before ∧ held before = [] ∧
      (givenUp later).count number + (held run.events).count number = 1 := by
  have order := h.orderly before _ later split
  obtain ⟨fresh, empty⟩ := order.takes number rfl
  refine ⟨fresh, empty, ?_⟩
  rw [split]
  exact Cursor.givenUp_once (split ▸ h.orderly)

/-- `held run.events = []` where no connection is kept. -/
theorem Leased.held_of_unpinned (h : Leased setup origin grants run)
    (unpinned : run.state.pinned = none) : held run.events = [] := by
  rw [h.holds, unpinned]
  rfl

/-- **Nothing is held once the work of closing was done**, since a connection is kept only before
it: `held run.events = []`. -/
theorem Leased.held_of_finished (h : Leased setup origin grants run)
    (finished : run.state.finished = true) : held run.events = [] := by
  refine h.held_of_unpinned (Option.eq_none_iff_forall_ne_some.mpr fun connection kept => ?_)
  have unfinished := (h.kept connection kept).2.2.2.2
  exact absurd (finished.symm.trans unfinished) (by simp)

/-- **Nothing is held once the server's cursor is gone**, since a connection is kept only for it. -/
theorem Leased.held_of_gone (h : Leased setup origin grants run) (gone : run.state.live = none) :
    held run.events = [] := by
  refine h.held_of_unpinned (Option.eq_none_iff_forall_ne_some.mpr fun connection kept => ?_)
  have live := (h.kept connection kept).2.2.2.1
  exact absurd live (by simp [gone])

/-- **Documents are asked for on the connection in hand**: at every request for documents the list
of held connections is the one that the request names. -/
theorem Leased.asks (h : Leased setup origin grants run) :
    Throughout (fun before event => ∀ number, event.fetcher? = some number →
      held before = [number]) run.events :=
  fun before event later split => (h.orderly before event later split).asks

/-- **If every connection can be kept, documents are asked for on one of them**, which was acquired
before. -/
theorem Leased.shares (h : Leased setup origin grants run) (exhaust : setup.exhaust = true)
    (supports : ∀ number ∈ acquired run.events,
      (connectionOf origin grants number).capability.supportsExhaust = true)
    {number : Nat} (asked : number ∈ fetchers run.events) :
    number ∈ acquired run.events ∧ ∀ other ∈ fetchers run.events, other = number := by
  refine ⟨?_, (h.shared exhaust supports number asked).1⟩
  obtain ⟨event, there, fetches⟩ := List.mem_filterMap.mp asked
  obtain ⟨before, later, split⟩ := List.append_of_mem there
  rw [split, acquired_append]
  refine List.mem_append_left _ (mem_acquired_of_mem_held ?_)
  rw [h.asks before event later split number fetches]
  exact List.mem_singleton_self number

/-- **A kept connection stays, or is given up with the server's cursor**: along a path it is still
kept at the end, or the cursor is gone and nothing is held. -/
theorem Path.keeps_or_gives_up {first : List α} {turns : List (Turn Batch)}
    {given here : List (Output α)} (delivery : Delivery setup first turns given run)
    (h : Leased setup origin grants run) (pinned : run.state.pinned = some connection)
    (path : Path setup run here after) :
    after.state.pinned = some connection ∨
      after.state.live = none ∧ held after.events = [] :=
  (path.keeps delivery h pinned).imp_right fun gone =>
    ⟨gone, (path.leased delivery h).held_of_gone gone⟩

end Steps

/-! ## The making of a cursor -/

/-- No connection is taken before the first batch is taken over. -/
theorem started_isIdle (batchSize : Int32) (first : Reply α) (source : Option Source)
    (script : Script) :
    ∀ event ∈ (absorb first (started batchSize source script)).events, event.isIdle = true := by
  rw [events_absorb]
  cases source <;> simp [started]

/-- A cursor that took over its first batch holds no connection, and has used up no grant. -/
theorem started_leased (setup : Setup α) (batchSize : Int32) (first : Reply α)
    (source : Option Source) (script : Script) :
    Leased setup source script.grants (absorb first (started batchSize source script)) := by
  have idle := started_isIdle batchSize first source script
  obtain ⟨still, none, unasked⟩ := idle_events idle
  have order : Throughout (fun here => Orderly here)
      (absorb first (started batchSize source script)).events := orderly_idle idle
  refine ⟨?_, rfl, fun _ same => same, order, still [], nofun, ?_⟩
  · rw [none]
    exact fun _ listed => absurd listed List.not_mem_nil
  · rw [unasked]
    exact fun _ _ _ listed => absurd listed List.not_mem_nil

/-- **The kill after the first batch** takes a connection in order and gives it up again, if none is
given; on a given one it takes nothing. -/
theorem Cutting.orderly {work before : List (Event α)} {given : Option Connection}
    (cuts : Cutting setup run given work) (empty : held before = [])
    (numbers : ∀ number ∈ acquired before, number ≤ run.issued) :
    Throughout (fun here => Orderly (before ++ here)) work ∧ held (before ++ work) = [] ∧
      (∀ number ∈ acquired work, number ≤ run.issued + (acquired work).length) ∧
      fetchers work = [] ∧ (given.isSome → acquired work = []) := by
  cases cuts with
  | unreached | idle => exact ⟨throughout_nil, by simpa using empty, by simp, rfl, fun _ => rfl⟩
  | @supplied connection source cursor reached there names =>
    have idle : ∀ event ∈ [(killing setup connection source cursor : Event α)],
        event.isIdle = true := by simp
    obtain ⟨still, none, unasked⟩ := idle_events idle
    exact ⟨orderly_idle idle, by rw [held_append, still, empty], by simp [none], unasked,
      fun _ => none⟩
  | own reached discards =>
    obtain ⟨order, nothing, next, unasked⟩ := discards.orderly empty numbers
    exact ⟨order, nothing, next, unasked, fun given => absurd given (by simp)⟩

/-! ## Whole lives -/

namespace Life

variable {first : Reply α} {options : Options} {decode : Document → Except DecodeError α}
  {source : Option Source} {connection : Option Connection} {script : Script}

/-- **A cursor that was just made holds no connection**, and the one that its owner gave it is given
up. -/
theorem begin_leased (hok : (begin first options decode source connection script).1 = .ok ()) :
    Leased (Setup.of first options decode) source script.grants
      (begin first options decode source connection script).2.run := by
  obtain ⟨work, cuts, -, works⟩ := begin_works hok
  obtain ⟨live, state, -⟩ := (made_of_ok hok).state
  have start := started_leased (Setup.of first options decode) options.batchSize first source script
  set run := (begin first options decode source connection script).2.run
  obtain ⟨order, nothing, next, unasked, supplied⟩ := cuts.orderly start.holds start.numbers
  have idle : ∀ event ∈ (if run.state.live.isNone && source.isSome then [(.release : Event α)]
      else []), event.isIdle = true := by
    split <;> simp
  obtain ⟨still, none, unheard⟩ := idle_events idle
  obtain ⟨-, before, unheard'⟩ :=
    idle_events (started_isIdle options.batchSize first source script)
  obtain ⟨numbers, left⟩ := start.numbers_of_works works (by
    rw [acquired_append, acquired_append, none, acquired_giveUps, List.append_nil, List.append_nil]
    exact next)
  have events := works.events
  rw [← List.append_assoc, ← List.append_assoc] at events
  have returned (held : List Nat) (empty : held = []) :
      (connection.toList.map fun connection =>
        (.giveUp connection.number : Event α)).foldl Event.hold held = [] := by
    subst empty
    cases connection <;> simp [Event.hold]
  refine ⟨numbers, left, ?_, ?_, ?_, ?_, ?_⟩
  · rw [state]
    intro other there
    cases live with
    | none => exact absurd there (by simp)
    | some cursor => exact there
  · rw [events, throughout_append, throughout_append, throughout_append]
    refine ⟨⟨⟨start.orderly, order⟩, orderly_idle idle⟩, ?_⟩
    cases connection with
    | none => exact throughout_nil
    | some connection =>
      -- The connection that is given was not taken by the cursor.
      rw [Option.toList_some, List.map_singleton, throughout_singleton, List.append_nil]
      refine .giveUp fun listed => ?_
      rw [acquired_append, acquired_append, before, none, supplied rfl] at listed
      exact absurd listed List.not_mem_nil
  · rw [events, held_append, held_append, nothing, still, returned [] rfl, state]
    rfl
  · rw [state]
    exact nofun
  · have returned : fetchers (connection.toList.map fun connection =>
        (.giveUp connection.number : Event α)) = [] :=
      List.filterMap_eq_nil_iff.mpr (by simp [Event.fetcher?])
    rw [events, fetchers_append, fetchers_append, fetchers_append, unheard', unasked, unheard,
      returned]
    exact fun _ _ _ listed => absurd listed List.not_mem_nil

/-- **Every connection is given up once**, over the whole life of a cursor. Between its calls a
cursor holds at most the one that it keeps, `held events = pinned`, which it does only with
`exhaust`, on a connection that supports that, as long as the server holds a cursor; until then
every batch is asked for on it. So if all connections support that, all batches are asked for on one
connection.

The connections are told apart by their numbers: `before` an `.acquire` its number is unused and
nothing is held, and `later` it is given up, unless it is held at the end. -/
theorem connections_leased (first : Reply α) (options : Options)
    (decode : Document → Except DecodeError α) (source : Option Source)
    (connection : Option Connection) (script : Script) (calls : List Call)
    (hok : (begin first options decode source connection script).1 = .ok ()) :
    let made := (begin first options decode source connection script).2
    let life := (performAll calls made).2
    let events := life.run.events
    (∀ before number later, events = before ++ .acquire number :: later →
        number ∉ acquired before ∧ held before = [] ∧
          (givenUp later).count number + (held events).count number = 1) ∧
      (.drop ∈ calls → held events = []) ∧
      held events = life.run.state.pinned.toList.map (·.number) ∧
      (∀ kept, life.run.state.pinned = some kept →
        kept = connectionOf source script.grants kept.number ∧ options.exhaust = true ∧
          kept.capability.supportsExhaust = true ∧ life.run.state.live.isSome ∧
          life.run.state.finished = false) ∧
      Throughout (fun before event => ∀ number, event.fetcher? = some number →
        held before = [number]) events ∧
      (∀ kept, life.run.state.pinned = some kept → ∀ call,
        let after := (life.perform call).2.run
        after.state.pinned = some kept ∨ after.state.live = none ∧ held after.events = []) ∧
      (options.exhaust = true →
        (∀ number ∈ acquired events,
          (connectionOf source script.grants number).capability.supportsExhaust = true) →
        ∀ number ∈ fetchers events, number ∈ acquired events ∧
          ∀ other ∈ fetchers events, other = number) := by
  intro made life events
  have fresh := made_of_ok hok
  have path := performAll_path calls fresh.sourced
  have delivery := path.delivery fresh.delivery
  have leased : Leased made.setup source script.grants life.run :=
    path.leased fresh.delivery (begin_leased hok)
  have same : life.setup = made.setup := setup_performAll calls made
  refine ⟨fun _ _ _ split => leased.givenUp_once split, fun drops => ?_, leased.holds, leased.kept,
    leased.asks, fun kept pinned call => ?_,
    fun exhaust supports _ => leased.shares exhaust supports⟩
  · have finished := finished_of_dropped calls fresh.sourced (by simp [begin]) drops
    exact leased.held_of_finished finished
  · have step := perform_path call delivery.sourced
    exact Path.keeps_or_gives_up delivery leased pinned (same ▸ step)

/-- With `exhaust` all batches are asked for on the one connection, also after a round trip that
failed. The server ends its cursor, and the connection is given up. -/
theorem connections_leased_shared :
    let turns := [Small.turn [2] 7, ⟨.broken .closed, false⟩, Small.turn [3] 0]
    let made := begin (Small.first [1] 7) { exhaust := true } Small.decode (some (Small.source 8))
      none ⟨[], turns, []⟩
    let after := performAll [.nextBatch, .nextBatch, .nextBatch, .nextBatch] made.2
    made.1 = .ok () ∧ fetchers after.2.run.events = [1, 1, 1] ∧
      acquired after.2.run.events = [1] ∧
      held after.2.run.events = after.2.run.state.pinned.toList.map (·.number) :=
  ⟨rfl, by decide +kernel, by decide +kernel, (connections_leased (Small.first [1] 7)
    { exhaust := true } Small.decode (some (Small.source 8)) none _
      [.nextBatch, .nextBatch, .nextBatch, .nextBatch] rfl).2.2.1⟩

end Life

end DocumentCursor.Cursor
