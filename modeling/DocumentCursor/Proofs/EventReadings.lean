import DocumentCursor.Proofs.Exchange

/-! # What a list of events says

A run keeps what has happened between a cursor and the outside, in order. The theorems about runs
are stated in terms of a few readings of such a list:

* **`retains`** and **`releases`** count how often the source was held on to and let go of.
* **`accepted`** and **`received`** are the documents of the replies that were taken over, reply by
  reply and their number.
* **`requests`** are the requests for documents, and **`Request.asked?`** says for how many.
* **`Quiet`** events bring nothing and ask for nothing.
* **`Throughout`** says something of every event and of all that was before it.
-/

namespace DocumentCursor

/-- The number of documents that a request asks for, zero for any number; none if it does not ask
for documents. A command without a batch size asks for any number. -/
def Request.asked? : Request → Option Nat
  | .getMore _ _ number => some number.toInt.natAbs
  | .command _ document _ _ _ =>
    if (document.get? "getMore").isSome then
      match document.get? "batchSize" with
      | some (.integer number) => some number.natAbs
      | _ => some 0
    else none
  | .killCursors _ _ => none

/-- The command for the next batch asks for the absolute value of `command.batchSize`, in whatever
session and with or without `exhaust`. A size of zero is left out of the document, and so reads as
`some 0`. -/
theorem asked?_getMoreCommand (command : GetMoreCommand) (database : String)
    (preference : ReadPreference) (session : Session) (exhaust : Bool) :
    (Request.command database command.document preference session exhaust).asked? =
      some (Saturating.abs command.batchSize).toInt.natAbs := by
  by_cases hb : Saturating.abs command.batchSize = 0 <;>
    by_cases hm : command.maxTimeMs = 0 <;>
      simp [Request.asked?, GetMoreCommand.document, Document.get?, List.lookup_cons, hb, hm]

namespace Cursor

variable {α : Type}

/-- `(killRequest setup connection source id).asked? = none`: a kill asks for no documents, in
either protocol. -/
@[simp] theorem asked?_killRequest (setup : Setup α) (connection : Connection) (source : Source)
    (id : Int64) : (killRequest setup connection source id).asked? = none := by
  unfold killRequest
  split <;> simp [Request.asked?, KillCursorsCommand.document, Document.get?, List.lookup_cons]

/-- The number of documents that a fetch asks for, without its sign. A command says the absolute
value of `numberToReturn`, a binary message the number itself. -/
def asks (setup : Setup α) (connection : Connection) (state : State α) : Nat :=
  let number := numberToReturn setup.limit state.batchSize state.count
  (if connection.capability.supportsCommands then Saturating.abs number else number).toInt.natAbs

/-- A fetch asks for `asks setup connection state` documents, whichever request is sent for it. -/
@[simp] theorem asked?_fetchRequest (setup : Setup α) (connection : Connection) (source : Source)
    (cursor : ServerCursor) (state : State α) :
    (fetchRequest setup connection source cursor state).asked? =
      some (asks setup connection state) := by
  unfold fetchRequest asks
  split
  · rw [asked?_getMoreCommand]
  · rfl

/-! ## Readings of one event -/

namespace Event

/-- Whether the source is held on to. -/
def isRetain : Event α → Bool
  | retain => true
  | _ => false

/-- Whether the source is let go of. -/
def isRelease : Event α → Bool
  | release => true
  | _ => false

/-- The documents of a reply that was taken over, read off an `accept` event. -/
def accepted? : Event α → Option (List α)
  | accept documents _ => some documents
  | _ => none

/-- A request for documents, read off a `send` event. A kill is none. -/
def request? : Event α → Option Request
  | send _ request => if request.asked?.isSome then some request else none
  | _ => none

/-- The number of documents that are asked for in an event, zero for any number. -/
def asked? (event : Event α) : Option Nat := event.request?.bind Request.asked?

@[simp] theorem request?_send (number : Nat) (request : Request) :
    (send number request : Event α).request? =
      if request.asked?.isSome then some request else none := rfl

@[simp] theorem asked?_send (number : Nat) (request : Request) :
    (send number request : Event α).asked? = request.asked? := by
  cases h : request.asked? <;> simp [asked?, h]

@[simp] theorem request?_accept (documents : List α) (cursor : Option ServerCursor) :
    (accept documents cursor).request? = none := rfl

@[simp] theorem asked?_accept (documents : List α) (cursor : Option ServerCursor) :
    (accept documents cursor).asked? = none := rfl

/-- Whether an event neither holds on to the source, nor brings documents, nor asks for them. It may
still let go of the source, open or give up a connection, or send a kill. -/
def isQuiet (event : Event α) : Bool :=
  !event.isRetain && event.accepted?.isNone && event.request?.isNone

end Event

/-! ## Readings of a list of events -/

/-- How often the source was held on to. -/
def retains (events : List (Event α)) : Nat := events.countP (·.isRetain)

/-- How often the source was let go of. -/
def releases (events : List (Event α)) : Nat := events.countP (·.isRelease)

/-- The documents of the replies that were taken over, reply by reply. -/
def accepted (events : List (Event α)) : List (List α) := events.filterMap (·.accepted?)

/-- The number of documents that were taken over. -/
def received (events : List (Event α)) : Nat := (accepted events).flatten.length

/-- The requests for documents. -/
def requests (events : List (Event α)) : List Request := events.filterMap (·.request?)

section Readings

variable (event : Event α) (events others : List (Event α))

@[simp] theorem retains_append : retains (events ++ others) = retains events + retains others :=
  List.countP_append

@[simp] theorem retains_cons :
    retains (event :: events) = (if event.isRetain then 1 else 0) + retains events := by
  rw [retains, List.countP_cons, Nat.add_comm]
  rfl

@[simp] theorem retains_nil : retains ([] : List (Event α)) = 0 := rfl

@[simp] theorem releases_append :
    releases (events ++ others) = releases events + releases others :=
  List.countP_append

@[simp] theorem releases_cons :
    releases (event :: events) = (if event.isRelease then 1 else 0) + releases events := by
  rw [releases, List.countP_cons, Nat.add_comm]
  rfl

@[simp] theorem releases_nil : releases ([] : List (Event α)) = 0 := rfl

@[simp] theorem accepted_append :
    accepted (events ++ others) = accepted events ++ accepted others :=
  List.filterMap_append

@[simp] theorem accepted_cons :
    accepted (event :: events) = event.accepted?.toList ++ accepted events := by
  cases h : event.accepted? <;> simp [accepted, h]

@[simp] theorem accepted_nil : accepted ([] : List (Event α)) = [] := rfl

@[simp] theorem received_append :
    received (events ++ others) = received events + received others := by
  simp [received]

@[simp] theorem received_cons :
    received (event :: events) = (event.accepted?.getD []).length + received events := by
  cases h : event.accepted? <;> simp [received, h]

@[simp] theorem received_nil : received ([] : List (Event α)) = 0 := rfl

@[simp] theorem requests_append :
    requests (events ++ others) = requests events ++ requests others :=
  List.filterMap_append

@[simp] theorem requests_cons :
    requests (event :: events) = event.request?.toList ++ requests events := by
  cases h : event.request? <;> simp [requests, h]

@[simp] theorem requests_nil : requests ([] : List (Event α)) = [] := rfl

end Readings

/-! ## Quiet events -/

/-- **Events that bring nothing and ask for nothing**: each of them `isQuiet`, and `released` of
them let go of the source. -/
structure Quiet (released : Nat) (events : List (Event α)) : Prop where
  isQuiet : ∀ event ∈ events, event.isQuiet = true
  releases_eq : releases events = released

namespace Quiet

variable {m n : Nat} {events others : List (Event α)}

theorem nil : Quiet 0 ([] : List (Event α)) := ⟨by simp, rfl⟩

/-- Quiet events one after the other are quiet, and their releases add up: `Quiet m events` and
`Quiet n others` make `Quiet (m + n) (events ++ others)`. -/
theorem append (h : Quiet m events) (h' : Quiet n others) : Quiet (m + n) (events ++ others) := by
  refine ⟨fun event he => ?_, by rw [releases_append, h.releases_eq, h'.releases_eq]⟩
  obtain he | he := List.mem_append.mp he
  · exact h.isQuiet event he
  · exact h'.isQuiet event he

theorem acquire (number : Nat) : Quiet 0 [(.acquire number : Event α)] := ⟨by simp; rfl, rfl⟩

theorem acquireFailed : Quiet 0 [(.acquireFailed : Event α)] := ⟨by simp; rfl, rfl⟩

theorem giveUp (number : Nat) : Quiet 0 [(.giveUp number : Event α)] := ⟨by simp; rfl, rfl⟩

theorem release : Quiet 1 [(.release : Event α)] := ⟨by simp; rfl, rfl⟩

theorem send (number : Nat) {request : Request} (h : request.asked? = none) :
    Quiet 0 [(.send number request : Event α)] :=
  ⟨by simp [Event.isQuiet, Event.isRetain, Event.accepted?, h], rfl⟩

/-- `retains events = 0`: the source is not held on to in quiet events. -/
theorem retains_eq (h : Quiet n events) : retains events = 0 := by
  rw [retains, List.countP_eq_zero]
  intro event he
  have := h.isQuiet event he
  simp only [Event.isQuiet, Bool.and_eq_true, Bool.not_eq_true'] at this
  simp [this.1.1]

/-- `accepted events = []`: no documents are taken over in quiet events. -/
theorem accepted_eq (h : Quiet n events) : accepted events = [] := by
  rw [accepted, List.filterMap_eq_nil_iff]
  intro event he
  have := h.isQuiet event he
  simp only [Event.isQuiet, Bool.and_eq_true, Option.isNone_iff_eq_none] at this
  exact this.1.2

/-- `received events = 0`: and so none are counted. -/
theorem received_eq (h : Quiet n events) : received events = 0 := by
  rw [received, h.accepted_eq]
  rfl

/-- `requests events = []`: no documents are asked for in quiet events. -/
theorem requests_eq (h : Quiet n events) : requests events = [] := by
  rw [requests, List.filterMap_eq_nil_iff]
  intro event he
  have := h.isQuiet event he
  simp only [Event.isQuiet, Bool.and_eq_true, Option.isNone_iff_eq_none] at this
  exact this.2

/-- `event.asked? = none` for every one of the quiet events. -/
theorem asked?_eq (h : Quiet n events) {event : Event α} (he : event ∈ events) :
    event.asked? = none := by
  have := h.isQuiet event he
  simp only [Event.isQuiet, Bool.and_eq_true, Option.isNone_iff_eq_none] at this
  rw [Event.asked?, this.2]
  rfl

end Quiet

/-! ## Events and what was before them -/

/-- **Every event stands in a relation to what was before it**: `P before event` wherever
`events = before ++ event :: after`. -/
def Throughout (P : List (Event α) → Event α → Prop) (events : List (Event α)) : Prop :=
  ∀ before event after, events = before ++ event :: after → P before event

section Throughout

variable {P : List (Event α) → Event α → Prop} {events others : List (Event α)}

@[simp] theorem throughout_nil : Throughout P [] := by
  intro before event after h
  simp at h

/-- The first event has nothing before it, and all others have it before them, so that the relation
of the rest is `P` after one more event. -/
@[simp] theorem throughout_cons (event : Event α) :
    Throughout P (event :: events) ↔
      P [] event ∧ Throughout (fun before => P (event :: before)) events := by
  constructor
  · -- What is before a later event begins with the first one.
    intro h
    refine ⟨h [] event events rfl, fun before other after he => ?_⟩
    exact h (event :: before) other after (by rw [he]; rfl)
  · rintro ⟨hfirst, hrest⟩ before other after he
    cases before with
    | nil =>
      obtain ⟨rfl, rfl⟩ := List.cons.inj he
      exact hfirst
    | cons first before =>
      obtain ⟨rfl, rest⟩ := List.cons.inj he
      exact hrest before other after rest

/-- A single event has nothing before it. -/
theorem throughout_singleton (event : Event α) : Throughout P [event] ↔ P [] event := by simp

/-- Of two lists one after the other, the events of the second have all of the first before them. -/
@[simp] theorem throughout_append :
    Throughout P (events ++ others) ↔
      Throughout P events ∧ Throughout (fun before => P (events ++ before)) others := by
  induction events generalizing P with
  | nil => simp
  | cons event events ih => simp [ih, and_assoc]

/-- What holds of every event that asks for no documents holds throughout a list of such events,
whatever was before each of them. -/
theorem throughout_of_asked?_eq (h : ∀ event ∈ events, event.asked? = none)
    (hP : ∀ before event, event.asked? = none → P before event) : Throughout P events := by
  rintro before event after rfl
  exact hP before event (h event (by simp))

end Throughout

end Cursor

end DocumentCursor
