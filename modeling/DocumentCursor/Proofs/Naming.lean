import DocumentCursor.Proofs.EventReadings

/-! # What requests are about

A request asks for more of one cursor, by its number, or it kills cursors. A list of events says
which cursor was reported last and which kills were sent.

* **`Request.continues?`** and **`Request.kills?`** are the cursors that a request is about.
* **`Request.killed`** is what the answer to a kill says, and **`killResults`** for several kills.
* **`reported`** is the cursor of the reply that was taken over last, and **`kills`** are the kills
  that were sent.
-/

namespace DocumentCursor

/-- The value as an integer of any size, or none if it is no integer. -/
def Value.integer? : Value → Option Int
  | integer n => some n
  | _ => none

namespace Request

/-- The number of the cursor that a request asks more of; none if it does not ask for documents. A
command names it in its field `getMore`. -/
def continues? : Request → Option Int
  | getMore _ id _ => some id.toInt
  | command _ document _ _ _ => (document.get? "getMore").bind Value.integer?
  | killCursors _ _ => none

/-- The numbers of the cursors that a request kills; none if it does not kill any. A command lists
them in its field `cursors`. -/
def kills? : Request → Option (List Int)
  | getMore _ _ _ => none
  | command _ document _ _ _ =>
    if (document.get? "killCursors").isSome then
      ((document.get? "cursors").bind Value.array?).map (·.filterMap Value.integer?)
    else none
  | killCursors _ ids => some (ids.map (·.toInt))

/-- What the answer to a kill says, read in the protocol of the request. -/
def killed (request : Request) (response : Response Unit) : Except CursorError Unit :=
  match request with
  | command .. =>
    ((response.toCommand fun _ => killedReply).bind Cursor.checked).map fun _ => ()
  | _ => response.toKillCursors

end Request

/-- The command for the next batch names its cursor in the field `getMore`. -/
theorem get?_getMoreCommand (command : GetMoreCommand) :
    command.document.get? "getMore" = some (.integer command.cursorId.toInt) := by
  simp [GetMoreCommand.document, Document.get?]

/-- The command for the next batch kills nothing: it has no field `killCursors`. -/
theorem get?_killCursors_getMoreCommand (command : GetMoreCommand) :
    command.document.get? "killCursors" = none := by
  by_cases hb : Saturating.abs command.batchSize = 0 <;>
    by_cases hm : command.maxTimeMs = 0 <;>
      simp [GetMoreCommand.document, Document.get?, List.lookup_cons, hb, hm]

namespace Cursor

variable {α : Type}

section Requests

variable (setup : Setup α) (connection : Connection) (source : Source) (cursor : ServerCursor)
  (state : State α) (id : Int64)

/-- A fetch asks for more of its cursor, in either protocol. -/
@[simp] theorem continues?_fetchRequest :
    (fetchRequest setup connection source cursor state).continues? = some cursor.id.toInt := by
  unfold fetchRequest
  split
  · simp [Request.continues?, get?_getMoreCommand, Value.integer?]
  · rfl

/-- A fetch kills nothing, in either protocol. -/
@[simp] theorem kills?_fetchRequest :
    (fetchRequest setup connection source cursor state).kills? = none := by
  unfold fetchRequest
  split
  · simp [Request.kills?, get?_killCursors_getMoreCommand]
  · rfl

/-- A kill asks for nothing, in either protocol. -/
@[simp] theorem continues?_killRequest :
    (killRequest setup connection source id).continues? = none := by
  unfold killRequest
  split <;>
    simp [Request.continues?, KillCursorsCommand.document, Document.get?, List.lookup_cons]

/-- A kill is about one cursor: `kills? = some [id.toInt]`, in either protocol. -/
@[simp] theorem kills?_killRequest :
    (killRequest setup connection source id).kills? = some [id.toInt] := by
  unfold killRequest
  split <;> rfl

/-- What is read in the answer to a kill is what it says: `killed` of the request is the `readKill`
of its connection. -/
theorem killed_killRequest (response : Response Unit) :
    (killRequest setup connection source id).killed response = readKill connection response := by
  unfold killRequest readKill
  split <;> rfl

end Requests

/-! ## Readings of events -/

namespace Event

/-- A request that kills cursors, read off a `send` event. -/
def kill? : Event α → Option Request
  | send _ request => if request.kills?.isSome then some request else none
  | _ => none

/-- The cursor that a reply reports which was taken over. -/
def reported? : Event α → Option (Option ServerCursor)
  | accept _ cursor => some cursor
  | _ => none

@[simp] theorem kill?_send (number : Nat) (request : Request) :
    (send number request : Event α).kill? =
      if request.kills?.isSome then some request else none := rfl

@[simp] theorem kill?_accept (documents : List α) (cursor : Option ServerCursor) :
    (accept documents cursor).kill? = none := rfl

@[simp] theorem kill?_release : (release : Event α).kill? = none := rfl

@[simp] theorem kill?_acquire (number : Nat) : (acquire number : Event α).kill? = none := rfl

@[simp] theorem kill?_acquireFailed : (acquireFailed : Event α).kill? = none := rfl

@[simp] theorem kill?_giveUp (number : Nat) : (giveUp number : Event α).kill? = none := rfl

end Event

/-- The kills that were sent, in order. -/
def kills (events : List (Event α)) : List Request := events.filterMap (·.kill?)

/-- **The cursor that was reported last**; none if the last reply that was taken over was the last
one of its cursor. Only `accept` events report, so that a reply that could not be decoded reports
nothing. -/
def reported (events : List (Event α)) : Option ServerCursor :=
  (events.filterMap (·.reported?)).getLast?.join

section Readings

variable (event : Event α) (events others : List (Event α))

@[simp] theorem kills_nil : kills ([] : List (Event α)) = [] := rfl

@[simp] theorem kills_cons : kills (event :: events) = event.kill?.toList ++ kills events := by
  cases h : event.kill? <;> simp [kills, h]

@[simp] theorem kills_append : kills (events ++ others) = kills events ++ kills others :=
  List.filterMap_append

/-- The last report stays the last one while no reply is taken over:
`reported (events ++ others) = reported events`. -/
theorem reported_append (h : ∀ event ∈ others, event.reported? = none) :
    reported (events ++ others) = reported events := by
  have none : others.filterMap (·.reported?) = [] := List.filterMap_eq_nil_iff.mpr h
  rw [reported, List.filterMap_append, none, List.append_nil]
  rfl

/-- A reply that is taken over reports the last cursor, until another one is. -/
theorem reported_append_accept (documents : List α) (cursor : Option ServerCursor)
    (h : ∀ event ∈ others, event.reported? = none) :
    reported (events ++ .accept documents cursor :: others) = cursor := by
  rw [← List.singleton_append, ← List.append_assoc, reported_append _ _ h]
  simp [reported, Event.reported?]

end Readings

/-- **What the answers to kills say**, in order. After the last answer of the script every further
kill succeeds. -/
def killResults : List Request → List (Turn Unit) → List (Except CursorError Unit)
  | [], _ => []
  | request :: requests, turns =>
    request.killed (turns.headD ⟨.success (), false⟩).response :: killResults requests turns.tail

/-- One more kill is answered by the next answer, at the place `requests.length` in `turns`. -/
theorem killResults_concat (requests : List Request) (request : Request)
    (turns : List (Turn Unit)) :
    killResults (requests ++ [request]) turns = killResults requests turns ++
      [request.killed ((turns.drop requests.length).headD ⟨.success (), false⟩).response] := by
  induction requests generalizing turns with
  | nil => simp [killResults]
  | cons first requests ih =>
    rw [List.cons_append, killResults, killResults, ih, List.cons_append, List.length_cons,
      ← List.drop_tail]

end Cursor

end DocumentCursor
