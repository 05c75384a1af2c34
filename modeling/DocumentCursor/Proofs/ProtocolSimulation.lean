import DocumentCursor.Proofs.CallPaths
import DocumentCursor.Proofs.FullNames
import DocumentCursor.Proofs.RoundTripEvents
import Mathlib.Data.List.Forall2

/-! # Two runs that speak different protocols

Where a connection has no commands a cursor is asked for and killed by binary messages. This is no
matter for what a cursor does: a run whose connections have no commands and one whose connections do
have them go the same way, step by step, if they are answered alike.

* **`receive_agrees`** and **`readKill_agrees`**: what is read in an answer of either kind.
* **`Twins`**: two runs that differ in their protocol only.
* **`Agreed`**: two outcomes that leave twins, with the same result but for the name of an error.
* **`Twins.close`**, **`getMore_agrees`** and **`next_agrees`**: twins stay twins.
-/

namespace DocumentCursor

open Net

/-! ## Answers of either kind -/

namespace Failure

/-- `int32? (.integer n.toInt) = some n`: a 32-bit integer is read as itself. -/
theorem int32?_integer (n : Int32) : int32? (.integer n.toInt) = some n := by
  have read : (Value.integer n.toInt).int64? = some n.toInt64 := by
    rw [← Int32.toInt_toInt64, Value.int64?_integer]
  rw [int32?, read, Option.bind_some, Int32.toInt_toInt64,
    if_pos ⟨n.minValue_le_toInt, n.toInt_le⟩, Int32.ofInt_toInt]

/-- **A failure that was written as a reply reads back as itself**:
`check failure.reply = .error failure`. -/
theorem check_reply (failure : Failure) : check failure.reply = .error failure := by
  obtain ⟨code, codeName, message⟩ := failure
  have unsuccessful : isSuccess (reply ⟨code, codeName, message⟩) = false := rfl
  have coded : (reply ⟨code, codeName, message⟩).get? "code" = some (.integer code.toInt) := rfl
  have worded : (reply ⟨code, codeName, message⟩).get? "errmsg" = some (.text message) := rfl
  have named : ((reply ⟨code, codeName, message⟩).get? "codeName").bind Value.text? = codeName := by
    cases codeName <;> rfl
  rw [check, ofReply?, unsuccessful, coded, worded, named]
  simp [int32?_integer, Value.text?]

end Failure

namespace Response

variable {σ : Type}

/-- An answer that can be given to either kind of request: a success that `fits`, a refusal, or a
broken connection. A reply document is none, as a message has no place for it. -/
def IsPlain (fits : σ → Prop) : Response σ → Prop
  | success value => fits value
  | reply _ => False
  | failure _ _ => True
  | broken _ => True

end Response

namespace Cursor

variable {α β γ : Type} {setup : Setup α}

/-! ### Connections of either kind -/

/-- A connection of this protocol version has no commands: `version < 4`. -/
def SpeaksMessages (version : Int32) : Prop := version.toInt < 4
  deriving Decidable

/-- A connection of this protocol version has commands, and is not kept for all batches:
`4 ≤ version`, and from `8` on only without `exhaust`. -/
def SpeaksCommands (exhaust : Bool) (version : Int32) : Prop :=
  4 ≤ version.toInt ∧ (8 ≤ version.toInt → exhaust = false)
  deriving Decidable

/-- Two connections with the same number, one without commands and one with them, neither of which
is kept. -/
structure ConnectionTwins (exhaust : Bool) (connection other : Connection) : Prop where
  number : other.number = connection.number
  messages : SpeaksMessages connection.wireVersion
  commands : SpeaksCommands exhaust other.wireVersion

namespace ConnectionTwins

variable {exhaust : Bool} {connection other : Connection}

/-- A connection without commands sends messages: `supportsCommands = false` for it. -/
theorem supportsCommands (h : ConnectionTwins exhaust connection other) :
    connection.capability.supportsCommands = false := by
  have := h.messages
  simp only [SpeaksMessages] at this
  simp only [Connection.capability, Capability.supportsCommands_ofWireVersion,
    decide_eq_false_iff_not]
  omega

/-- A connection with commands sends commands: `supportsCommands = true` for it. -/
theorem other_supportsCommands (h : ConnectionTwins exhaust connection other) :
    other.capability.supportsCommands = true := by
  simp only [Connection.capability, Capability.supportsCommands_ofWireVersion, decide_eq_true_eq]
  exact h.commands.1

/-- A connection without commands is not kept, as it does not support that. -/
theorem keeps_eq_false (h : ConnectionTwins setup.exhaust connection other) (state : State α) :
    keeps setup connection state = false := by
  have := h.messages
  simp only [SpeaksMessages] at this
  have unsupported : connection.capability.supportsExhaust = false := by
    simp only [Connection.capability, Capability.supportsExhaust_ofWireVersion,
      decide_eq_false_iff_not]
    omega
  rw [keeps, unsupported, Bool.and_false, Bool.false_and]

/-- A connection with commands is not kept either, for want of support or of `exhaust`. -/
theorem other_keeps_eq_false (h : ConnectionTwins setup.exhaust connection other)
    (state : State α) : keeps setup other state = false := by
  by_cases new : 8 ≤ other.wireVersion.toInt
  · rw [keeps, h.commands.2 new, Bool.false_and, Bool.false_and]
  · have unsupported : other.capability.supportsExhaust = false := by
      simpa [Connection.capability] using new
    rw [keeps, unsupported, Bool.and_false, Bool.false_and]

end ConnectionTwins

/-! ### What is read -/

/-- An error in decoding is not named with a cursor: `.naming` leaves it as it is. -/
theorem naming_decodeAll (setup : Setup α) (cursor : ServerCursor) (address : Address)
    (documents : List Document) :
    (decodeAll setup documents).mapError (.naming cursor address) = decodeAll setup documents := by
  unfold decodeAll
  induction documents with
  | nil => rfl
  | cons document documents ih =>
    rw [List.mapM_cons]
    cases setup.decode document with
    | error error => rfl
    | ok item =>
      simp only [mapError_ok, bind, Except.bind]
      cases hd : documents.mapM fun document =>
          (setup.decode document).mapError fun error => CursorError.decode error.message with
      | error error =>
        rw [hd] at ih
        exact ih
      | ok items => rfl

variable {connection other : Connection} {source otherSource : Source} {cursor : ServerCursor}

/-- **A fetch is answered alike by either kind of connection.** The same documents and the same
cursor are received, or none, and then the failure of a command is named with the cursor: `error` on
the one side is `error.naming cursor setup.address` on the other. -/
theorem receive_agrees (h : ConnectionTwins setup.exhaust connection other)
    (source otherSource : Source) (cursor : ServerCursor) {response : Response Batch}
    (plain : response.IsPlain fun batch => batch.name = setup.ns.fullName) :
    (∃ error, receive setup connection source cursor response = .error error ∧
        receive setup other otherSource cursor response =
          .error (error.naming cursor setup.address)) ∨
      ∃ reply otherReply, receive setup connection source cursor response = .ok reply ∧
        receive setup other otherSource cursor response = .ok otherReply ∧
        otherReply.documents = reply.documents ∧ otherReply.cursor = reply.cursor := by
  have few := h.supportsCommands
  have many := h.other_supportsCommands
  cases response with
  | success batch =>
    have named := naming_decodeAll setup cursor setup.address batch.documents
    have parsed : Namespace.parse batch.name = .ok setup.ns := by
      rw [show batch.name = _ from plain, Namespace.parse_fullName]
    simp only [receive, readFetch_success, few, many, parsed, Except.map, mapError_ok, if_true,
      Except.bind, decodeReply_of, Bool.false_eq_true, if_false]
    cases hd : decodeAll setup batch.documents with
    | error error =>
      rw [hd] at named
      exact Or.inl ⟨error, rfl, by rw [Except.error.inj named]⟩
    | ok items => exact Or.inr ⟨_, _, rfl, rfl, rfl, rfl⟩
  | reply document => exact absurd plain (by simp [Response.IsPlain])
  | failure refusal raised =>
    refine Or.inl ⟨.command refusal, ?_, ?_⟩
    · simp [receive, readFetch, few, Response.toGetMore, Except.bind]
    · cases raised <;>
        simp [receive, readFetch, many, Response.toCommand, Except.bind, checked,
          Failure.check_reply]
  | broken error =>
    refine Or.inl ⟨.transport error, ?_, ?_⟩
    · simp [receive, readFetch, few, Response.toGetMore, Except.bind]
    · simp [receive, readFetch, many, Response.toCommand, Except.bind, CursorError.naming]

/-- **A kill is answered alike by either kind of connection**: `readKill other response = readKill
connection response`. -/
theorem readKill_agrees {exhaust : Bool} (h : ConnectionTwins exhaust connection other)
    {response : Response Unit} (plain : response.IsPlain fun _ => True) :
    readKill other response = readKill connection response := by
  have few := h.supportsCommands
  have many := h.other_supportsCommands
  unfold readKill
  rw [few, many]
  cases response with
  | success value => rfl
  | reply document => exact absurd plain (by simp [Response.IsPlain])
  | failure refusal raised =>
    cases raised <;>
      simp [Response.toCommand, Response.toKillCursors, Except.bind, checked, Failure.check_reply,
        Except.map]
  | broken error => rfl

/-! ### What is sent -/

/-- **Two events of runs that speak different protocols**: the same one, or a message and the
command for it on the same connection. The fields of the command are those that the message has. -/
inductive EventTwins (setup : Setup α) : Event α → Event α → Prop
  | same {event : Event α} (silent : event.sent? = none) : EventTwins setup event event
  /-- The command asks for as many documents, whatever the sign; a size of zero is left out. -/
  | fetch {number : Nat} {id : Int64} {size : Int32} {document : Document} {session : Session}
      (asks : document.get? "getMore" = some (.integer id.toInt))
      (collection : document.get? "collection" = some (.text setup.ns.collection))
      (sized : document.get? "batchSize" =
        if size = 0 then none else some (.integer (min (size.toInt.natAbs : Int) 2147483647))) :
      EventTwins setup (.send number (.getMore setup.ns id size))
        (.send number
          (.command setup.ns.database document .primary session setup.exhaust))
  | kill {number : Nat} {id : Int64} {document : Document} {session : Session}
      (collection : document.get? "killCursors" = some (.text setup.ns.collection))
      (kills : document.get? "cursors" = some (.array [.integer id.toInt])) :
      EventTwins setup (.send number (.killCursors setup.ns [id]))
        (.send number (.command setup.ns.database document .primary session false))

/-- The batch size of a command for the next batch: the absolute value, cut off at the largest
number, and none for zero. -/
theorem get?_batchSize (command : GetMoreCommand) :
    command.document.get? "batchSize" =
      if command.batchSize = 0 then none
      else some (.integer (min (command.batchSize.toInt.natAbs : Int) 2147483647)) := by
  have size := Saturating.toInt_abs command.batchSize
  rw [Int32.toInt_maxValue] at size
  by_cases hb : command.batchSize = 0
  · have zero : Saturating.abs 0 = 0 := by decide
    by_cases hm : command.maxTimeMs = 0 <;>
      simp [GetMoreCommand.document, Document.get?, List.lookup_cons, zero, hb, hm]
  · have nonzero : Saturating.abs command.batchSize ≠ 0 := by
      intro zero
      have some := toInt_ne_zero hb
      rw [zero, Int32.toInt_zero] at size
      omega
    simp [GetMoreCommand.document, Document.get?, List.lookup_cons, nonzero, hb, size]

/-- A fetch is a message or the command for it, with the same cursor, collection and number. -/
theorem eventTwins_fetch (h : ConnectionTwins setup.exhaust connection other)
    (source otherSource : Source) (cursor : ServerCursor) (state : State α) :
    EventTwins setup
      (.send connection.number (fetchRequest setup connection source cursor state))
      (.send other.number (fetchRequest setup other otherSource cursor state)) := by
  rw [h.number]
  simp only [fetchRequest, h.supportsCommands, h.other_supportsCommands, if_true,
    Bool.false_eq_true, if_false]
  refine .fetch (get?_getMoreCommand _) ?_ (get?_batchSize _)
  simp [GetMoreCommand.document, Document.get?, List.lookup_cons]

/-- A kill is a message or the command for it, with the same cursor and collection. -/
theorem eventTwins_kill (h : ConnectionTwins setup.exhaust connection other)
    (source otherSource : Source) (id : Int64) :
    EventTwins setup (.send connection.number (killRequest setup connection source id) : Event α)
      (.send other.number (killRequest setup other otherSource id)) := by
  rw [h.number]
  simp only [killRequest, h.supportsCommands, h.other_supportsCommands, if_true,
    Bool.false_eq_true, if_false]
  exact .kill rfl rfl

/-! ## Twins -/

/-- Two sources, one whose connections have no commands and one whose connections have them, unless
a grant says otherwise. -/
def SourceTwins (exhaust : Bool) (source other : Source) : Prop :=
  SpeaksMessages source.wireVersion ∧ SpeaksCommands exhaust other.wireVersion

/-- Two grants: both of a connection, one without commands and one with them, or the same
refusal. The cursor is closed before both of them or before neither. -/
inductive GrantTwins (exhaust : Bool) : Grant → Grant → Prop
  | granted {version other : Option Int32} (closes : Bool)
      (messages : ∀ own ∈ version, SpeaksMessages own)
      (commands : ∀ own ∈ other, SpeaksCommands exhaust own) :
      GrantTwins exhaust (.granted version closes) (.granted other closes)
  | refused (error : TransportError) (closes : Bool) :
      GrantTwins exhaust (.refused error closes) (.refused error closes)

/-- The cursor is closed before twin grants alike: `other.closes = grant.closes`. -/
theorem GrantTwins.closes_eq {exhaust : Bool} {grant other : Grant}
    (h : GrantTwins exhaust grant other) : other.closes = grant.closes := by
  cases h <;> rfl

/-- **Two runs that differ in their protocol only.** They are answered alike, neither keeps a
connection, and their states differ in `source` alone. -/
structure Twins (setup : Setup α) (run other : Run α) : Prop where
  state : other.state = { run.state with source := other.state.source }
  sources : Option.Rel (SourceTwins setup.exhaust) run.state.source other.state.source
  pinned : run.state.pinned = none
  grants : List.Forall₂ (GrantTwins setup.exhaust) run.script.grants other.script.grants
  fetches : other.script.fetches = run.script.fetches
  kills : other.script.kills = run.script.kills
  plainFetches : ∀ turn ∈ run.script.fetches,
    turn.response.IsPlain fun batch => batch.name = setup.ns.fullName
  plainKills : ∀ turn ∈ run.script.kills, turn.response.IsPlain fun _ => True
  issued : other.issued = run.issued
  events : List.Forall₂ (EventTwins setup) run.events other.events

namespace Twins

variable {run otherRun : Run α}

/-- Twins hold a source or none, both of them. -/
theorem isSome_source (h : Twins setup run otherRun) :
    otherRun.state.source.isSome = run.state.source.isSome := by
  have sources := h.sources
  generalize run.state.source = source, otherRun.state.source = otherSource at sources
  cases sources <;> rfl

/-- Twins have reached the limit or not, both of them. -/
theorem limitReached_eq (h : Twins setup run otherRun) :
    limitReached setup otherRun.state = limitReached setup run.state := by
  rw [h.state]
  rfl

/-- Something that happens to twins alike leaves twins: `EventTwins` of the two events is enough. -/
theorem emit (h : Twins setup run otherRun) {event otherEvent : Event α}
    (twins : EventTwins setup event otherEvent) :
    Twins setup (run.emit event) (otherRun.emit otherEvent) :=
  { h with events := List.rel_append h.events (.cons twins .nil) }

/-- A change that has nothing to do with the source or the connection that is kept leaves twins. -/
theorem modify (h : Twins setup run otherRun) (change : State α → State α)
    (commutes : ∀ state source, change { state with source } = { change state with source })
    (pinned : (change run.state).pinned = none) :
    Twins setup (run.modify change) (otherRun.modify change) := by
  have same (state : State α) : (change state).source = state.source := by
    have kept := congrArg State.source (commutes state state.source)
    exact kept
  refine ⟨?_, ?_, pinned, h.grants, h.fetches, h.kills, h.plainFetches, h.plainKills, h.issued,
    h.events⟩
  · show change otherRun.state = { change run.state with source := (change otherRun.state).source }
    rw [same, ← commutes, ← h.state]
  · show Option.Rel _ (change run.state).source (change otherRun.state).source
    rw [same, same]
    exact h.sources

/-- Twins are closed alike. -/
theorem markClosed (h : Twins setup run otherRun) :
    Twins setup run.markClosed otherRun.markClosed :=
  h.modify _ (fun _ _ => rfl) h.pinned

/-- Twins forget the server's cursor alike. -/
theorem gone (h : Twins setup run otherRun) :
    Twins setup (run.modify fun state => { state with live := none })
      (otherRun.modify fun state => { state with live := none }) :=
  h.modify _ (fun _ _ => rfl) h.pinned

/-- Twins forget the batch that was not handed out alike. -/
theorem emptied (h : Twins setup run otherRun) :
    Twins setup (run.modify fun state => { state with buffered := [] })
      (otherRun.modify fun state => { state with buffered := [] }) :=
  h.modify _ (fun _ _ => rfl) h.pinned

/-- Twins give up a connection alike. -/
theorem giveUp (h : Twins setup run otherRun) {exhaust : Bool}
    (connections : ConnectionTwins exhaust connection other) :
    Twins setup (run.giveUp connection) (otherRun.giveUp other) := by
  rw [Run.giveUp, Run.giveUp, connections.number]
  exact h.emit (.same rfl)

/-- Twins let go of their sources alike. -/
theorem release (h : Twins setup run otherRun) :
    Twins setup (release run) (release otherRun) := by
  unfold Cursor.release
  rw [h.isSome_source]
  split
  · refine ⟨?_, .none, h.pinned, h.grants, h.fetches, h.kills, h.plainFetches, h.plainKills,
      h.issued, List.rel_append h.events (.cons (.same rfl) .nil)⟩
    show { otherRun.state with source := none } = { run.state with source := none }
    rw [h.state]
  · exact h

/-- Twins let go of their sources alike once the server holds no cursor. -/
theorem releaseIfExhausted (h : Twins setup run otherRun) :
    Twins setup (releaseIfExhausted run) (releaseIfExhausted otherRun) := by
  unfold Cursor.releaseIfExhausted
  rw [h.state]
  show Twins setup (if run.state.live.isNone then _ else _) (if run.state.live.isNone then _ else _)
  split
  · exact h.release
  · exact h

/-- Twins take over the same documents and the same cursor alike. -/
theorem absorb (h : Twins setup run otherRun) {reply otherReply : Reply α}
    (documents : otherReply.documents = reply.documents)
    (cursor : otherReply.cursor = reply.cursor) :
    Twins setup (absorb reply run) (absorb otherReply otherRun) := by
  unfold Cursor.absorb
  rw [documents, cursor]
  exact (h.modify _ (fun _ _ => rfl) h.pinned).emit (.same rfl)

/-- The next fetch of twins is answered alike: `otherRun.fetchTurn setup.ns = run.fetchTurn
setup.ns`. -/
theorem fetchTurn (h : Twins setup run otherRun) :
    otherRun.fetchTurn setup.ns = run.fetchTurn setup.ns := by
  rw [Run.fetchTurn, h.fetches, Run.fetchTurn]

/-- The next kill of twins is answered alike: `otherRun.killTurn = run.killTurn`. -/
theorem killTurn (h : Twins setup run otherRun) : otherRun.killTurn = run.killTurn := by
  rw [Run.killTurn, h.kills, Run.killTurn]

/-- The next fetch is answered in a way that either kind of connection understands, also after the
end of the script. -/
theorem plain_fetchTurn (h : Twins setup run otherRun) :
    (run.fetchTurn setup.ns).response.IsPlain fun batch => batch.name = setup.ns.fullName := by
  have plain := h.plainFetches
  rw [Run.fetchTurn]
  cases fetches : run.script.fetches with
  | nil => rfl
  | cons turn turns => exact plain turn (by simp [fetches])

/-- The next kill is answered in a way that either kind of connection understands, also after the
end of the script. -/
theorem plain_killTurn (h : Twins setup run otherRun) :
    run.killTurn.response.IsPlain fun _ => True := by
  have plain := h.plainKills
  rw [Run.killTurn]
  cases kills : run.script.kills with
  | nil => trivial
  | cons turn turns => exact plain turn (by simp [kills])

/-- Twins hear an answer to a fetch alike. -/
theorem afterFetch (h : Twins setup run otherRun) :
    Twins setup (run.afterFetch setup.ns) (otherRun.afterFetch setup.ns) := by
  refine ⟨?_, h.sources, h.pinned, h.grants, ?_, h.kills,
    fun turn listed => h.plainFetches turn (List.mem_of_mem_tail listed), h.plainKills, h.issued,
    h.events⟩
  · simp only [Run.afterFetch, h.fetchTurn]
    rw [h.state]
  · exact congrArg List.tail h.fetches

/-- Twins hear an answer to a kill alike. -/
theorem afterKill (h : Twins setup run otherRun) :
    Twins setup run.afterKill otherRun.afterKill := by
  refine ⟨?_, h.sources, h.pinned, h.grants, h.fetches, ?_, h.plainFetches,
    fun turn listed => h.plainKills turn (List.mem_of_mem_tail listed), h.issued, h.events⟩
  · simp only [Run.afterKill, h.killTurn]
    rw [h.state]
  · exact congrArg List.tail h.kills

/-- Twins ask for the next batch alike: `askFetch` leaves twins, since its requests are
`EventTwins`. -/
theorem askFetch (h : Twins setup run otherRun)
    (connections : ConnectionTwins setup.exhaust connection other) :
    Twins setup (askFetch setup connection source cursor run)
      (askFetch setup other otherSource cursor otherRun) := by
  have same : fetchRequest setup other otherSource cursor otherRun.state =
      fetchRequest setup other otherSource cursor run.state := by
    rw [h.state]
    rfl
  unfold Cursor.askFetch
  rw [same]
  exact (h.emit (eventTwins_fetch connections source otherSource cursor run.state)).afterFetch

/-- Twins ask a server to forget a cursor alike: `askKill` leaves twins. -/
theorem askKill (h : Twins setup run otherRun)
    (connections : ConnectionTwins setup.exhaust connection other) (id : Int64) :
    Twins setup (askKill setup connection source id run)
      (askKill setup other otherSource id otherRun) :=
  (h.emit (eventTwins_kill connections source otherSource id)).afterKill

/-- The next grants of twins are twins, and so are the grants that are left then. -/
theorem nextGrant (h : Twins setup run otherRun) :
    GrantTwins setup.exhaust run.nextGrant otherRun.nextGrant ∧
      List.Forall₂ (GrantTwins setup.exhaust) run.script.grants.tail
        otherRun.script.grants.tail := by
  have grants := h.grants
  unfold Run.nextGrant
  generalize run.script.grants = own, otherRun.script.grants = others at grants
  cases grants with
  | nil => exact ⟨.granted false nofun nofun, .nil⟩
  | cons first rest => exact ⟨first, rest⟩

/-- Twins are answered alike when they ask for a connection, and are closed by the answer alike. -/
theorem afterGrant (h : Twins setup run otherRun) :
    Twins setup run.afterGrant otherRun.afterGrant := by
  refine ⟨?_, h.sources, h.pinned, h.nextGrant.2, h.fetches, h.kills, h.plainFetches, h.plainKills,
    h.issued, h.events⟩
  simp only [Run.afterGrant, h.nextGrant.1.closes_eq]
  rw [h.state]

/-- Twins are granted a connection alike. -/
theorem granted (h : Twins setup run otherRun) : Twins setup run.granted otherRun.granted := by
  have numbered : Twins setup { run.afterGrant with issued := run.issued + 1 }
      { otherRun.afterGrant with issued := otherRun.issued + 1 } :=
    { h.afterGrant with issued := congrArg (· + 1) h.issued }
  have same : EventTwins setup (.acquire (run.issued + 1)) (.acquire (otherRun.issued + 1)) := by
    rw [h.issued]
    exact .same rfl
  exact numbered.emit same

/-- Twins are refused a connection alike. -/
theorem refused (h : Twins setup run otherRun) : Twins setup run.refused otherRun.refused :=
  h.afterGrant.emit (.same rfl)

/-- **Twins that hold a source are granted a connection alike, or refused alike**: the connections
are twins, or the errors the same. -/
theorem acquire (h : Twins setup run otherRun) (hs : run.state.source.isSome) :
    (∃ connection other, run.acquire = .pure connection run.granted ∧
        otherRun.acquire = .pure other otherRun.granted ∧
        ConnectionTwins setup.exhaust connection other) ∨
      ∃ error, run.acquire = .fail (.transport error) run.refused ∧
        otherRun.acquire = .fail (.transport error) otherRun.refused := by
  obtain ⟨source, hs⟩ := Option.isSome_iff_exists.mp hs
  obtain ⟨otherSource, ho⟩ := Option.isSome_iff_exists.mp (h.isSome_source.trans (by rw [hs]; rfl))
  obtain ⟨messages, commands⟩ : SourceTwins setup.exhaust source otherSource := by
    have sources := h.sources
    rw [hs, ho] at sources
    cases sources
    assumption
  have twin := h.nextGrant.1
  rw [Run.acquire_eq hs, Run.acquire_eq ho]
  generalize run.nextGrant = grant, otherRun.nextGrant = otherGrant at twin ⊢
  cases twin with
  | @granted version other closes own others =>
    -- A connection without a version of its own has that of its source.
    refine Or.inl ⟨_, _, rfl, rfl, by rw [h.issued], ?_, ?_⟩
    · cases version with
      | none => exact messages
      | some version => exact own version rfl
    · cases other with
      | none => exact commands
      | some version => exact others version rfl
  | refused error closes => exact Or.inr ⟨error, rfl, rfl⟩

/-! ### Kills and closing -/

/-- Twins hold the same cursor. -/
theorem live_eq (h : Twins setup run otherRun) : otherRun.state.live = run.state.live := by
  rw [h.state]

/-- Twins have the same batch that was not handed out. -/
theorem buffered_eq (h : Twins setup run otherRun) :
    otherRun.state.buffered = run.state.buffered := by
  rw [h.state]

/-- Twins are closed or not. -/
theorem closed_eq (h : Twins setup run otherRun) :
    otherRun.state.closed = run.state.closed := by
  rw [h.state]

/-- Twins ask for batches of the same size. -/
theorem batchSize_eq (h : Twins setup run otherRun) :
    otherRun.state.batchSize = run.state.batchSize := by
  rw [h.state]

/-- Twins have counted the same number of documents. -/
theorem count_eq (h : Twins setup run otherRun) :
    otherRun.state.count = run.state.count := by
  rw [h.state]

/-- Twins that hold a source both do. -/
theorem exists_source (h : Twins setup run otherRun) (hs : run.state.source.isSome) :
    ∃ source otherSource, run.state.source = some source ∧
      otherRun.state.source = some otherSource := by
  obtain ⟨source, own⟩ := Option.isSome_iff_exists.mp hs
  obtain ⟨otherSource, others⟩ := Option.isSome_iff_exists.mp (h.isSome_source.trans hs)
  exact ⟨source, otherSource, own, others⟩

/-- **Twins kill a cursor alike**, on connections of either kind: with the same result, and leaving
twins. -/
theorem killOn (h : Twins setup run otherRun)
    (connections : ConnectionTwins setup.exhaust connection other)
    (hs : run.state.live.isSome → run.state.source.isSome) :
    (killOn setup other otherRun).result = (killOn setup connection run).result ∧
      Twins setup (killOn setup connection run).run (killOn setup other otherRun).run := by
  cases hl : run.state.live with
  | none =>
    rw [killOn_idle setup connection hl, killOn_idle setup other (h.live_eq.trans hl)]
    exact ⟨rfl, h⟩
  | some cursor =>
    obtain ⟨source, otherSource, own, others⟩ := h.exists_source (hs (by rw [hl]; rfl))
    have asked : Twins setup (Cursor.askKill setup connection source cursor.id run)
        (Cursor.askKill setup other otherSource cursor.id otherRun) :=
      h.askKill connections cursor.id
    have read := readKill_agrees connections h.plain_killTurn
    simp only [Cursor.killOn, hl, h.live_eq, sendKill_eq setup _ _ own,
      sendKill_eq setup _ _ others, h.killTurn, read]
    cases readKill connection run.killTurn.response with
    | error error => exact ⟨rfl, asked⟩
    | ok value => exact ⟨rfl, asked.gone⟩

/-- **Twins kill a cursor alike** on a connection of its own, or find none to be had. -/
theorem killOnNew (h : Twins setup run otherRun)
    (hs : run.state.live.isSome → run.state.source.isSome) :
    (killOnNew setup otherRun).result = (killOnNew setup run).result ∧
      Twins setup (killOnNew setup run).run (killOnNew setup otherRun).run := by
  unfold Cursor.killOnNew
  rw [h.live_eq]
  cases hl : run.state.live with
  | none => exact ⟨rfl, h⟩
  | some cursor =>
    simp only [Option.isNone_some, Bool.false_eq_true, if_false]
    obtain ⟨connection, other, own, others, connections⟩ | ⟨error, own, others⟩ :=
      h.acquire (hs (by rw [hl]; rfl))
    · rw [own, others, Outcome.andThen_pure, Outcome.andThen_pure]
      obtain ⟨result, killed⟩ := h.granted.killOn connections hs
      exact ⟨result, killed.giveUp connections⟩
    · rw [own, others, Outcome.andThen_fail, Outcome.andThen_fail]
      exact ⟨rfl, h.refused⟩

/-- Twins have no connection to give up, so that `unpin` changes nothing of either. -/
theorem unpin (h : Twins setup run otherRun) : Twins setup (unpin run) (unpin otherRun) := by
  have pinned : otherRun.state.pinned = none := by
    rw [h.state]
    exact h.pinned
  unfold Cursor.unpin
  rw [h.pinned, pinned]
  exact h

/-- **Twins do the work of closing alike**, and no error of it is told. -/
theorem finish (h : Twins setup run otherRun) (sourced : Sourced run) :
    Twins setup (finish setup run) (finish setup otherRun) := by
  have marked : Twins setup (closing run) (closing otherRun) :=
    (h.modify (fun state => { state with finished := true }) (fun _ _ => rfl) h.pinned).unpin
  have killed := (marked.killOnNew (by simp only [state_closing]; exact sourced.trans)).2
  exact killed.gone.release.emptied

/-- Twins close alike. -/
theorem close (h : Twins setup run otherRun) (sourced : Sourced run) :
    Twins setup (close setup run) (close setup otherRun) := by
  have finished : otherRun.markClosed.state.finished = run.markClosed.state.finished := by
    rw [h.markClosed.state]
  show Twins setup (if run.markClosed.state.finished then run.markClosed
      else Cursor.finish setup run.markClosed)
    (if otherRun.markClosed.state.finished then otherRun.markClosed
      else Cursor.finish setup otherRun.markClosed)
  rw [finished]
  split
  · exact h.markClosed
  · exact h.markClosed.finish sourced

end Twins

/-! ## Agreement -/

/-- **The name of an error.** The failure of a fetch is named with the cursor, that of a kill at the
limit is not; which of the two it was is told by the `state` after it: a kill is sent only when
`limitReached`. -/
def Setup.named (setup : Setup α) (state : State α) (error : CursorError) : CursorError :=
  match state.live with
  | some cursor =>
    if limitReached setup state then error else error.naming cursor setup.address
  | none => error

/-- Only the failure of a command is named with the cursor: any other error has its own name. -/
theorem named_of_ne_command (setup : Setup α) (state : State α) {error : CursorError}
    (h : ∀ failure, error ≠ .command failure) : setup.named state error = error := by
  have same (cursor : ServerCursor) : error.naming cursor setup.address = error := by
    cases error with
    | command failure => exact absurd rfl (h failure)
    | illegalState | noSuchElement | cursorCommand | cursorNotFound | decode | transport | protocol
    | missingConnectionSource | invalidArgument => rfl
  unfold Setup.named
  split
  · split
    · rfl
    · exact same _
  · rfl

/-- Once the limit is reached no fetch can have failed, so an error has its own name. -/
theorem named_of_reached {state : State α} (reached : limitReached setup state = true)
    (error : CursorError) : setup.named state error = error := by
  rw [Setup.named, reached]
  cases state.live <;> rfl

/-- The name of an error is a matter of `live` and `count`. -/
theorem named_congr {state otherState : State α} (live : otherState.live = state.live)
    (count : otherState.count = state.count) :
    setup.named otherState = setup.named state := by
  funext error
  rw [Setup.named, Setup.named, live, limitReached_congr count]

/-- **Two outcomes agree**: they leave twins, and have the same result but for the name of an error,
which is that of `setup.named` in the state after the first. -/
structure Agreed (setup : Setup α) (outcome otherOutcome : Outcome α β) : Prop where
  result : otherOutcome.result = outcome.result.mapError (setup.named outcome.run.state)
  twins : Twins setup outcome.run otherOutcome.run

namespace Agreed

variable {run otherRun : Run α}

theorem pure {value : β} (h : Twins setup run otherRun) :
    Agreed setup (.pure value run) (.pure value otherRun) := ⟨rfl, h⟩

/-- Errors that are no failures of commands have the same name, and so agree. -/
theorem fail {error : CursorError} (h : Twins setup run otherRun)
    (other : ∀ failure, error ≠ .command failure) :
    Agreed setup (.fail error run : Outcome α β) (.fail error otherRun) :=
  ⟨congrArg Except.error (named_of_ne_command setup run.state other).symm, h⟩

/-- What goes on after a success agrees if it does so from there; a failure goes through with its
name. -/
theorem andThen {outcome otherOutcome : Outcome α β} {next : β → Run α → Outcome α γ}
    (h : Agreed setup outcome otherOutcome)
    (hnext : ∀ value, outcome.result = .ok value → Twins setup outcome.run otherOutcome.run →
      Agreed setup (next value outcome.run) (next value otherOutcome.run)) :
    Agreed setup (outcome.andThen next) (otherOutcome.andThen next) := by
  obtain ⟨result, twins⟩ := h
  obtain ⟨own, run⟩ := outcome
  obtain ⟨others, otherRun⟩ := otherOutcome
  cases own with
  | ok value =>
    obtain rfl : others = .ok value := result
    exact hnext value rfl twins
  | error error =>
    obtain rfl : others = .error (setup.named run.state error) := result
    exact ⟨rfl, twins⟩

/-- What happens in any case agrees if it changes nothing that an error is named by, `live` and
`count`. -/
theorem always {outcome otherOutcome : Outcome α β} {after otherAfter : Run α → Run α}
    (h : Agreed setup outcome otherOutcome)
    (live : (after outcome.run).state.live = outcome.run.state.live)
    (count : (after outcome.run).state.count = outcome.run.state.count)
    (twins : Twins setup outcome.run otherOutcome.run →
      Twins setup (after outcome.run) (otherAfter otherOutcome.run)) :
    Agreed setup (outcome.always after) (otherOutcome.always otherAfter) := by
  refine ⟨?_, twins h.twins⟩
  rw [Outcome.result_always, Outcome.result_always, Outcome.run_always, named_congr live count]
  exact h.result

end Agreed

/-! ### Round trips -/

section RoundTrips

variable {run otherRun : Run α}

/-- **What twins do when they have taken over a batch agrees**: they kill the server's cursor if the
limit is reached, and let go of their sources if it is gone. The failure of that kill has the same
name on both sides. -/
theorem prune_agrees (h : Twins setup run otherRun)
    (connections : ConnectionTwins setup.exhaust connection other)
    (held : run.state.live.isSome → run.state.source.isSome) :
    Agreed setup
      ((if limitReached setup run.state then killOn setup connection run
        else .pure () run).andThen fun _ run => .pure () (releaseIfExhausted run))
      ((if limitReached setup otherRun.state then killOn setup other otherRun
        else .pure () otherRun).andThen fun _ run => .pure () (releaseIfExhausted run)) := by
  rw [h.limitReached_eq]
  cases reached : limitReached setup run.state with
  | false => exact .pure h.releaseIfExhausted
  | true =>
    obtain ⟨result, killed⟩ := h.killOn connections held
    obtain ⟨-, live, closed, state, -⟩ := killOn_pruned setup connection held
    -- The kill counts nothing, so that its failure is not taken for that of a fetch.
    have still : limitReached setup (killOn setup connection run).run.state = true :=
      (limitReached_congr (by rw [state])).trans reached
    refine Agreed.andThen ⟨?_, killed⟩ fun _ _ twins => .pure twins.releaseIfExhausted
    rw [if_pos rfl, if_pos rfl, result]
    cases (killOn setup connection run).result with
    | ok value => rfl
    | error error => rw [mapError_error, named_of_reached still]

/-- **A fetch of twins agrees** below the limit, by the two cases of `receive_agrees`. -/
theorem getMoreOn_agrees (h : Twins setup run otherRun)
    (connections : ConnectionTwins setup.exhaust connection other)
    (hs : run.state.source.isSome) (hl : run.state.live = some cursor)
    (unreached : limitReached setup run.state = false) :
    Agreed setup (getMoreOn setup connection run) (getMoreOn setup other otherRun) := by
  obtain ⟨source, otherSource, own, others⟩ := h.exists_source hs
  have asked : Twins setup (askFetch setup connection source cursor run)
      (askFetch setup other otherSource cursor otherRun) := h.askFetch connections
  rw [getMoreOn_eq own hl, getMoreOn_eq others (h.live_eq.trans hl), h.fetchTurn]
  obtain ⟨error, failed, named⟩ | ⟨reply, otherReply, received, otherReceived, documents, next⟩ :=
    receive_agrees connections source otherSource cursor h.plain_fetchTurn
  · rw [failed, named]
    refine ⟨?_, asked⟩
    have live : (askFetch setup connection source cursor run).state.live = some cursor := by
      rw [state_askFetch]
      exact hl
    have still : limitReached setup (askFetch setup connection source cursor run).state = false :=
      (limitReached_congr (by rw [state_askFetch])).trans unreached
    have name : setup.named (askFetch setup connection source cursor run).state error =
        error.naming cursor setup.address := by
      rw [Setup.named, live, still]
      rfl
    exact congrArg Except.error name.symm
  · rw [received, otherReceived]
    have taken := asked.absorb documents next
    have held : (askFetch setup connection source cursor run).state.source.isSome := by
      simpa using hs
    exact prune_agrees taken connections fun _ => held

/-- **A round trip of twins agrees** below the limit, where the connection is a new one for both. -/
theorem getMore_agrees (h : Twins setup run otherRun) (sourced : Sourced run)
    (live : run.state.live.isSome) (unreached : limitReached setup run.state = false) :
    Agreed setup (getMore setup run) (getMore setup otherRun) := by
  have hs : run.state.source.isSome := (show _ = _ from sourced).trans live
  obtain ⟨cursor, hl⟩ := Option.isSome_iff_exists.mp live
  have pinned : otherRun.state.pinned = none := by
    rw [h.state]
    exact h.pinned
  unfold getMore connect
  rw [h.pinned, pinned]
  obtain ⟨connection, other, own, others, connections⟩ | ⟨error, own, others⟩ := h.acquire hs
  · simp only [own, others, Outcome.andThen_pure]
    have fetched := getMoreOn_agrees h.granted connections hs hl unreached
    -- Neither connection is kept.
    have given (run : Run α) : settle setup connection run = run.giveUp connection := by
      show (if keeps setup connection run.state then _ else _) = _
      rw [connections.keeps_eq_false]
      rfl
    have otherGiven (run : Run α) : settle setup other run = run.giveUp other := by
      show (if keeps setup other run.state then _ else _) = _
      rw [connections.other_keeps_eq_false]
      rfl
    refine fetched.always ?_ ?_ fun twins => ?_
    · rw [given]
      rfl
    · rw [given]
      rfl
    · rw [given, otherGiven]
      exact twins.giveUp connections
  · simp only [own, others, Outcome.andThen_fail]
    exact .fail h.refused (by simp)

/-! ### Calls -/

/-- The check that a cursor is open agrees, with the work of closing that it may do. -/
theorem ensureOpen_agrees (h : Twins setup run otherRun) (sourced : Sourced run) :
    Agreed setup (ensureOpen setup run) (ensureOpen setup otherRun) := by
  unfold ensureOpen
  rw [h.closed_eq]
  split
  · exact .fail (h.close sourced) (by simp [CursorError.cursorClosed])
  · exact .pure h

/-- **Fetching until there is a batch** agrees, by induction on the fuel. -/
theorem fetchUntilBatch_agrees {fuel : Nat} (h : Twins setup run otherRun) (asks : Asks setup run) :
    Agreed setup (fetchUntilBatch setup fuel run) (fetchUntilBatch setup fuel otherRun) := by
  induction fuel generalizing run otherRun with
  | zero => exact .pure h
  | succ fuel ih =>
    rw [fetchUntilBatch, fetchUntilBatch, h.live_eq]
    by_cases hl : run.state.live.isNone = true
    · rw [if_pos hl, if_pos hl]
      exact .pure h
    rw [if_neg hl, if_neg hl]
    have live : run.state.live.isSome := by simpa [Option.isSome_iff_ne_none] using hl
    refine (getMore_agrees h asks.sourced live asks.unreached).andThen fun _ ok twins => ?_
    obtain ⟨sourced, -, unreached, -⟩ := (getMore_follows asks live).tells () ok
    refine (ensureOpen_agrees twins sourced).andThen fun _ ok twins => ?_
    obtain ⟨same, isOpen⟩ := (ensureOpen_follows setup (getMore setup run).run).tells () ok
    rw [← same] at twins ⊢
    rw [twins.buffered_eq]
    by_cases hb : (getMore setup run).run.state.buffered.isEmpty = true
    · rw [if_pos hb, if_pos hb]
      have empty := List.isEmpty_iff.mp hb
      exact ih twins ⟨sourced, isOpen, empty, unreached empty⟩
    · rw [if_neg hb, if_neg hb]
      exact .pure twins

/-- **Finding out whether there is another batch** agrees. -/
theorem hasNext_agrees (h : Twins setup run otherRun) (sourced : Sourced run) :
    Agreed setup (hasNext setup run) (hasNext setup otherRun) := by
  unfold hasNext
  refine (ensureOpen_agrees h sourced).andThen fun _ ok twins => ?_
  obtain ⟨same, isOpen⟩ := (ensureOpen_follows setup run).tells () ok
  rw [← same] at twins ⊢
  rw [twins.buffered_eq, twins.limitReached_eq, twins.fetches]
  cases hb : run.state.buffered.isEmpty with
  | true =>
    cases unreached : limitReached setup run.state with
    | true => exact .pure twins
    | false =>
      exact fetchUntilBatch_agrees twins ⟨sourced, isOpen, List.isEmpty_iff.mp hb, unreached⟩
  | false => exact .pure twins

/-- Handing out the batch that was not handed out yet agrees. -/
theorem takeBuffered_agrees (h : Twins setup run otherRun) :
    Agreed setup (takeBuffered run) (takeBuffered otherRun) := by
  unfold takeBuffered
  rw [h.buffered_eq]
  exact .pure h.emptied

/-- **Looking for the next batch** agrees. -/
theorem nextBatch_agrees (h : Twins setup run otherRun) (sourced : Sourced run) :
    Agreed setup (nextBatch setup run) (nextBatch setup otherRun) := by
  unfold nextBatch
  refine (hasNext_agrees h sourced).andThen fun more _ twins => ?_
  cases more with
  | true => exact takeBuffered_agrees twins
  | false => exact .fail twins (by simp)

/-- **Looking for a batch in one round trip** agrees. -/
theorem tryNext_agrees (h : Twins setup run otherRun) (sourced : Sourced run) :
    Agreed setup (tryNext setup run) (tryNext setup otherRun) := by
  have take {run otherRun : Run α} (twins : Twins setup run otherRun) :
      Agreed setup
        ((takeBuffered run).andThen fun batch run =>
          .pure (if batch.isEmpty then none else some batch) run)
        ((takeBuffered otherRun).andThen fun batch run =>
          .pure (if batch.isEmpty then none else some batch) run) :=
    (takeBuffered_agrees twins).andThen fun _ _ twins => .pure twins
  unfold tryNext
  refine (ensureOpen_agrees h sourced).andThen fun _ ok twins => ?_
  obtain ⟨same, isOpen⟩ := (ensureOpen_follows setup run).tells () ok
  rw [← same] at twins ⊢
  rw [twins.buffered_eq, twins.limitReached_eq, twins.live_eq]
  by_cases asks : (run.state.buffered.isEmpty && !limitReached setup run.state &&
      run.state.live.isSome) = true
  · rw [if_pos asks, if_pos asks]
    simp only [Bool.and_eq_true, Bool.not_eq_true'] at asks
    exact (getMore_agrees twins sourced asks.2 asks.1.2).andThen fun _ _ twins => take twins
  · rw [if_neg asks, if_neg asks]
    exact take twins

/-- **The next item of the iteration** agrees, which is `hasNext` followed by `nextBatch` on both
sides. -/
theorem next_agrees (h : Twins setup run otherRun) (sourced : Sourced run) :
    Agreed setup (next setup run) (next setup otherRun) := by
  unfold next
  refine (hasNext_agrees h sourced).andThen fun more ok twins => ?_
  have knows := (hasNext_follows setup sourced).tells more ok
  cases more with
  | true => exact (nextBatch_agrees twins knows.sourced).andThen fun _ _ twins => .pure twins
  | false => exact .pure twins

end RoundTrips

end Cursor

end DocumentCursor
