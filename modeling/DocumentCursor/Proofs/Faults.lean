import DocumentCursor.Proofs.Restating
import DocumentCursor.Proofs.FallibleSteps

/-! # Answers that bring nothing

What a server answers to a fetch is read in several steps before any document is taken over: the
connection may break, the server may refuse, the reply may not be one to a fetch, and a document may
not be decoded. Each of these has its error, and the first of them is reported.

* **`Lacks`**, **`GarbledCursor`** and **`Garbled`**: replies that cannot be read, by the first
  field that is at fault.
* **`Unread`** and **`Faulty`**: answers in which no reply is read, and answers from which nothing
  is received.
* **`receive_eq_error_iff`**: these are all.
-/

namespace DocumentCursor

open Net

/-! ## Replies that cannot be read -/

/-- A field holds a value of its type: what is found by `get?` is viewed as `value`. -/
def Holds {β : Type} (document : Document) (field : String) (view : Value → Option β)
    (value : β) : Prop :=
  (document.get? field).bind view = some value

/-- **A field is missing, or it holds a value of another type**, with the error for either:
`.missingField field` or `.unexpectedType field expected`. -/
inductive Lacks {β : Type} (document : Document) (field expected : String)
    (view : Value → Option β) : ProtocolError → Prop
  | missing (absent : document.get? field = none) :
      Lacks document field expected view (.missingField field)
  | mistyped {value : Value} (there : document.get? field = some value)
      (other : view value = none) :
      Lacks document field expected view (.unexpectedType field expected)

/-- What is read after a field fails if the field is at fault, or for a reason of its own:
`require`, `expect` and then `next` is `.error` exactly if `Lacks`, or `next` fails on the value
that the field holds. -/
theorem require_eq_error_iff {β γ : Type} {error : ProtocolError} (document : Document)
    (field expected : String) (view : Value → Option β) (next : β → Except ProtocolError γ) :
    ((Reply.require document field).bind fun value =>
        (Reply.expect field expected (view value)).bind next) = .error error ↔
      Lacks document field expected view error ∨
        ∃ value, Holds document field view value ∧ next value = .error error := by
  unfold Reply.require Holds
  cases there : document.get? field with
  | none =>
    constructor
    · rintro ⟨⟩
      exact Or.inl (.missing there)
    · rintro (lacks | ⟨value, held, -⟩)
      · cases lacks with
        | missing absent => rfl
        | mistyped other => exact absurd (there.symm.trans other) (by simp)
      · exact absurd held (by simp)
  | some value =>
    cases typed : view value with
    | none =>
      simp only [Except.bind, Reply.expect, typed, Option.bind_some]
      constructor
      · rintro ⟨⟩
        exact Or.inl (.mistyped there typed)
      · rintro (lacks | ⟨other, held, -⟩)
        · cases lacks with
          | missing absent => exact absurd (there.symm.trans absent) (by simp)
          | mistyped => rfl
        · exact absurd held (by simp)
    | some item =>
      simp only [Except.bind, Reply.expect, typed, Option.bind_some, Option.some.injEq]
      constructor
      · exact fun failed => Or.inr ⟨item, rfl, failed⟩
      · rintro (lacks | ⟨other, rfl, failed⟩)
        · cases lacks with
          | missing absent => exact absurd (there.symm.trans absent) (by simp)
          | mistyped here other =>
            obtain rfl := Option.some.inj (there.symm.trans here)
            exact absurd (typed.symm.trans other) (by simp)
        · exact failed

/-- **The ways the cursor of a reply cannot be read.** They come in the order `id`, `ns`, batch, and
each comes after what is read before it. -/
inductive GarbledCursor (batchField : String) (cursor : Document) : ProtocolError → Prop
  | id {error : ProtocolError} (lacks : Lacks cursor "id" "int64" Value.int64? error) :
      GarbledCursor batchField cursor error
  | name {error : ProtocolError} {id : Int64} (numbered : Holds cursor "id" Value.int64? id)
      (lacks : Lacks cursor "ns" "string" Value.text? error) :
      GarbledCursor batchField cursor error
  /-- The name is not that of a collection. -/
  | ns {error : ProtocolError} {id : Int64} {name : String}
      (numbered : Holds cursor "id" Value.int64? id)
      (named : Holds cursor "ns" Value.text? name) (refused : Namespace.parse name = .error error) :
      GarbledCursor batchField cursor error
  | batch {error : ProtocolError} {id : Int64} {name : String} {ns : Namespace}
      (numbered : Holds cursor "id" Value.int64? id)
      (named : Holds cursor "ns" Value.text? name) (parsed : Namespace.parse name = .ok ns)
      (lacks : Lacks cursor batchField "array" Value.array? error) :
      GarbledCursor batchField cursor error
  /-- Something in the batch is not a document. -/
  | item {id : Int64} {name : String} {ns : Namespace} {items : List Value} {item : Value}
      (numbered : Holds cursor "id" Value.int64? id)
      (named : Holds cursor "ns" Value.text? name) (parsed : Namespace.parse name = .ok ns)
      (filled : Holds cursor batchField Value.array? items) (listed : item ∈ items)
      (other : item.document? = none) :
      GarbledCursor batchField cursor (.unexpectedType batchField "array of documents")

/-- **The ways a reply cannot be read**: its field `cursor` is at fault, or what it holds is. -/
inductive Garbled (batchField : String) (reply : Document) : ProtocolError → Prop
  | cursor {error : ProtocolError} (lacks : Lacks reply "cursor" "document" Value.document? error) :
      Garbled batchField reply error
  | within {error : ProtocolError} {cursor : Document}
      (held : Holds reply "cursor" Value.document? cursor)
      (garbled : GarbledCursor batchField cursor error) : Garbled batchField reply error

/-- A batch is at fault if something in it is not a document: the error is `.unexpectedType` of the
field of the batch, whichever item it is. -/
theorem expect_documents_eq_error_iff {error : ProtocolError} (field : String)
    (items : List Value) :
    (items.mapM fun value => Reply.expect field "array of documents" value.document?) =
        .error error ↔
      error = .unexpectedType field "array of documents" ∧
        ∃ item ∈ items, item.document? = none := by
  induction items with
  | nil => simp [pure, Except.pure]
  | cons item items ih =>
    rw [mapM_cons_eq_error_iff, ih]
    cases typed : item.document? <;> simp [Reply.expect, typed, eq_comm]

/-- **The cursor of a reply cannot be read** exactly in these ways: `ofCursorDocument = .error error
↔ GarbledCursor`. -/
theorem ofCursorDocument_eq_error_iff {error : ProtocolError} (batchField : String)
    (address : Address) (cursor : Document) :
    Reply.ofCursorDocument batchField address cursor = .error error ↔
      GarbledCursor batchField cursor error := by
  unfold Reply.ofCursorDocument
  -- One field after the other: it is at fault, or the fault is in what is read after it.
  refine (require_eq_error_iff ..).trans ?_
  constructor
  · rintro (lacks | ⟨id, numbered, failed⟩)
    · exact .id lacks
    obtain lacks | ⟨name, named, failed⟩ := (require_eq_error_iff ..).mp failed
    · exact .name numbered lacks
    obtain refused | ⟨ns, parsed, failed⟩ := (bind_eq_error_iff ..).mp failed
    · exact .ns numbered named refused
    obtain lacks | ⟨items, filled, failed⟩ := (require_eq_error_iff ..).mp failed
    · exact .batch numbered named parsed lacks
    obtain failed | ⟨documents, -, done⟩ := (bind_eq_error_iff ..).mp failed
    · obtain ⟨rfl, item, listed, other⟩ := (expect_documents_eq_error_iff ..).mp failed
      exact .item numbered named parsed filled listed other
    · exact absurd done (by simp [pure, Except.pure])
  · intro garbled
    cases garbled with
    | id lacks => exact Or.inl lacks
    | name numbered lacks =>
      exact Or.inr ⟨_, numbered, (require_eq_error_iff ..).mpr (Or.inl lacks)⟩
    | ns numbered named refused =>
      refine Or.inr ⟨_, numbered, (require_eq_error_iff ..).mpr (Or.inr ⟨_, named, ?_⟩)⟩
      exact (bind_eq_error_iff ..).mpr (Or.inl refused)
    | batch numbered named parsed lacks =>
      refine Or.inr ⟨_, numbered, (require_eq_error_iff ..).mpr (Or.inr ⟨_, named, ?_⟩)⟩
      refine (bind_eq_error_iff ..).mpr (Or.inr ⟨_, parsed, ?_⟩)
      exact (require_eq_error_iff ..).mpr (Or.inl lacks)
    | item numbered named parsed filled listed other =>
      refine Or.inr ⟨_, numbered, (require_eq_error_iff ..).mpr (Or.inr ⟨_, named, ?_⟩)⟩
      refine (bind_eq_error_iff ..).mpr (Or.inr ⟨_, parsed, ?_⟩)
      refine (require_eq_error_iff ..).mpr (Or.inr ⟨_, filled, (bind_eq_error_iff ..).mpr ?_⟩)
      exact Or.inl ((expect_documents_eq_error_iff ..).mpr ⟨rfl, _, listed, other⟩)

/-- **A reply cannot be read** exactly in these ways: `ofCommandReply = .error error ↔ Garbled`. -/
theorem ofCommandReply_eq_error_iff {error : ProtocolError} (batchField : String)
    (address : Address) (reply : Document) :
    Reply.ofCommandReply batchField address reply = .error error ↔
      Garbled batchField reply error := by
  unfold Reply.ofCommandReply
  refine (require_eq_error_iff ..).trans ?_
  simp only [ofCursorDocument_eq_error_iff]
  constructor
  · rintro (lacks | ⟨cursor, held, garbled⟩)
    · exact .cursor lacks
    · exact .within held garbled
  · intro garbled
    cases garbled with
    | cursor lacks => exact Or.inl lacks
    | within held garbled => exact Or.inr ⟨_, held, garbled⟩

namespace Response

/-- An answer reports one refusal: `Reports` holds of one `Failure` at most. -/
theorem Reports.unique {σ : Type} {failure other : Failure} {response : Response σ}
    (h : Reports failure response) (h' : Reports other response) : failure = other :=
  (Response.failure.inj (h.raise_eq.symm.trans h'.raise_eq)).1

/-- The reply document that an answer to a fetch carries. Where there are commands a batch is
carried by `batch.reply`, and a message carries its documents without one. -/
def document? (commands : Bool) : Response Batch → Option Document
  | success batch => if commands then some batch.reply else none
  | reply document => some document
  | failure .. | broken _ => none

end Response

namespace Cursor

variable {α : Type} {setup : Setup α} {connection : Connection} {source : Source}
  {cursor : ServerCursor} {response : Response Batch} {error : CursorError}

/-! ## Answers in which no reply is read -/

/-- **The ways no reply is read in an answer to a fetch**: it broke off, the server refused, or its
document is `Garbled`. -/
inductive Unread (setup : Setup α) (connection : Connection) (cursor : ServerCursor)
    (response : Response Batch) : CursorError → Prop
  /-- The connection broke. -/
  | broken {error : TransportError} (breaks : response = .broken error) :
      Unread setup connection cursor response (.transport error)
  /-- The server refused a command. -/
  | refused {failure : Failure} (commands : connection.capability.supportsCommands = true)
      (reports : response.Reports failure) :
      Unread setup connection cursor response (.ofFailure failure cursor setup.address)
  /-- The server refused a message. -/
  | failed {failure : Failure} {raised : Bool}
      (messages : connection.capability.supportsCommands = false)
      (refuses : response = .failure failure raised) :
      Unread setup connection cursor response (.command failure)
  /-- The server did not refuse, but its reply cannot be read. -/
  | garbled {document : Document} {error : ProtocolError}
      (carries : response.document? connection.capability.supportsCommands = some document)
      (accepts : connection.capability.supportsCommands = true → Failure.ofReply? document = none)
      (garbled : Garbled nextBatchField document error) :
      Unread setup connection cursor response (.protocol error)

/-- What is found in a reply document fails by the fault of the document: the error is
`.protocol fault` with `Garbled`. -/
theorem ofCommandReply_mapError_eq_error_iff (address : Address) (document : Document) :
    (Reply.ofCommandReply nextBatchField address document).mapError CursorError.protocol =
        .error error ↔
      ∃ fault, error = .protocol fault ∧ Garbled nextBatchField document fault := by
  simp only [← ofCommandReply_eq_error_iff nextBatchField address document]
  cases Reply.ofCommandReply nextBatchField address document <;> simp [eq_comm]

/-- An answer that carries an accepted document fails by the fault of the document: the only
`Unread` left is that of a `Garbled` one. -/
theorem unread_iff_of_document? {document : Document}
    (carries : response.document? connection.capability.supportsCommands = some document)
    (accepts : connection.capability.supportsCommands = true →
      Failure.ofReply? document = none) :
    Unread setup connection cursor response error ↔
      ∃ fault, error = .protocol fault ∧ Garbled nextBatchField document fault := by
  constructor
  · intro unread
    cases unread with
    | broken breaks => simp [breaks, Response.document?] at carries
    | refused commands reports =>
      cases reports with
      | refusal raised => simp [Response.document?] at carries
      | document read =>
        obtain rfl := Option.some.inj carries
        exact absurd (read.symm.trans (accepts commands)) (by simp)
    | failed messages refuses => simp [refuses, Response.document?] at carries
    | garbled others accepts garbled =>
      obtain rfl := Option.some.inj (carries.symm.trans others)
      exact ⟨_, rfl, garbled⟩
  · rintro ⟨fault, rfl, garbled⟩
    exact .garbled carries accepts garbled

/-- An answer to a command that reports a refusal fails by it, as `.ofFailure` with the cursor and
the address. -/
theorem unread_iff_of_reports {failure : Failure}
    (commands : connection.capability.supportsCommands = true)
    (reports : response.Reports failure) :
    Unread setup connection cursor response error ↔
      error = .ofFailure failure cursor setup.address := by
  constructor
  · intro unread
    cases unread with
    | broken breaks =>
      rw [breaks] at reports
      cases reports
    | refused _ others => rw [others.unique reports]
    | failed messages => exact absurd (commands.symm.trans messages) (by simp)
    | garbled carries accepts garbled =>
      cases reports with
      | refusal raised => simp [Response.document?] at carries
      | document read =>
        obtain rfl := Option.some.inj carries
        exact absurd ((accepts commands).symm.trans read) (by simp)
  · rintro rfl
    exact .refused commands reports

/-- An answer that breaks off fails by that: the only `Unread` of `.broken cause` is
`.transport cause`. -/
theorem unread_iff_of_broken {cause : TransportError} :
    Unread setup connection cursor (.broken cause) error ↔ error = .transport cause := by
  constructor
  · intro unread
    cases unread with
    | broken breaks => rw [Response.broken.inj breaks]
    | refused commands reports => cases reports
    | failed messages refuses => exact absurd refuses (by simp)
    | garbled carries => simp [Response.document?] at carries
  · rintro rfl
    exact .broken rfl

/-- The reply that brings a batch does not report a failure: `ofReply? batch.reply = none`. -/
theorem ofReply?_reply (batch : Batch) : Failure.ofReply? batch.reply = none := by
  simp [Failure.ofReply?, Failure.isSuccess, Batch.reply, Reply.commandReply, Document.get?,
    List.lookup_cons, Value.isTruthy]

/-- No reply is read in an answer to a command if it breaks off, if it reports a refusal or if its
document is at fault: `readFetch = .error error ↔ Unread`, by cases on the answer. -/
theorem readFetch_commands_eq_error_iff
    (commands : connection.capability.supportsCommands = true) :
    readFetch setup connection source cursor response = .error error ↔
      Unread setup connection cursor response error := by
  by_cases reports : ∃ failure, response.Reports failure
  · obtain ⟨failure, reports⟩ := reports
    rw [unread_iff_of_reports commands reports, readFetch, if_pos commands, reports.checked]
    simp [Except.bind, CursorError.naming, eq_comm]
  have accepted {document : Document} (accepts : Failure.ofReply? document = none) :
      checked document = .ok document := by simp [checked, Failure.check, accepts]
  rw [readFetch, if_pos commands]
  cases response with
  | success batch =>
    rw [unread_iff_of_document? (by rw [commands]; rfl) fun _ => ofReply?_reply batch]
    simp [Response.toCommand, Except.bind, accepted (ofReply?_reply batch),
      ofCommandReply_mapError_eq_error_iff]
  | reply document =>
    have accepts : Failure.ofReply? document = none := by
      cases found : Failure.ofReply? document with
      | none => rfl
      | some failure => exact absurd ⟨failure, .document found⟩ reports
    rw [unread_iff_of_document? rfl fun _ => accepts]
    simp [Response.toCommand, Except.bind, accepted accepts, ofCommandReply_mapError_eq_error_iff]
  | failure refusal raised => exact absurd ⟨refusal, .refusal raised⟩ reports
  | broken cause =>
    rw [unread_iff_of_broken]
    simp [Response.toCommand, Except.bind, CursorError.naming, eq_comm]

/-- No reply is read in an answer to a message if it breaks off, if it is a refusal or if its
document is at fault: the same equivalence where there are no commands. -/
theorem readFetch_messages_eq_error_iff
    (messages : connection.capability.supportsCommands = false) :
    readFetch setup connection source cursor response = .error error ↔
      Unread setup connection cursor response error := by
  rw [readFetch, if_neg (by simp [messages])]
  cases response with
  | success batch =>
    refine ⟨fun failed => absurd failed (by simp [Response.toGetMore]), fun unread => ?_⟩
    cases unread with
    | broken breaks => exact absurd breaks (by simp)
    | refused commands => exact absurd (commands.symm.trans messages) (by simp)
    | failed _ refuses => exact absurd refuses (by simp)
    | garbled carries => simp [Response.document?, messages] at carries
  | reply document =>
    rw [unread_iff_of_document? rfl fun commands => absurd (commands.symm.trans messages) (by simp)]
    simp [Response.toGetMore, ofCommandReply_mapError_eq_error_iff]
  | failure refusal raised =>
    refine ⟨fun failed => ?_, fun unread => ?_⟩
    · obtain rfl := Except.error.inj failed
      exact .failed messages rfl
    · cases unread with
      | broken breaks => exact absurd breaks (by simp)
      | refused commands => exact absurd (commands.symm.trans messages) (by simp)
      | failed _ refuses =>
        obtain ⟨rfl, -⟩ := Response.failure.inj refuses
        rfl
      | garbled carries => simp [Response.document?] at carries
  | broken cause =>
    rw [unread_iff_of_broken]
    simp [Response.toGetMore, eq_comm]

/-- **No reply is read in an answer** exactly in these ways: `readFetch = .error error ↔ Unread`. -/
theorem readFetch_eq_error_iff :
    readFetch setup connection source cursor response = .error error ↔
      Unread setup connection cursor response error := by
  cases commands : connection.capability.supportsCommands with
  | true => exact readFetch_commands_eq_error_iff commands
  | false => exact readFetch_messages_eq_error_iff commands

/-! ## Answers from which nothing is received -/

/-- **The ways nothing is received from an answer to a fetch**: no reply is read in it, or a
document of the reply is not decoded. -/
inductive Faulty (setup : Setup α) (connection : Connection) (source : Source)
    (cursor : ServerCursor) (response : Response Batch) : CursorError → Prop
  | unread {error : CursorError} (unread : Unread setup connection cursor response error) :
      Faulty setup connection source cursor response error
  /-- A document is not decoded, at any place in the batch. All documents before it are. -/
  | undecoded {reply : Reply Document} {before after : List Document} {document : Document}
      {error : DecodeError}
      (read : readFetch setup connection source cursor response = .ok reply)
      (documents : reply.documents = before ++ document :: after)
      (decoded : ∀ other ∈ before, ∃ item, setup.decode other = .ok item)
      (refuses : setup.decode document = .error error) :
      Faulty setup connection source cursor response (.decode error.message)

/-- Documents are not decoded if one of them is not, and the first such is reported: the ones
`before` it are all decoded, and nothing is said of those `after` it. -/
theorem decodeReply_eq_error_iff {reply : Reply Document} :
    decodeReply setup reply = .error error ↔
      ∃ before document after cause, reply.documents = before ++ document :: after ∧
        (∀ other ∈ before, ∃ item, setup.decode other = .ok item) ∧
        setup.decode document = .error cause ∧ error = .decode cause.message := by
  have one (document : Document) :
      ((setup.decode document).mapError fun cause => CursorError.decode cause.message) =
          .error error ↔
        ∃ cause, setup.decode document = .error cause ∧ error = .decode cause.message := by
    cases setup.decode document <;> simp [eq_comm]
  have other (document : Document) :
      (∃ item, ((setup.decode document).mapError fun cause =>
          CursorError.decode cause.message) = .ok item) ↔
        ∃ item, setup.decode document = .ok item := by
    cases setup.decode document <;> simp
  have all : decodeReply setup reply = .error error ↔ decodeAll setup reply.documents =
      .error error := by
    unfold decodeReply Reply.mapM decodeAll
    cases reply.documents.mapM fun document =>
      (setup.decode document).mapError fun cause => CursorError.decode cause.message <;>
      simp [Except.map]
  rw [all, decodeAll, mapM_eq_error_iff]
  simp only [one, other, exists_and_left]

/-- **Nothing is received from an answer** exactly in these ways:
`receive = .error error ↔ Faulty`. -/
theorem receive_eq_error_iff :
    receive setup connection source cursor response = .error error ↔
      Faulty setup connection source cursor response error := by
  unfold receive
  rw [bind_eq_error_iff, readFetch_eq_error_iff]
  constructor
  · rintro (unread | ⟨reply, read, failed⟩)
    · exact .unread unread
    · obtain ⟨before, document, after, cause, documents, decoded, refuses, rfl⟩ :=
        decodeReply_eq_error_iff.mp failed
      exact .undecoded read documents decoded refuses
  · intro faulty
    cases faulty with
    | unread unread => exact Or.inl unread
    | undecoded read documents decoded refuses =>
      exact Or.inr ⟨_, read,
        decodeReply_eq_error_iff.mpr ⟨_, _, _, _, documents, decoded, refuses, rfl⟩⟩

end Cursor

end DocumentCursor
