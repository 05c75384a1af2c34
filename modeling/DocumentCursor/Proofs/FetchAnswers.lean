import DocumentCursor.Proofs.RoundTripCases

/-! # What an answer brings

A batch reaches a cursor as a command reply or as a binary message, and either way it brings the
same documents and the same cursor to ask for more.

* **`ofCommandReply_commandReply`**: a reply that was written reads back as what was written.
* **`readFetch_success`**: what is read in an answer that carries a batch.
* **`receive_success`**: such an answer brings the decoded documents of the batch.
* **`cursor_of_receive_success`**: and it names the cursor of the batch.
* **`documents?_fetchRequest`**: what is received in any answer is what it brings.
-/

namespace DocumentCursor

open Net

/-! ## Replies that read back -/

/-- `(integer n.toInt).int64? = some n`: an integer of 64 bits is read as itself. -/
@[simp] theorem Value.int64?_integer (n : Int64) : (integer n.toInt).int64? = some n := by
  show (if Int64.minValue.toInt ≤ n.toInt ∧ n.toInt ≤ Int64.maxValue.toInt then
    some (Int64.ofInt n.toInt) else none) = some n
  rw [if_pos ⟨n.minValue_le_toInt, n.toInt_le⟩, Int64.ofInt_toInt]

/-- Documents that were written as values by `Value.document` are read as themselves, one by one. -/
theorem mapM_document?_map (field expected : String) (documents : List Document) :
    ((documents.map Value.document).mapM fun value =>
      Reply.expect field expected value.document?) = .ok documents := by
  induction documents with
  | nil => rfl
  | cons document documents ih =>
    rw [List.map_cons, List.mapM_cons, ih]
    rfl

/-- **A command reply reads back as what was written**, if its name is that of a collection:
`Reply.ofCommandReply` undoes `Reply.commandReply` for any `field` but the two that a cursor
document has anyway. -/
theorem ofCommandReply_commandReply {field : String} (hid : field ≠ "id") (hns : field ≠ "ns")
    (address : Address) (name : String) (documents : List Document) (id : Int64) :
    Reply.ofCommandReply field address (Reply.commandReply field name documents id) =
      (Namespace.parse name).map fun ns => .of ns documents id address := by
  set fields : Document := [("id", .integer id.toInt), ("ns", .text name),
    (field, .array (documents.map .document))] with hfields
  have opened : Reply.ofCommandReply field address (Reply.commandReply field name documents id) =
      Reply.ofCursorDocument field address fields := rfl
  have id_eq : Reply.require fields "id" = .ok (.integer id.toInt) := rfl
  have ns_eq : Reply.require fields "ns" = .ok (.text name) := rfl
  have batch_eq : Reply.require fields field = .ok (.array (documents.map .document)) := by
    have hid' : (field == "id") = false := by simpa using hid
    have hns' : (field == "ns") = false := by simpa using hns
    simp [hfields, Reply.require, Document.get?, List.lookup_cons, hid', hns']
  have items := mapM_document?_map field "array of documents" documents
  simp only [Reply.expect] at items
  rw [opened, Reply.ofCursorDocument, id_eq, ns_eq, batch_eq]
  simp only [bind, Except.bind, Reply.expect, Value.int64?_integer, Value.text?, Value.array?]
  cases Namespace.parse name with
  | error error => rfl
  | ok ns =>
    simp only [items]
    rfl

/-- What is done with the result of two parts is done with that of the second, since a failure of
the first has no result. -/
theorem map_bind_except {ε β γ δ : Type} (first : Except ε β) (next : β → Except ε γ) (f : γ → δ) :
    (first >>= next).map f = first >>= fun value => (next value).map f := by
  cases first <;> rfl

/-- The address at which a reply is read says nothing about what is read: it is put into the reply
as it is. -/
theorem ofCommandReply_address (field : String) (address other : Address) (document : Document) :
    Reply.ofCommandReply field address document =
      (Reply.ofCommandReply field other document).map fun reply => { reply with address } := by
  -- The address is only put into the reply at the end of the reading.
  have fields (cursor : Document) :
      Reply.ofCursorDocument field address cursor =
        (Reply.ofCursorDocument field other cursor).map fun reply => { reply with address } := by
    simp only [Reply.ofCursorDocument, map_bind_except]
    rfl
  simp only [Reply.ofCommandReply, map_bind_except, fields]

namespace Cursor

/-! ## Batches -/

section Batches

variable {α : Type} (setup : Setup α) (connection : Connection) (source : Source)
  (cursor : ServerCursor)

/-- **An answer that carries a batch** names its collection where there are commands, and is about
the collection of the cursor otherwise. So only a command reply can be refused for its name. -/
theorem readFetch_success (batch : Batch) :
    readFetch setup connection source cursor (.success batch) =
      if connection.capability.supportsCommands then
        ((Namespace.parse batch.name).map fun ns =>
          .of ns batch.documents batch.cursorId source.address).mapError .protocol
      else .ok (.of setup.ns batch.documents batch.cursorId setup.address) := by
  unfold readFetch
  split
  · have read : Reply.ofCommandReply nextBatchField source.address batch.reply =
        (Namespace.parse batch.name).map fun ns =>
          .of ns batch.documents batch.cursorId source.address :=
      ofCommandReply_commandReply (by decide) (by decide) ..
    rw [← read]
    rfl
  · rfl

/-- The documents of a batch, decoded one by one. -/
def decodeAll (setup : Setup α) (documents : List Document) : Except CursorError (List α) :=
  documents.mapM fun document =>
    (setup.decode document).mapError fun error => .decode error.message

/-- `decodeReply` keeps everything of a reply but the documents, which are those of `decodeAll`. -/
theorem decodeReply_of (ns : Namespace) (documents : List Document) (id : Int64)
    (address : Address) :
    decodeReply setup (.of ns documents id address) =
      (decodeAll setup documents).map fun items => .of ns items id address :=
  rfl

/-- **An answer that carries a batch brings its documents**, if its name is that of a collection and
every document is decoded: `receive` succeeds, in either protocol. -/
theorem receive_success (batch : Batch) {ns : Namespace} {items : List α}
    (hname : Namespace.parse batch.name = .ok ns)
    (hitems : decodeAll setup batch.documents = .ok items) :
    ∃ ns address, receive setup connection source cursor (.success batch) =
      .ok (.of ns items batch.cursorId address) := by
  unfold receive
  rw [readFetch_success, hname]
  split
  · refine ⟨ns, source.address, ?_⟩
    simp only [Except.map, mapError_ok, Except.bind, decodeReply_of, hitems]
  · refine ⟨setup.ns, setup.address, ?_⟩
    simp only [Except.bind, decodeReply_of, hitems, Except.map]

/-- **An answer that carries a batch names its cursor**, whatever the protocol: the one that
`ServerCursor.of?` makes of `batch.cursorId`, which is none for zero. -/
theorem cursor_of_receive_success {batch : Batch} {reply : Reply α}
    (h : receive setup connection source cursor (.success batch) = .ok reply) :
    ∃ ns, reply.cursor = ServerCursor.of? batch.cursorId ns := by
  have named (ns : Namespace) (address : Address)
      (h : decodeReply setup (.of ns batch.documents batch.cursorId address) = .ok reply) :
      reply.cursor = ServerCursor.of? batch.cursorId ns := by
    rw [decodeReply_of] at h
    cases hd : decodeAll setup batch.documents with
    | error error => simp [hd, Except.map] at h
    | ok items =>
      simp only [hd, Except.map, Except.ok.injEq] at h
      rw [← h]
      rfl
  unfold receive at h
  rw [readFetch_success] at h
  split at h
  · cases hn : Namespace.parse batch.name with
    | error error => simp [hn, Except.map, Except.bind] at h
    | ok ns =>
      simp only [hn, Except.map, mapError_ok, Except.bind] at h
      exact ⟨ns, named ns _ h⟩
  · exact ⟨setup.ns, named _ _ h⟩

end Batches

/-! ## Any answer -/

section Answers

variable {α : Type} (setup : Setup α)

/-- **What the answer to a request brings**: its documents, decoded. There are none if it reports a
failure, cannot be read, or has a document that cannot be decoded. The request says in which
protocol the answer is read. -/
def documents? (request : Request) (response : Response Batch) : Option (List α) :=
  let reply := match request with
    | .command .. => ((response.toCommand Batch.reply).bind checked).bind fun reply =>
        (Reply.ofCommandReply nextBatchField setup.address reply).mapError .protocol
    | _ => response.toGetMore setup.ns setup.address
  (reply.bind fun reply => decodeAll setup reply.documents).toOption

/-- **What is received in an answer is what it brings**: the documents that `receive` finds in the
answer to a `fetchRequest` are those of `documents?`. -/
theorem documents?_fetchRequest (connection : Connection) (source : Source)
    (cursor : ServerCursor) (state : State α) (response : Response Batch) :
    documents? setup (fetchRequest setup connection source cursor state) response =
      (receive setup connection source cursor response).toOption.map (·.documents) := by
  have decoded (reply : Reply Document) :
      (decodeAll setup reply.documents).toOption =
        (decodeReply setup reply).toOption.map (·.documents) := by
    unfold decodeReply Reply.mapM
    show (decodeAll setup reply.documents).toOption =
      ((decodeAll setup reply.documents).map _).toOption.map _
    cases decodeAll setup reply.documents <;> rfl
  unfold documents? fetchRequest receive readFetch
  cases connection.capability.supportsCommands with
  | true =>
    -- An error that is named with the cursor is an error still, and brings nothing.
    simp only [if_true]
    cases (response.toCommand Batch.reply).bind checked with
    | error error => rfl
    | ok document =>
      simp only [mapError_ok, Except.bind]
      rw [ofCommandReply_address nextBatchField setup.address source.address]
      cases Reply.ofCommandReply nextBatchField source.address document with
      | error error => rfl
      | ok reply => exact decoded reply
  | false =>
    simp only [Bool.false_eq_true, if_false]
    cases response.toGetMore setup.ns setup.address with
    | error error => rfl
    | ok reply => exact decoded reply

/-- What the answers to requests bring, in order, where they bring something. After the last answer
every further one is an empty last batch. -/
def answered : List Request → List (Turn Batch) → List (List α)
  | [], _ => []
  | request :: requests, turns =>
    (documents? setup request
      (turns.headD ⟨.success ⟨[], 0, setup.ns.fullName⟩, false⟩).response).toList ++
        answered requests turns.tail

/-- One more request is answered by the next answer, at the place `requests.length` in `turns`. -/
theorem answered_concat (requests : List Request) (request : Request) (turns : List (Turn Batch)) :
    answered setup (requests ++ [request]) turns = answered setup requests turns ++
      (documents? setup request ((turns.drop requests.length).headD
        ⟨.success ⟨[], 0, setup.ns.fullName⟩, false⟩).response).toList := by
  induction requests generalizing turns with
  | nil => simp [answered]
  | cons first requests ih =>
    rw [List.cons_append, answered, answered, ih, List.append_assoc, List.length_cons,
      ← List.drop_tail]

end Answers

end Cursor

end DocumentCursor
