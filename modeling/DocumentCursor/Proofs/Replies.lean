import DocumentCursor.Proofs.FetchAnswers
import DocumentCursor.Proofs.Faults
import DocumentCursor.Proofs.FullNames

/-! # Command replies

A command reply is read if it has the form of one, and what was written as a reply reads back. Of a
reply that has another form all faults can be listed, in the order in which its fields are looked
at; the first one in the list is the one that is reported, whatever follows it.

* **`Brings`**: a reply has the form of one that brings these documents.
* **`faults`**: everything that is wrong with a reply, in order.
* **`error_iff_head?`**: a step of the reading fails by the first fault of its field and of what
  follows.
* **`ofCommandReply_eq_ok_iff`** and **`ofCommandReply_eq_error_iff_head?`**: what is read, and
  which error is reported.
* **`command_replies_exact`**: all of it.
-/

namespace DocumentCursor.Reply

open Net

/-! ## The form of a reply -/

/-- **A reply has the form of one that brings these documents**: in its field `cursor` are an
integer of 64 bits as `id`, the full name of the collection as `ns`, and the documents as an array
in `batchField`. -/
def Brings (batchField : String) (reply : Document) (ns : Namespace) (documents : List Document)
    (id : Int64) : Prop :=
  ∃ cursor : Document, reply.get? "cursor" = some (.document cursor) ∧
    cursor.get? "id" = some (.integer id.toInt) ∧
    cursor.get? "ns" = some (.text ns.fullName) ∧
    cursor.get? batchField = some (.array (documents.map .document))

/-- What a field of a reply has to hold. -/
inductive Demand where
  | int64
  | string
  | array
  | document

namespace Demand

/-- How errors name what was demanded: the `expected` of `.unexpectedType`. -/
def name : Demand → String
  | int64 => "int64"
  | string => "string"
  | array => "array"
  | document => "document"

/-- Whether a value is of the demanded type. A floating-point number is no integer, and neither is a
number beyond 64 bits. -/
def fits : Demand → Value → Bool
  | int64, .integer n => Int64.minValue.toInt ≤ n ∧ n ≤ Int64.maxValue.toInt
  | string, .text _ => true
  | array, .array _ => true
  | document, .document _ => true
  | _, _ => false

/-- A view finds the values of the demanded type: `fits value` is whether `view value` is there. -/
def Viewed {β : Type} (demand : Demand) (view : Value → Option β) : Prop :=
  ∀ value, demand.fits value = (view value).isSome

theorem viewed_int64 : int64.Viewed Value.int64? := by
  intro value
  cases value with
  | integer n =>
    simp only [fits, Value.int64?]
    split
    · rename_i within
      exact decide_eq_true within
    · rename_i beyond
      exact decide_eq_false beyond
  | _ => rfl

theorem viewed_string : string.Viewed Value.text? := by
  intro value
  cases value <;> rfl

theorem viewed_array : array.Viewed Value.array? := by
  intro value
  cases value <;> rfl

theorem viewed_document : document.Viewed Value.document? := by
  intro value
  cases value <;> rfl

end Demand

/-! ## Fields that are held -/

section Held

variable {document : Document} {field : String}

/-- A field holds a text: `Holds` by `Value.text?` is `get? field = some (.text name)`. -/
theorem holds_text_iff {name : String} :
    Holds document field Value.text? name ↔ document.get? field = some (.text name) := by
  cases there : document.get? field with
  | none => simp [Holds, there]
  | some value => cases value <;> simp [Holds, there, Value.text?]

/-- A field holds an array: `Holds` by `Value.array?` is `get? field = some (.array items)`. -/
theorem holds_array_iff {items : List Value} :
    Holds document field Value.array? items ↔ document.get? field = some (.array items) := by
  cases there : document.get? field with
  | none => simp [Holds, there]
  | some value => cases value <;> simp [Holds, there, Value.array?]

/-- A field holds a document: `Holds` by `Value.document?` is
`get? field = some (.document inner)`. -/
theorem holds_document_iff {inner : Document} :
    Holds document field Value.document? inner ↔
      document.get? field = some (.document inner) := by
  cases there : document.get? field with
  | none => simp [Holds, there]
  | some value => cases value <;> simp [Holds, there, Value.document?]

/-- A field holds an integer of 64 bits: `Holds` by `Value.int64?` is `get? field` of that
integer. -/
theorem holds_int64_iff {id : Int64} :
    Holds document field Value.int64? id ↔ document.get? field = some (.integer id.toInt) := by
  constructor
  · intro held
    obtain ⟨value, there, typed⟩ := Option.bind_eq_some_iff.mp held
    cases value with
    | integer n =>
      simp only [Value.int64?] at typed
      split at typed
      · rename_i within
        have above : n < 2 ^ 63 := by
          rw [show Int64.maxValue.toInt = 2 ^ 63 - 1 from rfl] at within
          omega
        rw [there, ← Option.some.inj typed, Int64.toInt_ofInt_of_le within.1 above]
      · cases typed
    | _ => cases typed
  · intro there
    rw [Holds, there, Option.bind_some, Value.int64?_integer]

end Held

/-! ## Everything that is wrong -/

/-- What is wrong with a field by itself: it is missing, or it holds something of another type. A
list, so that the faults of several fields can be put one after the other. -/
def fieldFaults (document : Document) (field : String) (demand : Demand) : List ProtocolError :=
  match document.get? field with
  | none => [.missingField field]
  | some value => if demand.fits value then [] else [.unexpectedType field demand.name]

/-- What is wrong with the name of the collection: nothing stands in front of its first dot, or
nothing follows it. Nothing is, here, if the field holds no text. -/
def nameFaults (cursor : Document) : List ProtocolError :=
  match cursor.get? "ns" with
  | some (.text name) =>
    if '.' ∈ name.toList ∧ 0 < Namespace.firstDot name ∧
      Namespace.firstDot name + 1 < name.toList.length then []
    else [.invalidNamespace name]
  | _ => []

/-- What is wrong with the items of the batch: each one that is not a document gives the same
`.unexpectedType`. -/
def itemFaults (batchField : String) (cursor : Document) : List ProtocolError :=
  match cursor.get? batchField with
  | some (.array items) => (items.filter fun item => !Demand.document.fits item).map fun _ =>
      .unexpectedType batchField "array of documents"
  | _ => []

/-- What is wrong with the cursor of a reply, field by field: `id`, `ns` with its name, and the
batch with its items. -/
def cursorFaults (batchField : String) (cursor : Document) : List ProtocolError :=
  fieldFaults cursor "id" .int64 ++ (fieldFaults cursor "ns" .string ++ (nameFaults cursor ++
    (fieldFaults cursor batchField .array ++ itemFaults batchField cursor)))

/-- **Everything that is wrong with a reply**, in the order in which it is looked at. The error of a
reply is the `head?` of this list. -/
def faults (batchField : String) (reply : Document) : List ProtocolError :=
  fieldFaults reply "cursor" .document ++
    match reply.get? "cursor" with
    | some (.document cursor) => cursorFaults batchField cursor
    | _ => []

/-! ## The first fault -/

section Steps

variable {β γ : Type} {document cursor : Document} {field batchField : String}
  {demand : Demand} {view : Value → Option β}

/-- **A field is at fault** if it is missing or holds a value of another type, and in no other way:
`Lacks` is the first of `fieldFaults`. -/
theorem lacks_iff_head? (viewed : demand.Viewed view) {error : ProtocolError} :
    Lacks document field demand.name view error ↔
      (fieldFaults document field demand).head? = some error := by
  constructor
  · intro lacks
    cases lacks with
    | missing absent => simp [fieldFaults, absent]
    | mistyped there other => simp [fieldFaults, there, viewed _, other]
  · intro first
    unfold fieldFaults at first
    split at first
    · rename_i absent
      obtain rfl := Option.some.inj first
      exact .missing absent
    · rename_i value there
      split at first
      · cases first
      · rename_i unfit
        obtain rfl := Option.some.inj first
        refine .mistyped there ?_
        rwa [viewed value, Bool.not_eq_true, Option.isSome_eq_false_iff, Option.isNone_iff_eq_none]
          at unfit

/-- Nothing is wrong with a field that holds a value of the demanded type: its `fieldFaults` are
`[]`. -/
theorem fieldFaults_of_holds (viewed : demand.Viewed view) {value : β}
    (held : Holds document field view value) : fieldFaults document field demand = [] := by
  obtain ⟨found, there, typed⟩ := Option.bind_eq_some_iff.mp held
  simp [fieldFaults, there, viewed found, typed]

/-- A field at fault holds nothing: with a first of its `fieldFaults`, `Holds` is false of every
value. -/
theorem not_holds_of_head? (viewed : demand.Viewed view) {error : ProtocolError}
    (first : (fieldFaults document field demand).head? = some error) (value : β) :
    ¬Holds document field view value := by
  intro held
  rw [fieldFaults_of_holds viewed held] at first
  cases first

/-- **A field that is read fails by its own fault, or by the first of the faults that follow**: the
error is the `head?` of `fieldFaults ++ rest`, if that of `next` is the one of `rest`. -/
theorem error_iff_head? (viewed : demand.Viewed view) {error : ProtocolError}
    {next : β → Except ProtocolError γ} {rest : List ProtocolError}
    (follow : ∀ value, Holds document field view value →
      (next value = .error error ↔ rest.head? = some error)) :
    ((require document field).bind fun value =>
        (expect field demand.name (view value)).bind next) = .error error ↔
      (fieldFaults document field demand ++ rest).head? = some error := by
  rw [require_eq_error_iff, lacks_iff_head? viewed]
  cases own : fieldFaults document field demand with
  | cons fault others =>
    -- Nothing is held by a field at fault, so that nothing is read after it.
    have first : (fieldFaults document field demand).head? = some fault := by
      rw [own, List.head?_cons]
    simp [not_holds_of_head? viewed first]
  | nil =>
    -- A field without a fault is held.
    obtain ⟨value, held⟩ : ∃ value, Holds document field view value := by
      unfold fieldFaults at own
      split at own
      · cases own
      · rename_i value there
        split at own
        · rename_i fit
          rw [viewed value] at fit
          obtain ⟨item, typed⟩ := Option.isSome_iff_exists.mp fit
          exact ⟨item, by rw [Holds, there, Option.bind_some, typed]⟩
        · cases own
    rw [List.nil_append, ← follow value held]
    constructor
    · rintro (none | ⟨other, found, failed⟩)
      · cases none
      · rwa [Option.some.inj (held.symm.trans found)]
    · exact fun failed => Or.inr ⟨value, held, failed⟩

/-- What is read after the name fails by the fault of the name, or by the first that follows: the
error is the `head?` of `nameFaults cursor ++ rest`. -/
theorem parse_error_iff_head? {error : ProtocolError} {name : String}
    (named : Holds cursor "ns" Value.text? name) {next : Namespace → Except ProtocolError γ}
    {rest : List ProtocolError}
    (follow : ∀ ns, Namespace.parse name = .ok ns →
      (next ns = .error error ↔ rest.head? = some error)) :
    (Namespace.parse name).bind next = .error error ↔
      (nameFaults cursor ++ rest).head? = some error := by
  simp only [nameFaults, holds_text_iff.mp named]
  cases parsed : Namespace.parse name with
  | ok ns =>
    have full := Namespace.exists_fullName_iff.mp ⟨ns, Namespace.parse_eq_ok_iff.mp parsed⟩
    rw [if_pos full, List.nil_append, ← follow ns parsed]
    rfl
  | error fault =>
    obtain rfl := Namespace.parse_eq_error parsed
    have unnamed : ¬∃ ns : Namespace, ns.fullName = name := by
      rintro ⟨ns, rfl⟩
      rw [Namespace.parse_fullName] at parsed
      cases parsed
    rw [if_neg (mt Namespace.exists_fullName_iff.mpr unnamed)]
    simp [Except.bind]

/-- **The items of a batch fail by the first of them that is not a document**: the error is the
`head?` of `itemFaults`. -/
theorem items_error_iff_head? {error : ProtocolError} {items : List Value}
    (filled : Holds cursor batchField Value.array? items)
    (result : List Document → Reply Document) :
    ((items.mapM fun value => expect batchField "array of documents" value.document?).bind
        fun documents => .ok (result documents)) = .error error ↔
      (itemFaults batchField cursor).head? = some error := by
  have failing : ((items.mapM fun value =>
      expect batchField "array of documents" value.document?).bind
        fun documents => .ok (result documents)) = .error error ↔
      (items.mapM fun value =>
        expect batchField "array of documents" value.document?) = .error error := by
    rw [bind_eq_error_iff]
    simp
  rw [failing, expect_documents_eq_error_iff]
  simp only [itemFaults, holds_array_iff.mp filled, List.head?_map, Option.map_eq_some_iff]
  constructor
  · rintro ⟨rfl, item, listed, other⟩
    have kept : item ∈ items.filter fun item => !Demand.document.fits item := by
      rw [List.mem_filter, Demand.viewed_document item, other]
      exact ⟨listed, rfl⟩
    obtain ⟨first, rest, whole⟩ := List.exists_cons_of_ne_nil (List.ne_nil_of_mem kept)
    exact ⟨first, by rw [whole, List.head?_cons], rfl⟩
  · rintro ⟨item, first, rfl⟩
    obtain ⟨listed, unfit⟩ := List.mem_filter.mp (List.mem_of_head? first)
    rw [Demand.viewed_document item, Bool.not_eq_true', Option.isSome_eq_false_iff,
      Option.isNone_iff_eq_none] at unfit
    exact ⟨rfl, item, listed, unfit⟩

end Steps

/-- **The error is the first fault of the cursor**: `ofCursorDocument = .error error` exactly if it
is the `head?` of `cursorFaults`. -/
theorem ofCursorDocument_eq_error_iff_head? {error : ProtocolError} (batchField : String)
    (address : Address) (cursor : Document) :
    ofCursorDocument batchField address cursor = .error error ↔
      (cursorFaults batchField cursor).head? = some error := by
  unfold ofCursorDocument cursorFaults
  -- The steps and the list of faults are taken apart alike, one field after the other.
  refine error_iff_head? Demand.viewed_int64 fun id numbered => ?_
  refine error_iff_head? Demand.viewed_string fun name named => ?_
  refine parse_error_iff_head? named fun ns parsed => ?_
  refine error_iff_head? Demand.viewed_array fun items filled => ?_
  exact items_error_iff_head? filled fun documents => of ns documents id address

/-- **The error is the first fault of the reply**: `ofCommandReply = .error error` exactly if it is
the `head?` of `faults`. -/
theorem ofCommandReply_eq_error_iff_head? {error : ProtocolError} (batchField : String)
    (address : Address) (reply : Document) :
    ofCommandReply batchField address reply = .error error ↔
      (faults batchField reply).head? = some error := by
  unfold ofCommandReply faults
  refine error_iff_head? Demand.viewed_document fun cursor held => ?_
  rw [holds_document_iff.mp held]
  exact ofCursorDocument_eq_error_iff_head? batchField address cursor

/-! ## What is read -/

/-- What is read after a field succeeds if the field holds a value with which it does: `.ok result`
exactly if `Holds` and `next value = .ok result`. -/
theorem require_eq_ok_iff {β γ : Type} {result : γ} (document : Document)
    (field expected : String) (view : Value → Option β) (next : β → Except ProtocolError γ) :
    ((require document field).bind fun value =>
        (expect field expected (view value)).bind next) = .ok result ↔
      ∃ value, Holds document field view value ∧ next value = .ok result := by
  unfold require Holds
  cases document.get? field with
  | none => simp [Except.bind]
  | some value => cases typed : view value <;> simp [Except.bind, expect, typed]

/-- **The items of a batch are read** if they are all documents, and as what they are:
`items = documents.map .document`. -/
theorem mapM_document?_eq_ok_iff {field expected : String} {items : List Value}
    {documents : List Document} :
    (items.mapM fun value => expect field expected value.document?) = .ok documents ↔
      items = documents.map .document := by
  constructor
  · intro read
    induction items generalizing documents with
    | nil =>
      obtain rfl := Except.ok.inj read
      rfl
    | cons item items ih =>
      rw [List.mapM_cons] at read
      obtain ⟨first, typed, read⟩ := bind_eq_ok_iff.mp read
      obtain ⟨others, rest, made⟩ := bind_eq_ok_iff.mp read
      obtain rfl := Except.ok.inj made
      cases item with
      | document fields =>
        obtain rfl := Except.ok.inj typed
        rw [List.map_cons, ← ih rest]
      | _ => cases typed
  · rintro rfl
    exact mapM_document?_map field expected documents

/-- **A reply is read if it has the form of one**, and as what it brings:
`ofCommandReply = .ok result` exactly if `Brings`, with `result = of ns documents id address`. -/
theorem ofCommandReply_eq_ok_iff {result : Reply Document} (batchField : String)
    (address : Address) (reply : Document) :
    ofCommandReply batchField address reply = .ok result ↔
      ∃ ns documents id, Brings batchField reply ns documents id ∧
        result = of ns documents id address := by
  unfold ofCommandReply ofCursorDocument
  refine (require_eq_ok_iff ..).trans ?_
  simp only [holds_document_iff]
  constructor
  · rintro ⟨cursor, opened, read⟩
    obtain ⟨id, numbered, read⟩ := (require_eq_ok_iff ..).mp read
    obtain ⟨name, named, read⟩ := (require_eq_ok_iff ..).mp read
    obtain ⟨ns, parsed, read⟩ := bind_eq_ok_iff.mp read
    obtain ⟨items, filled, read⟩ := (require_eq_ok_iff ..).mp read
    obtain ⟨documents, items_eq, made⟩ := bind_eq_ok_iff.mp read
    obtain rfl := Namespace.parse_eq_ok_iff.mp parsed
    obtain rfl := mapM_document?_eq_ok_iff.mp items_eq
    exact ⟨ns, documents, id, ⟨cursor, opened, holds_int64_iff.mp numbered,
      holds_text_iff.mp named, holds_array_iff.mp filled⟩, (Except.ok.inj made).symm⟩
  · rintro ⟨ns, documents, id, ⟨cursor, opened, numbered, named, filled⟩, rfl⟩
    refine ⟨cursor, opened, ?_⟩
    refine (require_eq_ok_iff ..).mpr ⟨id, holds_int64_iff.mpr numbered, ?_⟩
    refine (require_eq_ok_iff ..).mpr ⟨ns.fullName, holds_text_iff.mpr named, ?_⟩
    refine bind_eq_ok_iff.mpr ⟨ns, Namespace.parse_fullName ns, ?_⟩
    refine (require_eq_ok_iff ..).mpr ⟨_, holds_array_iff.mpr filled, ?_⟩
    exact bind_eq_ok_iff.mpr ⟨documents, mapM_document?_eq_ok_iff.mpr rfl, rfl⟩

/-- **Only the fields that are asked for matter**, and not where they stand among others: replies
whose cursors agree on `id`, `ns` and `batchField` are read alike. -/
theorem ofCommandReply_congr {batchField : String} {address : Address}
    {reply other cursor cursor' : Document}
    (opened : reply.get? "cursor" = some (.document cursor))
    (opened' : other.get? "cursor" = some (.document cursor'))
    (same : ∀ name ∈ ["id", "ns", batchField], cursor.get? name = cursor'.get? name) :
    ofCommandReply batchField address reply = ofCommandReply batchField address other := by
  have required (name : String) (listed : name ∈ ["id", "ns", batchField]) :
      require cursor name = require cursor' name := by
    rw [require, require, same name listed]
  have within : ofCursorDocument batchField address cursor =
      ofCursorDocument batchField address cursor' := by
    unfold ofCursorDocument
    rw [required "id" (by simp), required "ns" (by simp), required batchField (by simp)]
  unfold ofCommandReply
  rw [require, require, opened, opened']
  exact within

/-- A reply has a cursor exactly if its number is not zero: `cursor.isSome ↔ id ≠ 0`. -/
theorem cursor_of_isSome {α : Type} (ns : Namespace) (documents : List α) (id : Int64)
    (address : Address) : (of ns documents id address).cursor.isSome ↔ id ≠ 0 := by
  show (ServerCursor.of? id ns).isSome ↔ id ≠ 0
  unfold ServerCursor.of?
  split <;> simp_all

/-- The cursor of a reply has the number and the collection that the reply names. -/
theorem mem_cursor_of {α : Type} {ns : Namespace} {documents : List α} {id : Int64}
    {address : Address} {cursor : ServerCursor}
    (held : cursor ∈ (of ns documents id address).cursor) : cursor.id = id ∧ cursor.ns = ns := by
  have held : ServerCursor.of? id ns = some cursor := held
  unfold ServerCursor.of? at held
  split at held
  · obtain rfl := Option.some.inj held
    exact ⟨rfl, rfl⟩
  · cases held

/-! ## All of it -/

/-- **Command replies are exact.** A reply is read if and only if it has the form of one: a document
as its cursor, in it an integer of 64 bits as the number, the full name of a collection, and an
array of nothing but documents as the batch. What is read has that collection, these documents in
their order with their fields in theirs, the given address, and a cursor exactly if the number is
not zero. Otherwise the error is the first of everything that is wrong with the reply. Nothing
matters but the fields that are asked for. What is written as a reply, in a field other than those
of the number and the name, reads back as what was written. -/
theorem command_replies_exact (batchField : String) (address : Address) :
    (∀ reply result, ofCommandReply batchField address reply = .ok result ↔
      ∃ ns documents id, Brings batchField reply ns documents id ∧
        result = of ns documents id address) ∧
    (∀ (ns : Namespace) (documents : List Document) (id : Int64),
      let result := of ns documents id address
      result.ns = ns ∧ result.documents = documents ∧ result.address = address ∧
        (result.cursor.isSome ↔ id ≠ 0) ∧
        ∀ cursor ∈ result.cursor, cursor.id = id ∧ cursor.ns = ns) ∧
    (∀ reply error, ofCommandReply batchField address reply = .error error ↔
      (faults batchField reply).head? = some error) ∧
    (∀ reply other cursor cursor' : Document, reply.get? "cursor" = some (.document cursor) →
      other.get? "cursor" = some (.document cursor') →
      (∀ name ∈ ["id", "ns", batchField], cursor.get? name = cursor'.get? name) →
      ofCommandReply batchField address reply = ofCommandReply batchField address other) ∧
    (batchField ≠ "id" → batchField ≠ "ns" → ∀ (ns : Namespace) documents id,
      ofCommandReply batchField address (commandReply batchField ns.fullName documents id) =
        .ok (of ns documents id address)) := by
  refine ⟨fun reply result => ofCommandReply_eq_ok_iff batchField address reply,
    fun ns documents id => ?_, fun reply error => ?_, fun reply other cursor cursor' => ?_, ?_⟩
  · exact ⟨rfl, rfl, rfl, cursor_of_isSome ns documents id address, fun _ => mem_cursor_of⟩
  · exact ofCommandReply_eq_error_iff_head? batchField address reply
  · exact ofCommandReply_congr
  · intro notId notNs ns documents id
    rw [ofCommandReply_commandReply notId notNs, Namespace.parse_fullName]
    rfl

/-- A reply with five faults, of which the number comes first, one that reads back, and another one
in which only the place of its fields differs from what is written. -/
theorem command_replies_exact_small :
    ofCommandReply "nextBatch" .localhost [("ok", .null), ("cursor", .document
        [("nextBatch", .array [.null, .document [], .integer 1]), ("ns", .text "db."),
          ("id", .integer 9223372036854775808)])] =
      .error (.unexpectedType "id" "int64") ∧
    ∃ ns, Namespace.parse "db.coll" = .ok ns ∧
      ofCommandReply "nextBatch" .localhost
          (commandReply "nextBatch" ns.fullName [[("b", .null), ("a", .null)], []] 7) =
        .ok (of ns [[("b", .null), ("a", .null)], []] 7 .localhost) ∧
      ofCommandReply "nextBatch" .localhost [("x", .null), ("cursor", .document
          [("nextBatch", .array []), ("y", .null), ("ns", .text "db.coll"), ("id", .integer 7)])] =
        ofCommandReply "nextBatch" .localhost (commandReply "nextBatch" "db.coll" [] 7) := by
  obtain ⟨-, -, failing, others, written⟩ := command_replies_exact "nextBatch" .localhost
  refine ⟨(failing _ _).mpr (by decide), ⟨"db", "coll", by decide, by decide, by decide⟩, rfl,
    written (by decide) (by decide) _ _ _, others _ _ _ _ rfl rfl fun name listed => ?_⟩
  simp only [List.mem_cons, List.not_mem_nil, or_false] at listed
  obtain rfl | rfl | rfl := listed <;> rfl

end DocumentCursor.Reply
