import DocumentCursor.Document.Namespace
import DocumentCursor.Document.Value
import DocumentCursor.Net.Address

/-! # Replies to queries

A reply brings documents of a collection and, while the server holds more of them, the cursor to ask
for the rest. In a command reply they stand in the field `cursor`: the number of the cursor in `id`,
zero for none, the full name of the collection in `ns`, and the documents in a field that is named
differently for the first batch and the next ones.

Main definitions:

* `ServerCursor` and `Reply`;
* `Reply.ofCursorDocument` and `Reply.ofCommandReply` read a command reply;
* `Reply.commandReply` writes one.
-/

namespace DocumentCursor

open Net

/-- A cursor that a server holds. Its number is never zero, by `id_ne_zero`. -/
structure ServerCursor where
  id : Int64
  ns : Namespace
  id_ne_zero : id ≠ 0
  deriving DecidableEq, Repr

namespace ServerCursor

/-- The cursor of a number; zero stands for none, so `of? 0 ns` is `none`. -/
def of? (id : Int64) (ns : Namespace) : Option ServerCursor :=
  if h : id ≠ 0 then some ⟨id, ns, h⟩ else none

/-- How a cursor is named in messages: by its number and its full name. -/
def text (cursor : ServerCursor) : String :=
  "cursor " ++ toString cursor.id.toInt ++ " on " ++ cursor.ns.fullName

instance : ToString ServerCursor := ⟨text⟩

@[simp] theorem of?_zero (ns : Namespace) : of? 0 ns = none := by simp [of?]

@[simp] theorem of?_id (cursor : ServerCursor) : of? cursor.id cursor.ns = some cursor := by
  simp [of?, cursor.id_ne_zero]

end ServerCursor

/-- The documents that one round trip brought, decoded or not, with the cursor for more. -/
structure Reply (α : Type) where
  ns : Namespace
  address : Address
  documents : List α
  cursor : Option ServerCursor
  deriving DecidableEq, Repr

namespace Reply

/-- The reply with the cursor of the given number, which is none for `0`. -/
def of {α : Type} (ns : Namespace) (documents : List α) (cursorId : Int64) (address : Address) :
    Reply α :=
  ⟨ns, address, documents, ServerCursor.of? cursorId ns⟩

/-- The number of the cursor, zero if there is none: what `of` was given. -/
def cursorId {α : Type} (reply : Reply α) : Int64 := (reply.cursor.map (·.id)).getD 0

/-- Converts every document; the first that fails is the failure of all. Everything else of the
reply stays. -/
def mapM {α β ε : Type} (f : α → Except ε β) (reply : Reply α) : Except ε (Reply β) :=
  (reply.documents.mapM f).map fun documents =>
    ⟨reply.ns, reply.address, documents, reply.cursor⟩

/-! ## Command replies -/

/-- The value of a field that must be there, or `.missingField field`. -/
def require (document : Document) (field : String) : Except ProtocolError Value :=
  match document.get? field with
  | some value => .ok value
  | none => .error (.missingField field)

/-- A value of a field as the type that the field must have, or `.unexpectedType field expected`. -/
def expect {α : Type} (field expected : String) : Option α → Except ProtocolError α
  | some value => .ok value
  | none => .error (.unexpectedType field expected)

/-- Reads the field `cursor` of a command reply. Of several faults the first of these is reported:
the number `id`, the name `ns`, the batch in `batchField`, its documents. -/
def ofCursorDocument (batchField : String) (address : Address) (cursor : Document) :
    Except ProtocolError (Reply Document) := do
  let id ← expect "id" "int64" (← require cursor "id").int64?
  let name ← expect "ns" "string" (← require cursor "ns").text?
  let ns ← Namespace.parse name
  let batch ← expect batchField "array" (← require cursor batchField).array?
  let documents ← batch.mapM fun value =>
    expect batchField "array of documents" value.document?
  return of ns documents id address

/-- Reads a command reply: its field `cursor` must hold a document, which `ofCursorDocument`
reads. -/
def ofCommandReply (batchField : String) (address : Address) (reply : Document) :
    Except ProtocolError (Reply Document) := do
  let cursor ← expect "cursor" "document" (← require reply "cursor").document?
  ofCursorDocument batchField address cursor

/-- The command reply that brings documents of the given collection, in the fields that
`ofCommandReply` reads, and `ok`. -/
def commandReply (batchField : String) (name : String) (documents : List Document)
    (cursorId : Int64) : Document :=
  [("cursor", .document [("id", .integer cursorId.toInt), ("ns", .text name),
      (batchField, .array (documents.map .document))]),
    ("ok", .integer 1)]

end Reply

end DocumentCursor
