import DocumentCursor.Cursor.Error
import DocumentCursor.Query.Capability
import DocumentCursor.Query.Request

/-! # Connections and what is sent on them

A source hands out connections to one server. Each can do what its server's protocol version allows.
What a server answers is given beforehand, turn by turn, as a script: one turn for each connection
that is asked for, each batch that is fetched and each cursor that is killed. A script that has run
out grants every connection, sends an empty last batch and accepts every kill.

A connection that has commands gets the answer of a turn as a reply document, or as an error when
the turn says so. Binary messages have no such document, so a failure is always an error there.

Main definitions:

* `Source`, `Connection` and `Request`;
* `Response`, `Turn`, `Grant` and `Script`;
* `Response.toCommand`, `Response.toGetMore` and `Response.toKillCursors`.
-/

namespace DocumentCursor

open Net

/-- Hands out connections to one server. A connection has the `wireVersion` of the source unless the
`Grant` says another. -/
structure Source where
  address : Address
  wireVersion : Int32
  session : Session := {}
  deriving BEq, Repr, Inhabited

/-- A connection, by the number that it was handed out under, counted from `1`. -/
structure Connection where
  number : Nat
  wireVersion : Int32
  deriving DecidableEq, Repr, Inhabited

/-- What a connection can do, which its `wireVersion` decides. -/
def Connection.capability (connection : Connection) : Capability :=
  .ofWireVersion connection.wireVersion

/-- What is sent on a connection: a `command`, or one of the two messages that do without
commands. -/
inductive Request where
  | command (database : String) (document : Document) (preference : ReadPreference)
      (session : Session) (exhaust : Bool)
  | getMore (ns : Namespace) (cursorId : Int64) (number : Int32)
  | killCursors (ns : Namespace) (cursorIds : List Int64)
  deriving BEq, Repr

/-! ## Answers -/

/-- How a server answers a request; `σ` is what it brings on success. How an answer arrives depends
on the request: see `toCommand`, `toGetMore` and `toKillCursors`. -/
inductive Response (σ : Type) where
  | success (value : σ)
  /-- A reply document, whatever it says. -/
  | reply (document : Document)
  /-- A refusal. Where there are commands it is a reply, or an error if it is `raised`. -/
  | failure (refusal : Failure) (raised : Bool)
  | broken (error : TransportError)
  deriving Repr

/-- A batch of documents, with the cursor to ask for more and the name of the collection. The server
holds no cursor if `cursorId` is `0`. -/
structure Batch where
  documents : List Document
  cursorId : Int64
  name : String
  deriving BEq, Repr, Inhabited

/-- An answer, and whether the cursor is closed from elsewhere before it arrives. The request was
sent by then. -/
structure Turn (σ : Type) where
  response : Response σ
  closes : Bool := false
  deriving Repr

/-- How a source answers when it is asked for a connection, and whether the cursor is closed from
elsewhere before it answers. -/
inductive Grant where
  /-- A connection, perhaps with a protocol version of its own. -/
  | granted (wireVersion : Option Int32) (closes : Bool := false)
  | refused (error : TransportError) (closes : Bool := false)
  deriving DecidableEq, Repr

/-- Whether the cursor is closed from elsewhere before the source answers. -/
def Grant.closes : Grant → Bool
  | granted _ closes | refused _ closes => closes

/-- The answers that are still to come, of the source and of the server. What comes after the last
of each is in `Run.acquire`, `Run.takeFetch` and `Run.takeKill`. -/
structure Script where
  grants : List Grant := []
  fetches : List (Turn Batch) := []
  kills : List (Turn Unit) := []
  deriving Repr, Inhabited

/-- The field that holds the documents of a next batch, in the `cursor` of a reply. -/
def nextBatchField : String := "nextBatch"

namespace Response

/-- The answer to a command, where `render` writes the reply of a success. A refusal is a reply that
reports it, or is raised as an error. -/
def toCommand {σ : Type} (render : σ → Document) : Response σ → Except CursorError Document
  | success value => .ok (render value)
  | reply document => .ok document
  | failure refusal raised => if raised then .error (.command refusal) else .ok refusal.reply
  | broken error => .error (.transport error)

/-- The answer to a message that asks for the next batch of a collection. It has no reply of its
own, so a `.reply` is read as that of a command. -/
def toGetMore (ns : Namespace) (address : Address) :
    Response Batch → Except CursorError (Reply Document)
  | success batch => .ok (.of ns batch.documents batch.cursorId address)
  | reply document => (Reply.ofCommandReply nextBatchField address document).mapError .protocol
  | failure refusal _ => .error (.command refusal)
  | broken error => .error (.transport error)

/-- The answer to a message that kills cursors. Any answer but a refusal and a failure is a
success. -/
def toKillCursors {σ : Type} : Response σ → Except CursorError Unit
  | success _ | reply _ => .ok ()
  | failure refusal _ => .error (.command refusal)
  | broken error => .error (.transport error)

end Response

/-- The reply to a command that asks for the next batch, with the fields `id`, `ns` and
`nextBatch`. -/
def Batch.reply (batch : Batch) : Document :=
  Reply.commandReply nextBatchField batch.name batch.documents batch.cursorId

/-- The reply to a command that kills cursors: `ok` is `1`. -/
def killedReply : Document := [("ok", .integer 1)]

end DocumentCursor
