import DocumentCursor.Document.Namespace
import DocumentCursor.Wire.Header

/-! # Cursor messages

The binary messages by which servers without cursor commands are asked for the next batch of a
cursor or told to forget cursors. After the header each begins with four zero bytes.

* The next batch: the full name of the collection, which a NUL ends, the number of documents that is
  asked for (4 bytes) and the cursor (8 bytes).
* Forgetting cursors: their number (4 bytes) and the cursors (8 bytes each).

Main definitions:

* `GetMore.encode`, `KillCursors.encode` write a message, unless it would be too large;
* `GetMore.read?`, `KillCursors.read?` read one by its layout.
-/

namespace DocumentCursor.Wire

open LittleEndian

/-- Puts the header in front of a body, unless the message would be larger than `maxMessageSize`. No
message answers another, so `responseTo` is `0`. -/
def framed (op : Operation) (requestId : Int32) (body : ByteArray) :
    Except ProtocolError ByteArray :=
  let total := Header.size + body.size
  if maxMessageSize < total then .error (.messageTooLarge total maxMessageSize)
  else .ok ((Header.mk (Int32.ofNat total) requestId 0 op.code).bytes.toByteArray ++ body)

/-! ## The next batch -/

/-- Asks for the next batch of a cursor, as a message. -/
structure GetMore where
  ns : Namespace
  numberToReturn : Int32
  cursorId : Int64
  deriving DecidableEq, Repr

namespace GetMore

/-- What follows the header: a zero, the full name with a NUL behind it, the number of documents and
the cursor. -/
def body (message : GetMore) : ByteArray :=
  (int32 0).toByteArray ++ message.ns.fullName.toUTF8 ++
    (0 :: int32 message.numberToReturn ++ int64 message.cursorId).toByteArray

/-- The bytes of the message under a request id, or `.messageTooLarge`. -/
def encode (message : GetMore) (requestId : Int32) : Except ProtocolError ByteArray :=
  framed .getMore requestId message.body

/-- What a message for the next batch says: its header, the bytes of the name, the number of
documents and the cursor. -/
structure Content where
  header : Header
  name : List UInt8
  numberToReturn : Int32
  cursorId : Int64
  deriving DecidableEq, Repr

/-- Reads a message by its layout, with nothing left over. The name is what stands in front of the
first NUL. -/
def read? (bytes : List UInt8) : Option Content := do
  let (header, bytes) ← Header.take? bytes
  let (zero, bytes) ← takeInt32? bytes
  let (name, bytes) ← takeText? bytes
  let (numberToReturn, bytes) ← takeInt32? bytes
  let (cursorId, bytes) ← takeInt64? bytes
  if zero = 0 ∧ bytes = [] then some ⟨header, name, numberToReturn, cursorId⟩ else none

end GetMore

/-! ## Forgetting cursors -/

/-- Tells a server to forget cursors, as a message, which names no collection. -/
structure KillCursors where
  cursorIds : List Int64
  deriving DecidableEq, Repr

namespace KillCursors

/-- Writes bytes at the end of others, one after the other. -/
def pushAll (out : ByteArray) (bytes : List UInt8) : ByteArray := bytes.foldl ByteArray.push out

/-- What follows the header: a zero, the number of cursors and the cursors. -/
def body (message : KillCursors) : ByteArray :=
  message.cursorIds.foldl (fun out id => pushAll out (int64 id))
    (int32 0 ++ int32 (Int32.ofNat message.cursorIds.length)).toByteArray

/-- The bytes of the message under a request id, or `.messageTooLarge`. -/
def encode (message : KillCursors) (requestId : Int32) : Except ProtocolError ByteArray :=
  framed .killCursors requestId message.body

/-- Takes the given number of cursors from the front, if there are as many. -/
def takeIds? : Nat → List UInt8 → Option (List Int64 × List UInt8)
  | 0, bytes => some ([], bytes)
  | n + 1, bytes => do
    let (id, bytes) ← takeInt64? bytes
    let (ids, bytes) ← takeIds? n bytes
    return (id :: ids, bytes)

/-- Reads a message by its layout, with nothing left over. A negative number of cursors is taken as
none. -/
def read? (bytes : List UInt8) : Option (Header × List Int64) := do
  let (header, bytes) ← Header.take? bytes
  let (zero, bytes) ← takeInt32? bytes
  let (count, bytes) ← takeInt32? bytes
  let (ids, bytes) ← takeIds? count.toInt.toNat bytes
  if zero = 0 ∧ bytes = [] then some (header, ids) else none

/-- Bytes written at the end stand at the end: the list of `pushAll out bytes` is that of `out` and
then `bytes`. -/
@[simp] theorem toList_data_pushAll (out : ByteArray) (bytes : List UInt8) :
    (pushAll out bytes).data.toList = out.data.toList ++ bytes := by
  induction bytes generalizing out with
  | nil => simp [pushAll]
  | cons byte rest ih =>
    have := ih (out.push byte)
    simp only [pushAll] at this
    simp [pushAll, this, ByteArray.data_push]

end KillCursors

end DocumentCursor.Wire
