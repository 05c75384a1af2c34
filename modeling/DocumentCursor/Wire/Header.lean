import DocumentCursor.ProtocolError
import DocumentCursor.Wire.LittleEndian

/-! # Message headers

Every message begins with sixteen bytes: its length, the request that it is, the request that it
answers and its operation, four little-endian integers. A message has at most 48,000,000 bytes.

Main definitions:

* `Operation` are the operations of cursors, each with its code;
* `Header.bytes` writes a header and `Header.peek` reads one from the front of bytes;
* `RequestIds` numbers requests.
-/

namespace DocumentCursor.Wire

open LittleEndian

/-- The most bytes that a message may have, its header included. -/
def maxMessageSize : Nat := 48000000

/-! ## Operations -/

/-- What a message asks a server to do, of what is needed for cursors. -/
inductive Operation where
  | getMore
  | killCursors
  deriving DecidableEq, Repr

/-- The code of an operation, as the last field of a header has it. -/
def Operation.code : Operation → Int32
  | getMore => 2005
  | killCursors => 2007

/-- The operation of a code, `none` if the code is that of another message. -/
def Operation.ofCode? (code : Int32) : Option Operation :=
  [getMore, killCursors].find? (·.code = code)

/-- The code of an operation is the code of no other: `ofCode? op.code = some op`. -/
@[simp] theorem Operation.ofCode?_code (op : Operation) : ofCode? op.code = some op := by
  cases op <;> decide

/-! ## Headers -/

/-- The first sixteen bytes of a message. `messageLength` counts them, too. -/
structure Header where
  messageLength : Int32
  requestId : Int32
  responseTo : Int32
  code : Int32
  deriving DecidableEq, Repr

namespace Header

/-- The number of bytes of a header, `16`. -/
def size : Nat := 16

/-- The bytes of a header: its four fields in order. -/
def bytes (header : Header) : List UInt8 :=
  int32 header.messageLength ++ int32 header.requestId ++ int32 header.responseTo ++
    int32 header.code

@[simp] theorem length_bytes (header : Header) : header.bytes.length = size := by
  simp [bytes, size]

/-- Takes a header from the front, whatever it says, and gives the bytes behind it. -/
def take? (bytes : List UInt8) : Option (Header × List UInt8) := do
  let (messageLength, bytes) ← takeInt32? bytes
  let (requestId, bytes) ← takeInt32? bytes
  let (responseTo, bytes) ← takeInt32? bytes
  let (code, bytes) ← takeInt32? bytes
  return (⟨messageLength, requestId, responseTo, code⟩, bytes)

/-- Taking a header gives the one whose bytes stand in front: `take? (header.bytes ++ rest) = some
(header, rest)`. -/
@[simp] theorem take?_append (header : Header) (rest : List UInt8) :
    take? (header.bytes ++ rest) = some (header, rest) := by
  simp [take?, bytes, List.append_assoc]

/-- Reads the header in front of bytes and refuses lengths that no message may have, negative ones
and those above `maxMessageSize`. -/
def peek (bytes : List UInt8) : Except ProtocolError Header :=
  match take? bytes with
  | none => .error (.incompleteMessage (size - bytes.length))
  | some (header, _) =>
    let length := header.messageLength.toInt
    if length < 0 ∨ (maxMessageSize : Int) < length then
      .error (.messageTooLarge length.toNat maxMessageSize)
    else .ok header

end Header

/-! ## Request numbers -/

/-- The numbers that requests get, one after the other, from `1` on. -/
structure RequestIds where
  next : Int32 := 1
  deriving DecidableEq, Repr

/-- The next number, and the numbers after it. They go on with the negative ones after the
largest. -/
def RequestIds.take (ids : RequestIds) : Int32 × RequestIds := (ids.next, ⟨ids.next + 1⟩)

/-- The next `n` numbers, the first of them first. -/
def RequestIds.takeMany : Nat → RequestIds → List Int32
  | 0, _ => []
  | n + 1, ids => ids.take.1 :: takeMany n ids.take.2

end DocumentCursor.Wire
