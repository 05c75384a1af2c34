import DocumentCursor.Document.Value

/-! # Failed commands

A reply says whether its command succeeded in its field `ok`, which is `true` or a number other than
zero on success. A failed command has a code, perhaps a name for it, and a message.

Main definitions:

* `Failure.ofReply?` finds the failure that a reply reports, and `Failure.check` refuses such a
  reply;
* `Failure.reply` writes the reply that reports a failure.
-/

namespace DocumentCursor

/-- A command that the server refused: what its reply says of that. -/
structure Failure where
  code : Int32
  codeName : Option String := none
  message : String
  deriving DecidableEq, Repr, Inhabited

namespace Failure

/-- The code for a cursor that the server does not know, `43`. -/
def cursorNotFoundCode : Int32 := 43

/-- Whether a reply reports success: its field `ok` is there and counts as true. -/
def isSuccess (reply : Document) : Bool := ((reply.get? "ok").map Value.isTruthy).getD false

/-- The value as a 32-bit integer, if it is an integer in that range. -/
def int32? (value : Value) : Option Int32 :=
  value.int64?.bind fun n =>
    if Int32.minValue.toInt ≤ n.toInt ∧ n.toInt ≤ Int32.maxValue.toInt then
      some (Int32.ofInt n.toInt)
    else none

/-- The failure that a reply reports: without a usable code it is `-1`, and without a message it is
`unknown error`. There is none if `isSuccess`. -/
def ofReply? (reply : Document) : Option Failure :=
  if isSuccess reply then none
  else some {
    code := ((reply.get? "code").bind int32?).getD (-1)
    codeName := (reply.get? "codeName").bind Value.text?
    message := ((reply.get? "errmsg").bind Value.text?).getD "unknown error" }

/-- A reply that reports success, or the failure that it reports, by `ofReply?`. -/
def check (reply : Document) : Except Failure Document :=
  match ofReply? reply with
  | some failure => .error failure
  | none => .ok reply

/-- The reply that reports a failure. `ofReply?` reads it back. -/
def reply (failure : Failure) : Document :=
  [("ok", .integer 0), ("code", .integer failure.code.toInt), ("errmsg", .text failure.message)] ++
    (match failure.codeName with
      | some name => [("codeName", .text name)]
      | none => [])

/-- Whether the server does not know the cursor: the code is `cursorNotFoundCode`. -/
def isCursorNotFound (failure : Failure) : Bool := failure.code = cursorNotFoundCode

/-- The code, the name in parentheses if there is one, and the message. -/
def text (failure : Failure) : String :=
  let name := match failure.codeName with
    | some name => " (" ++ name ++ ")"
    | none => ""
  toString failure.code.toInt ++ name ++ ": " ++ failure.message

instance : ToString Failure := ⟨text⟩

end Failure

end DocumentCursor
