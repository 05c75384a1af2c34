import DocumentCursor.Query.Failure
import DocumentCursor.Query.Reply
import DocumentCursor.Stream.Error

/-! # Cursor errors

Why a call on a cursor fails, and the message of each cause. A command that failed while a cursor
was fetched from is reported with that cursor, and apart when the server does not know the cursor.
-/

namespace DocumentCursor

open Net

/-- Why a call on a cursor fails. `cursorCommand` and `cursorNotFound` name the cursor; a `command`
failure is one that no cursor was named with. -/
inductive CursorError where
  | illegalState (reason : String)
  | noSuchElement
  | cursorCommand (cursor : ServerCursor) (address : Address) (code : Int32) (reason : String)
  | cursorNotFound (cursor : ServerCursor) (address : Address)
  | command (failure : Failure)
  | decode (reason : String)
  | transport (error : TransportError)
  | protocol (error : ProtocolError)
  | missingConnectionSource
  | invalidArgument (reason : String)
  deriving DecidableEq, Repr

namespace CursorError

/-- The text that reports an error, as it is shown to people. -/
def message : CursorError → String
  | illegalState reason => "illegal state: " ++ reason
  | noSuchElement => "no more batches"
  | cursorCommand cursor address code reason =>
    "command on " ++ cursor.text ++ " at " ++ address.text ++ " failed: " ++ toString code.toInt ++
      " - " ++ reason
  | cursorNotFound cursor address => cursor.text ++ " not found on " ++ address.text
  | command failure => "command failed: " ++ failure.text
  | decode reason => "decode error: " ++ reason
  | transport error => "transport error: " ++ error.message
  | protocol error => "protocol error: " ++ error.message
  | missingConnectionSource => "a live cursor requires a connection source"
  | invalidArgument reason => "invalid argument: " ++ reason

/-- A failed command on a cursor: `cursorNotFound` for the code that says so, `cursorCommand` for
any other. -/
def ofFailure (failure : Failure) (cursor : ServerCursor) (address : Address) : CursorError :=
  if failure.isCursorNotFound then cursorNotFound cursor address
  else cursorCommand cursor address failure.code failure.message

/-- A failed command named with the cursor that it was about, by `ofFailure`; any other error as it
is. -/
def naming (cursor : ServerCursor) (address : Address) : CursorError → CursorError
  | command failure => ofFailure failure cursor address
  | other => other

/-- Whether a fresh connection might succeed, which only a failure of the transport leaves open. -/
def isRetryable : CursorError → Bool
  | transport error => error.isRetryable
  | _ => false

/-- The error of a call on a cursor that was closed, an `illegalState`. -/
def cursorClosed : CursorError := illegalState "cursor has been closed"

end CursorError

end DocumentCursor
