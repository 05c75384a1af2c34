import DocumentCursor.Text.Quoted

/-! # Protocol errors

The causes for which a name, an address, a reply or a message is refused, and the message of each.
-/

namespace DocumentCursor

/-- Why a name, an address, a reply or a message is refused. -/
inductive ProtocolError where
  /-- The text names no collection. -/
  | invalidNamespace (text : String)
  /-- The text names no server. -/
  | invalidAddress (text : String)
  /-- A reply lacks a field. -/
  | missingField (field : String)
  /-- A field of a reply holds a value of another type. -/
  | unexpectedType (field expected : String)
  /-- A message has more bytes than the protocol allows. -/
  | messageTooLarge (size limit : Nat)
  /-- A message ends before it is whole. -/
  | incompleteMessage (needed : Nat)
  deriving DecidableEq, Repr

/-- The text that reports an error; a refused name or address is quoted. -/
def ProtocolError.message : ProtocolError → String
  | invalidNamespace text => "invalid namespace: " ++ Text.Quoted.quote text
  | invalidAddress text => "invalid server address: " ++ Text.Quoted.quote text
  | missingField field => "missing required field: " ++ field
  | unexpectedType field expected =>
    "field '" ++ field ++ "' has unexpected type (expected " ++ expected ++ ")"
  | messageTooLarge size limit =>
    "message too large: " ++ toString size ++ " bytes (max " ++ toString limit ++ ")"
  | incompleteMessage needed => "incomplete message: need " ++ toString needed ++ " more bytes"

end DocumentCursor
