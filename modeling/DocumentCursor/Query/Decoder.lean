import DocumentCursor.Document.Namespace
import DocumentCursor.Document.Value
import DocumentCursor.Text.Decimal
import DocumentCursor.Text.Quoted

/-! # Decoding documents

A decoder turns the documents of a reply into the items of a cursor. A record decoder knows the
fields of a record and their types; it ignores other fields and gives the known ones in the order of
the record. It looks at the fields of the document in their order, so that the first ill-typed one
is reported, and only then for missing ones.

Main definitions:

* `FieldType.read`, `Namespace.ofValue` and `Namespace.toValue`;
* `Decoder.decode`.
-/

namespace DocumentCursor

/-- Why a document or a value is refused. It is reported by its `message` only. -/
inductive DecodeError where
  | missingField (name : String)
  /-- A value of another type; both are described. -/
  | wrongType (found expected : String)
  | outOfRange (value : Int) (expected : String)
  /-- A text of the right type that is ill-formed. -/
  | illFormed (error : ProtocolError)
  deriving DecidableEq, Repr

/-- The text that reports an error. -/
def DecodeError.message : DecodeError → String
  | missingField name => "missing field `" ++ name ++ "`"
  | wrongType found expected => "invalid type: " ++ found ++ ", expected " ++ expected
  | outOfRange value expected =>
    "invalid value: integer `" ++ toString value ++ "`, expected " ++ expected
  | illFormed error => error.message

/-- How a value is described to people: by its type, and by the value itself if it is no array and
no document. -/
def Value.description : Value → String
  | null => "null"
  | bool value => "boolean `" ++ toString value ++ "`"
  | integer value => "integer `" ++ toString value ++ "`"
  | double bits => "floating point `" ++ Text.Decimal.text bits ++ "`"
  | text value => "string " ++ Text.Quoted.quote value
  | array _ => "sequence"
  | document _ => "map"

/-- The type of a field. -/
inductive FieldType where
  | text
  | uint32
  | int64
  deriving DecidableEq, Repr

namespace FieldType

/-- How a type is described to people. -/
def description : FieldType → String
  | text => "a string"
  | uint32 => "u32"
  | int64 => "i64"

/-- Whether an integer is in the range of the type; none is for `text`. -/
def inRange (type : FieldType) (n : Int) : Bool :=
  match type with
  | text => false
  | uint32 => 0 ≤ n && n < UInt32.size
  | int64 => Int64.minValue.toInt ≤ n && n ≤ Int64.maxValue.toInt

/-- A value that has the type, or `wrongType` or `outOfRange`. -/
def read (type : FieldType) (value : Value) : Except DecodeError Value :=
  match type, value with
  | text, .text s => .ok (.text s)
  | text, other => .error (.wrongType other.description type.description)
  | _, .integer n =>
    if type.inRange n then .ok (.integer n) else .error (.outOfRange n type.description)
  | _, other => .error (.wrongType other.description type.description)

end FieldType

/-- The namespace that a value names: a text is parsed, and any other value is of the wrong type. -/
def Namespace.ofValue : Value → Except DecodeError Namespace
  | .text name => (Namespace.parse name).mapError .illFormed
  | other => .error (.wrongType other.description FieldType.text.description)

/-- The value that names a namespace: its full name, a `text`. -/
def Namespace.toValue (ns : Namespace) : Value := .text ns.fullName

/-- How documents are turned into items. -/
inductive Decoder where
  /-- Documents are the items. -/
  | raw
  /-- Records with the given fields. -/
  | record (fields : List (String × FieldType))
  deriving DecidableEq, Repr

namespace Decoder

/-- The known fields of a document, in its order. A field that is not in `fields` is skipped,
whatever it holds. -/
def readKnown (fields : List (String × FieldType)) (document : Document) :
    Except DecodeError Document :=
  (document.filterMap fun (name, value) => (fields.lookup name).map (name, ·, value)).mapM
    fun (name, type, value) => (type.read value).map (name, ·)

/-- The item of a document: the document itself for `raw`, and the fields of a `record`, which must
all be there. -/
def decode (decoder : Decoder) (document : Document) : Except DecodeError Document :=
  match decoder with
  | raw => .ok document
  | record fields => do
    let known ← readKnown fields document
    fields.mapM fun (name, _) =>
      match Document.get? known name with
      | some value => .ok (name, value)
      | none => .error (.missingField name)

end Decoder

end DocumentCursor
