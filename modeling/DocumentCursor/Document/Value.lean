/-! # Documents

The values that replies and commands are made of, and documents: fields in an order that matters,
each name at most once. Adding a field that is there already replaces its value in its place.

Main definitions:

* `Value` and `Document`;
* `Document.insert`, `Document.ofFields` and `Document.get?`;
* the views `Value.int64?`, `Value.text?`, `Value.array?` and `Value.document?`.
-/

namespace DocumentCursor

/-- A value of a document. Integers are not bounded here; `int64?` says which are of 64 bits. -/
inductive Value where
  | null
  | bool (value : Bool)
  | integer (value : Int)
  /-- A floating-point number, by its bits. -/
  | double (bits : UInt64)
  | text (value : String)
  | array (items : List Value)
  | document (fields : List (String × Value))
  deriving BEq, Repr, Inhabited

/-- Named values in order. What is read of a name is the first field that has it. -/
abbrev Document := List (String × Value)

namespace Document

/-- Adds a field at the end, or replaces the value of the field of that name, which keeps its
place. -/
def insert (name : String) (value : Value) : Document → Document
  | [] => [(name, value)]
  | field :: rest =>
    if field.1 = name then (name, value) :: rest else field :: insert name value rest

/-- The document that results from adding the given fields one by one, by `insert`. -/
def ofFields (fields : List (String × Value)) : Document :=
  fields.foldl (fun document field => document.insert field.1 field.2) []

/-- The value of a field, `none` if there is no field of that name. -/
def get? (document : Document) (name : String) : Option Value := document.lookup name

end Document

namespace Value

/-- The value as a 64-bit integer. A floating-point number is none, whatever its value. -/
def int64? : Value → Option Int64
  | integer n =>
    if Int64.minValue.toInt ≤ n ∧ n ≤ Int64.maxValue.toInt then some (Int64.ofInt n) else none
  | _ => none

/-- The value as a text. -/
def text? : Value → Option String
  | text s => some s
  | _ => none

/-- The items of an array. -/
def array? : Value → Option (List Value)
  | array items => some items
  | _ => none

/-- The fields of a document. -/
def document? : Value → Option Document
  | document fields => some fields
  | _ => none

/-- Whether the value counts as true: `true` itself, or a number other than zero. Neither zero of
the floating-point numbers is one. -/
def isTruthy : Value → Bool
  | bool b => b
  | integer n => n ≠ 0
  | double bits => bits &&& 0x7fffffffffffffff ≠ 0
  | _ => false

end Value

end DocumentCursor
