import DocumentCursor.ProtocolError

/-! # Namespaces

A collection is named by its database and its own name. Neither is empty and a database has no dot
in its name, so that the first dot of the full name separates the two. A namespace travels as its
full name.

Main definitions:

* `Namespace.of` makes a namespace of two names;
* `Namespace.parse` reads a full name and `Namespace.fullName` writes it.
-/

namespace DocumentCursor

/-- A collection of a database. A database has no dot, so the first dot of a full name is the one
between the names. -/
structure Namespace where
  database : String
  collection : String
  database_ne_empty : database ≠ ""
  dot_notMem_database : '.' ∉ database.toList
  collection_ne_empty : collection ≠ ""
  deriving DecidableEq, Repr

namespace Namespace

/-- The full name that two names would have, whether or not they make a namespace. -/
def join (database collection : String) : String := database ++ "." ++ collection

/-- The namespace of two names; the full name of a refused pair is reported, by
`.invalidNamespace`. -/
def of (database collection : String) : Except ProtocolError Namespace :=
  if h : database ≠ "" ∧ '.' ∉ database.toList ∧ collection ≠ "" then
    .ok ⟨database, collection, h.1, h.2.1, h.2.2⟩
  else .error (.invalidNamespace (join database collection))

/-- The parts of a text before and after its first dot, and `none` if there is no dot. -/
def splitDot? (text : List Char) : Option (List Char × List Char) :=
  match text.dropWhile (· ≠ '.') with
  | [] => none
  | _ :: collection => some (text.takeWhile (· ≠ '.'), collection)

/-- Reads a full name, by `splitDot?` and `of`; a refused text is reported as it is. -/
def parse (text : String) : Except ProtocolError Namespace :=
  match splitDot? text.toList with
  | some (database, collection) => of (String.ofList database) (String.ofList collection)
  | none => .error (.invalidNamespace text)

/-- The two names with a dot between them: `database.collection`. -/
def fullName (ns : Namespace) : String := join ns.database ns.collection

instance : ToString Namespace := ⟨fullName⟩

/-- The names of a namespace make that namespace: `of ns.database ns.collection = .ok ns`. -/
@[simp] theorem of_names (ns : Namespace) : of ns.database ns.collection = .ok ns := by
  simp [of, ns.database_ne_empty, ns.dot_notMem_database, ns.collection_ne_empty]

end Namespace

end DocumentCursor
