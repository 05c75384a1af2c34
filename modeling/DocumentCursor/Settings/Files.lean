import DocumentCursor.Net.SystemError

/-! # Files

A file is found by walking its path name by name. Names of nothing and of a single dot stay where
the walk is. Here files lie in the directory that the walk begins in, and nothing is known of
others.

Main definitions:

* `Files` reads files, and `Files.ofList` is a directory of given files;
* `Files.text` reads a file as text.
-/

namespace DocumentCursor

open Net

/-- Reads files by their paths. -/
abbrev Files := String → Except SystemError ByteArray

namespace Files

/-- The most bytes that a name of a path may have, and a whole path. -/
def maxNameSize : Nat := 255
def maxPathSize : Nat := 4095

/-- Where a walk along a path is. -/
inductive Spot where
  /-- In the directory of the files. -/
  | home
  /-- In a directory that nothing is known of. -/
  | elsewhere
  | file (content : ByteArray)

/-- A step of a walk. -/
def step (files : List (String × ByteArray)) (spot : Spot) (name : String) :
    Except SystemError Spot :=
  match spot with
  | .file _ => .error .notADirectory
  | .home | .elsewhere =>
    if name = "" ∨ name = "." then .ok spot
    else if name = ".." then .ok .elsewhere
    else if maxNameSize < name.utf8ByteSize then .error .nameTooLong
    else
      match spot, files.lookup name with
      | .home, some content => .ok (.file content)
      | _, _ => .error .notFound

/-- A directory of files. -/
def ofList (files : List (String × ByteArray)) : Files := fun path => do
  if '\x00' ∈ path.toList then throw .nulInName
  if path = "" then throw .notFound
  if maxPathSize < path.utf8ByteSize then throw .nameTooLong
  let start := if path.toList.head? = some '/' then Spot.elsewhere else .home
  match ← (path.splitOn "/").foldlM (step files) start with
  | .file content => return content
  | .home | .elsewhere => throw .isADirectory

/-- Reads a file as text. -/
def text (files : Files) (path : String) : Except SystemError String := do
  match String.fromUTF8? (← files path) with
  | some text => return text
  | none => throw .invalidText

end Files

end DocumentCursor
