import DocumentCursor.Net.Address
import DocumentCursor.Document.Value

/-! # What a connection can do

A server says on connecting how new its protocol is. From version 4 on it has commands for cursors,
and from version 8 on it may answer one request with all batches of a cursor.

Main definitions:

* `Capability.ofWireVersion`;
* `ReadPreference` and `Session`, which travel with every command.
-/

namespace DocumentCursor

open Net

/-- How a connection deals with cursors. Each capability includes those before it. -/
inductive Capability where
  /-- By binary messages. -/
  | messages
  /-- By commands. -/
  | commands
  /-- By commands, and one connection may be kept for all batches of a cursor. -/
  | exhaust
  deriving DecidableEq, Repr

namespace Capability

/-- The first protocol version with commands for cursors, `4`. -/
def commandsVersion : Int32 := 4

/-- The first protocol version on which a connection may be kept for a cursor, `8`. -/
def exhaustVersion : Int32 := 8

/-- What a server with the given newest protocol version can do: the best capability whose version
is not above it. -/
def ofWireVersion (version : Int32) : Capability :=
  if exhaustVersion ≤ version then exhaust
  else if commandsVersion ≤ version then commands
  else messages

/-- Whether there are commands for cursors: for every capability but `messages`. -/
def supportsCommands (capability : Capability) : Bool := capability ≠ messages

/-- Whether a connection may be kept for a cursor, for `exhaust` only. -/
def supportsExhaust (capability : Capability) : Bool := capability = exhaust

/-- Commands come with protocol version 4: `(ofWireVersion version).supportsCommands` is
`4 ≤ version.toInt`. -/
@[simp] theorem supportsCommands_ofWireVersion (version : Int32) :
    (ofWireVersion version).supportsCommands = decide (4 ≤ version.toInt) := by
  have h4 : commandsVersion ≤ version ↔ 4 ≤ version.toInt := Int32.le_iff_toInt_le
  have h8 : exhaustVersion ≤ version ↔ 8 ≤ version.toInt := Int32.le_iff_toInt_le
  simp only [ofWireVersion, supportsCommands, h4, h8]
  split
  · simp; omega
  · split <;> simp <;> omega

/-- Keeping connections comes with protocol version 8: `(ofWireVersion version).supportsExhaust` is
`8 ≤ version.toInt`. -/
@[simp] theorem supportsExhaust_ofWireVersion (version : Int32) :
    (ofWireVersion version).supportsExhaust = decide (8 ≤ version.toInt) := by
  have h4 : commandsVersion ≤ version ↔ 4 ≤ version.toInt := Int32.le_iff_toInt_le
  have h8 : exhaustVersion ≤ version ↔ 8 ≤ version.toInt := Int32.le_iff_toInt_le
  simp only [ofWireVersion, supportsExhaust, h4, h8]
  split
  · simp; omega
  · split <;> simp <;> omega

end Capability

/-- Which servers of a group may answer a command. -/
inductive ReadPreference where
  | primary
  | primaryPreferred
  | secondary
  | secondaryPreferred
  | nearest
  deriving DecidableEq, Repr, Inhabited

namespace ReadPreference

/-- Every preference. -/
def all : List ReadPreference :=
  [primary, primaryPreferred, secondary, secondaryPreferred, nearest]

/-- The name of a preference, as servers know it. -/
def text : ReadPreference → String
  | primary => "primary"
  | primaryPreferred => "primaryPreferred"
  | secondary => "secondary"
  | secondaryPreferred => "secondaryPreferred"
  | nearest => "nearest"

instance : ToString ReadPreference := ⟨text⟩

end ReadPreference

/-- The session that commands belong to, which they carry unchanged. `{}` is none. -/
structure Session where
  id : Option Document := none
  isCausallyConsistent : Bool := false
  deriving BEq, Repr, Inhabited

end DocumentCursor
