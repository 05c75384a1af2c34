import DocumentCursor.Arith.Saturating
import DocumentCursor.Document.Value

/-! # Requests for the next batch

How many documents a cursor asks for, and the command documents by which it asks for them and by
which it tells a server to forget cursors:

* `getMore`, `collection`, and `batchSize` and `maxTimeMS` where they are not zero;
* `killCursors` and `cursors`.

Main definitions:

* `numberToReturn`;
* `GetMoreCommand.document` and `KillCursorsCommand.document`.
-/

namespace DocumentCursor

/-- The number of documents to ask for: with a limit, those of its size that were not counted yet,
or the batch size if that is smaller and not zero; without one, the batch size. Zero leaves the
choice to the server, and a negative number closes the cursor after the batch. `|limit|` saturates,
and so does the difference to `count`. -/
def numberToReturn (limit batchSize count : Int32) : Int32 :=
  if limit = 0 then batchSize
  else
    let remaining := Saturating.sub (Saturating.abs limit) count
    if batchSize ≠ 0 ∧ Saturating.abs batchSize < remaining then batchSize else remaining

/-- Asks for the next batch of a cursor, as a command. Zeros are left out of it. -/
structure GetMoreCommand where
  cursorId : Int64
  collection : String
  batchSize : Int32 := 0
  maxTimeMs : Int64 := 0
  deriving DecidableEq, Repr

/-- The command; a batch size or a time of zero is left out, and the sign of the batch size too. The
fields are in the order `getMore`, `collection`, `batchSize`, `maxTimeMS`. -/
def GetMoreCommand.document (command : GetMoreCommand) : Document :=
  let batchSize := Saturating.abs command.batchSize
  [("getMore", .integer command.cursorId.toInt), ("collection", .text command.collection)] ++
    (if batchSize = 0 then [] else [("batchSize", .integer batchSize.toInt)]) ++
    (if command.maxTimeMs = 0 then [] else [("maxTimeMS", .integer command.maxTimeMs.toInt)])

/-- Tells a server to forget cursors, as a command. -/
structure KillCursorsCommand where
  collection : String
  cursors : List Int64
  deriving DecidableEq, Repr

/-- The command, with the fields `killCursors` and `cursors`. -/
def KillCursorsCommand.document (command : KillCursorsCommand) : Document :=
  [("killCursors", .text command.collection),
    ("cursors", .array (command.cursors.map fun id => .integer id.toInt))]

/-- Without a limit the batch size is asked for: `numberToReturn 0 batchSize count = batchSize`,
whatever the count. -/
@[simp] theorem numberToReturn_zero_limit (batchSize count : Int32) :
    numberToReturn 0 batchSize count = batchSize := by
  simp [numberToReturn]

end DocumentCursor
