import DocumentCursor.Cursor.Connection
import DocumentCursor.Text.Quoted

/-! # Holding on to a source

A guard holds on to a source from its making until it is dropped, so that the source is let go of
once for every guard, however often dropping is asked for. Guards are numbered from zero.

Main definitions:

* `Guards.retain` makes a guard, `Guards.drop` drops one and `Guards.dropAll` the rest.
-/

namespace DocumentCursor.Cursor

/-- The guards of a source, by number, and whether each still holds on to it. A guard that was
dropped keeps its number. -/
structure Guards where
  source : Source
  held : List Bool := []
  deriving BEq, Repr

namespace Guards

/-- Makes another guard, which holds on to the source. -/
def retain (guards : Guards) : Guards := { guards with held := guards.held ++ [true] }

/-- Drops a guard and says whether it still held on to the source. A number that was not given to a
guard changes nothing. -/
def drop (number : Nat) (guards : Guards) : Bool × Guards :=
  (guards.held.getD number false, { guards with held := guards.held.set number false })

/-- Drops every guard and says how many still held on to the source: each lets go of it once. -/
def dropAll (guards : Guards) : Nat × Guards :=
  (guards.held.count true, { guards with held := guards.held.map fun _ => false })

/-- How a guard is shown to people. -/
def description (guards : Guards) : String :=
  let address := guards.source.address
  "RetainedSource \x7b address: ServerAddress \x7b host: " ++ Text.Quoted.quote address.host ++
    ", port: " ++ toString address.port.toNat ++ ", candidates: None \x7d \x7d"

/-- A guard that was dropped does not hold on to the source: dropping it again says `false`. -/
theorem drop_drop (number : Nat) (guards : Guards) :
    ((guards.drop number).2.drop number).1 = false := by
  simp only [drop, List.getD_eq_getElem?_getD, List.getElem?_set_self']
  cases guards.held[number]? <;> rfl

end Guards

end DocumentCursor.Cursor
