/-! # Buffers

A buffer has one owner and is given back once, when its owner lets go of it: by releasing it, or by
dropping it. A pool counts the buffers that it issues and takes back; a buffer that comes from no
pool is just forgotten. A shelf keeps buffers in numbered places until they are released.

Main definitions:

* `Buffer`, with `Buffer.write` and `Buffer.description`;
* `Pool`, with `Pool.issue`, `Pool.drop`, `Pool.release` and `Pool.outstanding`;
* `Shelf`, with `Shelf.put`, `Shelf.release` and `Shelf.clear`.
-/

namespace DocumentCursor.Stream

/-- A region of bytes. It has a `ticket` if a pool issued it. -/
structure Buffer where
  content : List UInt8
  /-- The number by which the pool that issued it knows it. -/
  ticket : Option Nat := none
  deriving DecidableEq, Repr

namespace Buffer

/-- A buffer of zeros that comes from no pool, `size` of them. -/
def zeros (size : Nat) : Buffer := { content := List.replicate size 0 }

/-- The number of bytes. -/
def size (buffer : Buffer) : Nat := buffer.content.length

/-- Whether somebody waits for the buffer to be released: it has a ticket. -/
def isPooled (buffer : Buffer) : Bool := buffer.ticket.isSome

/-- Replaces the bytes from a position on by as many others. -/
def write (buffer : Buffer) (position : Nat) (bytes : List UInt8) : Buffer :=
  { buffer with content :=
      buffer.content.take position ++ bytes ++ buffer.content.drop (position + bytes.length) }

/-- How a buffer is shown to people. -/
def description (buffer : Buffer) : String :=
  "ByteBuf \x7b len: " ++ toString buffer.size ++ ", pooled: " ++ toString buffer.isPooled ++
    " \x7d"

@[simp] theorem size_zeros (size : Nat) : (zeros size).size = size := by
  simp [zeros, Buffer.size]

end Buffer

/-! ## Pools -/

/-- Issues buffers and takes them back. Tickets are numbered from `0`, in the order in which they
are issued. -/
structure Pool where
  /-- The number of buffers that were issued. -/
  issued : Nat := 0
  /-- The tickets of the buffers that came back, in order. -/
  returned : List Nat := []
  deriving DecidableEq, Repr, Inhabited

namespace Pool

/-- Issues a buffer of zeros, under the next ticket, `pool.issued`. -/
def issue (size : Nat) (pool : Pool) : Buffer × Pool :=
  ({ Buffer.zeros size with ticket := some pool.issued }, { pool with issued := pool.issued + 1 })

/-- Takes a buffer back that was dropped, if it comes from the pool: its ticket is noted in
`returned`. -/
def drop (buffer : Buffer) (pool : Pool) : Pool :=
  { pool with returned := pool.returned ++ buffer.ticket.toList }

/-- Takes buffers back that were dropped, in order, by `drop`. -/
def dropAll (buffers : List Buffer) (pool : Pool) : Pool :=
  buffers.foldl (fun pool buffer => pool.drop buffer) pool

/-- Takes a buffer back that was released. To release a buffer is to drop it on purpose, and comes
to the same here. -/
def release (buffer : Buffer) (pool : Pool) : Pool := pool.drop buffer

/-- The number of buffers that were issued and did not come back: `issued` less those in
`returned`. -/
def outstanding (pool : Pool) : Nat := pool.issued - pool.returned.length

/-- Buffers that were dropped come back under their tickets: `dropAll` appends those that have one
to `returned`. -/
theorem dropAll_eq (buffers : List Buffer) (pool : Pool) :
    pool.dropAll buffers =
      { pool with returned := pool.returned ++ buffers.filterMap (·.ticket) } := by
  induction buffers generalizing pool with
  | nil => simp [dropAll]
  | cons buffer buffers ih =>
    refine (ih (pool.drop buffer)).trans ?_
    cases h : buffer.ticket <;> simp [drop, h]

end Pool

/-! ## Shelves -/

/-- Numbered places, each with a buffer until it is released. A place is not filled again. -/
abbrev Shelf := List (Option Buffer)

namespace Shelf

/-- Puts bytes into a new place, from a pool that waits for them or from none. The ticket is the
number of the place then. -/
def put (content : List UInt8) (pooled : Bool) (shelf : Shelf) : Shelf :=
  shelf ++ [some ⟨content, if pooled then some shelf.length else none⟩]

/-- The buffer in a place, `none` if the place is empty or there is no such place. -/
def buffer? (place : Nat) (shelf : Shelf) : Option Buffer := shelf[place]?.join

/-- Writes into the buffer in a place. -/
def write (place position : Nat) (bytes : List UInt8) (shelf : Shelf) : Shelf :=
  shelf.modify place fun buffer => buffer.map fun buffer => buffer.write position bytes

/-- Releases the buffer in a place, which is empty then. -/
def release (place : Nat) (shelf : Shelf) : Shelf := shelf.set place none

/-- Takes the buffers out of some places, in order; what is taken twice is there once. -/
def takeAll : List Nat → Shelf → List Buffer × Shelf
  | [], shelf => ([], shelf)
  | place :: places, shelf =>
    let (buffers, rest) := takeAll places (shelf.release place)
    ((shelf.buffer? place).toList ++ buffers, rest)

/-- The buffers that somebody waits for, by place. -/
def pooled (shelf : Shelf) : List (Nat × Buffer) :=
  shelf.zipIdx.filterMap fun (buffer, place) => do
    let buffer ← buffer
    if buffer.isPooled then some (place, buffer) else none

/-- Releases all buffers, and names those that somebody waits for. -/
def clear (shelf : Shelf) : List (Nat × Buffer) × Shelf :=
  (shelf.pooled, shelf.map fun _ => none)

end Shelf

end DocumentCursor.Stream
