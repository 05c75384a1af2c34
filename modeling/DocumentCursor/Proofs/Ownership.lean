import Mathlib.Data.List.Perm.Basic
import DocumentCursor.Proofs.Lifecycle

/-! # Who has the buffers

A pool knows its buffers by tickets. Each ticket that it issued is in one place: it came back, or it
is with a buffer in the hands of the client. A read that is refused issues none; a read that falls
short gives its ticket back, by whichever of its exits it ends; a read that succeeds hands it to the
client. Whatever becomes of a write, it gives back the tickets of all buffers that it was passed.

* **`Shelf.perm_takeAll`**: the buffers that are taken out of places are the ones missing there.
* **`Endpoint.Shape.pool_read`** and **`Endpoint.pool_write`**: what calls do to the pool.
* **`Balanced`**: where the tickets are.
* **`Client.balanced_perform`** and **`Client.balanced_performAll`**: so it stays, in every run.
* **`buffers_accounted`**: the accounts of every run, and of the call after it.
-/

namespace DocumentCursor.Stream

open scoped List

variable {setup : Setup} {candidates : Candidates} {pool : Pool}

/-! ## Buffers in places -/

namespace Shelf

/-- The buffers that are in places: those of the shelf that were not taken. -/
def held (shelf : Shelf) : List Buffer := shelf.filterMap id

/-- The tickets of the buffers that are in places. A buffer that came from no pool has none. -/
def tickets (shelf : Shelf) : List Nat := shelf.held.filterMap (·.ticket)

@[simp] theorem tickets_append_some (shelf : Shelf) (buffer : Buffer) :
    tickets (shelf ++ [some buffer]) = shelf.tickets ++ buffer.ticket.toList := by
  cases h : buffer.ticket <;> simp [tickets, held, h]

/-- The buffer that is released is the one missing: with what is `held` after `release` it is a
permutation of what was held before. -/
theorem perm_release (place : Nat) (shelf : Shelf) :
    (shelf.buffer? place).toList ++ (shelf.release place).held ~ shelf.held := by
  induction shelf generalizing place with
  | nil => simp [buffer?, release, held]
  | cons first shelf ih =>
    cases place with
    | zero => cases first <;> simp [buffer?, release, held]
    | succ place =>
      -- The first buffer stays, and is not in front of the one that is released.
      cases first with
      | none => exact ih place
      | some buffer => exact List.perm_middle.trans ((ih place).cons buffer)

/-- **The buffers that are taken are the ones missing**: with what is `held` after `takeAll` they
are a permutation of what was held before, also if a place is named twice. -/
theorem perm_takeAll (places : List Nat) (shelf : Shelf) :
    (shelf.takeAll places).1 ++ (shelf.takeAll places).2.held ~ shelf.held := by
  induction places generalizing shelf with
  | nil => exact .refl _
  | cons place places ih =>
    simp only [takeAll, List.append_assoc]
    exact ((ih (shelf.release place)).append_left _).trans (perm_release place shelf)

end Shelf

/-! ## Calls and the pool -/

/-- A blocking read that falls short releases its buffer, by whichever exit it ends: the pool is
`pool.drop buffer` for every `Shortfall`. -/
theorem Blocking.pool_giveUp (address : Net.Address) (buffer : Buffer) (shortfall : Shortfall) :
    (giveUp address buffer pool shortfall).2 = pool.drop buffer := by
  cases shortfall with
  | failed error => simp only [giveUp]; split <;> rfl
  | ended | outOfTime | closed => rfl

/-- An asynchronous read that falls short releases its buffer, or drops it when it is to stop: the
pool is `pool.drop buffer` either way. -/
theorem Asynchronous.pool_giveUp (address : Net.Address) (buffer : Buffer)
    (shortfall : Shortfall) : (giveUp address buffer pool shortfall).2 = pool.drop buffer := by
  cases shortfall <;> rfl

namespace Endpoint

variable {endpoint : Endpoint}

/-- **A read of an open stream** takes one buffer from the pool, and hands it on or gives it back:
`issued` grows by one, and `returned` by that ticket exactly if the read fails. -/
theorem Shape.pool_read (setup : Setup) (pool : Pool) (before : Option Nat) (size : Nat)
    (h : endpoint.Shape .opened) :
    let outcome := endpoint.read setup before size pool
    match outcome.result with
    | .ok buffer =>
      buffer.ticket = some pool.issued ∧ outcome.pool = { pool with issued := pool.issued + 1 }
    | .error _ => outcome.pool = ⟨pool.issued + 1, pool.returned ++ [pool.issued]⟩ := by
  cases endpoint with
  | blocking stream =>
    cases h with
    | opened line interrupt =>
      simp only [read, Outcome.lift, Blocking.read]
      generalize Incoming.fill setup.timed _ size line.toIncoming = filling
      cases filling.1 with
      | ok content => exact ⟨rfl, rfl⟩
      | error shortfall => exact Blocking.pool_giveUp _ _ shortfall
  | asynchronous stream =>
    cases h with
    | opened incoming outgoing =>
      simp only [read, Outcome.lift, Asynchronous.read]
      generalize Asynchronous.readTask setup size incoming _ = filling
      cases filling.1 with
      | ok content => exact ⟨rfl, rfl⟩
      | error shortfall => exact Asynchronous.pool_giveUp _ _ shortfall

/-- **A write gives back all buffers that it was passed**, whatever becomes of it: the pool is
`pool.dropAll buffers`. -/
theorem pool_write (before : Option Nat) (buffers : List Buffer) (endpoint : Endpoint) :
    (endpoint.write before buffers pool).pool = pool.dropAll buffers := by
  cases endpoint with
  | blocking stream => simp only [write, Outcome.lift, Blocking.write]; split <;> rfl
  | asynchronous stream => simp only [write, Outcome.lift, Asynchronous.write]; split <;> rfl

end Endpoint

/-! ## Steps -/

/-- Whether something that a client does may move buffers: reads, writes, and what the client does
with its own buffers. -/
def Use.movesBuffers : Use → Bool
  | .start .. | .close | .isClosed | .wait _ => false
  | _ => true

namespace Client

variable {client : Client} {use : Use}

/-- What neither reads nor writes nor gives or takes a buffer leaves all of them where they are,
`pool` and `shelf` alike. -/
theorem still_perform (setup : Setup) (candidates : Candidates) (client : Client)
    (still : use.movesBuffers = false) :
    (client.perform setup candidates use).2.pool = client.pool ∧
      (client.perform setup candidates use).2.shelf = client.shelf := by
  cases use with
  | start => simp only [perform, start]; split <;> exact ⟨rfl, rfl⟩
  | close | isClosed | wait => exact ⟨rfl, rfl⟩
  | read | write | take | put | release => cases still

/-- A client after a read that took one buffer from the pool. If the read succeeded, the buffer came
onto the shelf of the client, and otherwise it came back to the pool. -/
def TookOne (client : Client) (report : Report) (after : Client) : Prop :=
  match report.result with
  | .ok reply => ∃ buffer, reply = .buffer buffer ∧ buffer.ticket = some client.pool.issued ∧
      after.pool = { client.pool with issued := client.pool.issued + 1 } ∧
      after.shelf = client.shelf ++ [some buffer]
  | .error _ =>
      after.pool = ⟨client.pool.issued + 1, client.pool.returned ++ [client.pool.issued]⟩ ∧
      after.shelf = client.shelf

/-- **A read that is not refused** takes one buffer, which it hands on or gives back: it is
`TookOne`. -/
theorem read_perform (setup : Setup) (candidates : Candidates) {call : Mode} {inside : Bool}
    {before : Option Nat} {size : Nat} (shape : client.endpoint.Shape client.phase)
    (accepted : client.refuses (.read call inside before size) = none) :
    client.TookOne (client.perform setup candidates (.read call inside before size)).1
      (client.perform setup candidates (.read call inside before size)).2 := by
  obtain ⟨offered, opened⟩ := opened_of_accepted rfl rfl accepted
  rw [opened] at shape
  have moved := shape.pool_read setup client.pool before size
  simp only [TookOne, perform, read, offered] at moved ⊢
  cases outcome : (client.endpoint.read setup before size client.pool).result with
  | ok buffer =>
    rw [outcome] at moved
    exact ⟨buffer, rfl, moved.1, moved.2, rfl⟩
  | error error =>
    rw [outcome] at moved
    exact ⟨moved, rfl⟩

/-- **A write** gives back all buffers that it was passed, whether it is refused, fails or succeeds:
they leave the shelf by `takeAll` and go to the pool by `dropAll`. -/
theorem write_perform (setup : Setup) (candidates : Candidates) (call : Mode) (inside : Bool)
    (before : Option Nat) (places : List Nat) (client : Client) :
    let after := (client.perform setup candidates (.write call inside before places)).2
    after.pool = client.pool.dropAll (client.shelf.takeAll places).1 ∧
      after.shelf = (client.shelf.takeAll places).2 := by
  simp only [perform, write]
  split
  · exact ⟨rfl, rfl⟩
  · exact ⟨Endpoint.pool_write before _ client.endpoint, rfl⟩

/-- The buffer in a place is given back when it is released, if there is one: it leaves the shelf
and goes to the pool. -/
theorem release_perform (setup : Setup) (candidates : Candidates) (place : Nat)
    (client : Client) :
    let after := (client.perform setup candidates (.release place)).2
    after.pool = client.pool.dropAll (client.shelf.buffer? place).toList ∧
      after.shelf = client.shelf.release place := by
  refine ⟨?_, rfl⟩
  simp only [perform, release]
  cases client.shelf.buffer? place <;> rfl

end Client

/-! ## Where the tickets are -/

/-- **Each ticket that the pool issued came back, or is on the shelf**, once: `returned ++ tickets`
is a permutation of the tickets below `issued`. -/
def Balanced (pool : Pool) (shelf : Shelf) : Prop :=
  pool.returned ++ shelf.tickets ~ List.range pool.issued

namespace Balanced

variable {shelf : Shelf}

/-- A buffer that is issued and put on the shelf leaves the accounts balanced, if it has the ticket
`pool.issued`. -/
theorem get (balanced : Balanced pool shelf) {buffer : Buffer}
    (ticket : buffer.ticket = some pool.issued) :
    Balanced { pool with issued := pool.issued + 1 } (shelf ++ [some buffer]) := by
  simp only [Balanced, Shelf.tickets_append_some, ticket, Option.toList_some, List.range_succ,
    ← List.append_assoc]
  exact balanced.append_right _

/-- Buffers that come back from the shelf leave the accounts balanced: what is missing on the shelf
goes to the pool by `dropAll`. -/
theorem give (balanced : Balanced pool shelf) {buffers : List Buffer} {rest : Shelf}
    (missing : buffers ++ rest.held ~ shelf.held) : Balanced (pool.dropAll buffers) rest := by
  have tickets := missing.filterMap (·.ticket)
  rw [List.filterMap_append] at tickets
  simp only [Balanced, Pool.dropAll_eq, List.append_assoc]
  exact (tickets.append_left _).trans balanced

/-- A buffer that is issued and comes back at once leaves the accounts balanced, as its ticket is
the next one. -/
theorem spend (balanced : Balanced pool shelf) :
    Balanced ⟨pool.issued + 1, pool.returned ++ [pool.issued]⟩ shelf := by
  simp only [Balanced, List.range_succ, List.append_assoc]
  -- The ticket that came back stands in front of those on the shelf, and the last in the range.
  exact (List.perm_append_comm.append_left _).trans
    (by simpa using balanced.append_right [pool.issued])

/-- A buffer that comes from no pool leaves the accounts balanced, as it has no ticket. -/
theorem bring (balanced : Balanced pool shelf) (content : List UInt8) :
    Balanced pool (shelf.put content false) := by
  simpa [Balanced, Shelf.put] using balanced

/-- As many buffers as were issued came back or are on the shelf:
`issued = returned.length + tickets.length`. -/
theorem issued_eq (balanced : Balanced pool shelf) :
    pool.issued = pool.returned.length + shelf.tickets.length := by
  simpa using balanced.length_eq.symm

/-- As many buffers are out as are on the shelf: `outstanding = tickets.length`, with no subtraction
cut off at zero. -/
theorem outstanding_eq (balanced : Balanced pool shelf) :
    pool.outstanding = shelf.tickets.length := by
  rw [Pool.outstanding, balanced.issued_eq, Nat.add_sub_cancel_left]

/-- No ticket is in two places: `returned ++ tickets` has no duplicates. -/
theorem nodup (balanced : Balanced pool shelf) : (pool.returned ++ shelf.tickets).Nodup :=
  balanced.nodup_iff.mpr List.nodup_range

end Balanced

namespace Client

variable {client : Client}

/-- **A step leaves the accounts balanced**, whatever is done: one case for each kind of use, by the
lemmas above. -/
theorem balanced_perform (setup : Setup) (candidates : Candidates) (use : Use)
    (shape : client.endpoint.Shape client.phase)
    (balanced : Balanced client.pool client.shelf) :
    Balanced (client.perform setup candidates use).2.pool
      (client.perform setup candidates use).2.shelf := by
  cases moving : use.movesBuffers with
  | false =>
    obtain ⟨pool, shelf⟩ := still_perform setup candidates client moving
    rwa [pool, shelf]
  | true =>
    cases use with
    | start | close | isClosed | wait => cases moving
    | read call inside before size =>
      cases refused : client.refuses (.read call inside before size) with
      | some error => rwa [refused_perform shape refused]
      | none =>
        have moved := read_perform setup candidates shape refused
        unfold TookOne at moved
        revert moved
        split
        · rintro ⟨buffer, -, ticket, pool, shelf⟩
          rw [pool, shelf]
          exact balanced.get ticket
        · rintro ⟨pool, shelf⟩
          rw [pool, shelf]
          exact balanced.spend
    | write call inside before places =>
      obtain ⟨pool, shelf⟩ :=
        write_perform setup candidates call inside before places client
      rw [pool, shelf]
      exact balanced.give (Shelf.perm_takeAll places client.shelf)
    | take size => exact balanced.get rfl
    | put content => exact balanced.bring content
    | release place =>
      obtain ⟨pool, shelf⟩ := release_perform setup candidates place client
      rw [pool, shelf]
      exact balanced.give (Shelf.perm_release place client.shelf)

/-- **The accounts stay balanced in every run**, by induction on what is done. -/
theorem balanced_performAll (setup : Setup) (candidates : Candidates) (uses : List Use)
    (shape : client.endpoint.Shape client.phase)
    (balanced : Balanced client.pool client.shelf) :
    Balanced (client.performAll setup candidates uses).2.pool
      (client.performAll setup candidates uses).2.shelf := by
  induction uses generalizing client with
  | nil => exact balanced
  | cons use uses ih =>
    rw [performAll_cons]
    exact ih (shape_perform setup candidates use shape).at_phase
      (balanced_perform setup candidates use shape balanced)

end Client

/-- **The accounts of a client**, and those of whatever it does next. -/
structure Accounted (setup : Setup) (candidates : Candidates) (client : Client) : Prop where
  /-- As many buffers are out as are in the hands of the client. -/
  outstanding : client.pool.issued = client.pool.returned.length + client.shelf.tickets.length ∧
    client.pool.outstanding = client.shelf.tickets.length
  /-- No buffer came back twice, and none that the client has came back. -/
  once : (client.pool.returned ++ client.shelf.tickets).Nodup
  /-- Connecting, closing and waiting leave all buffers where they are. -/
  still : ∀ use : Use, use.movesBuffers = false →
    (client.perform setup candidates use).2.pool = client.pool ∧
      (client.perform setup candidates use).2.shelf = client.shelf
  /-- A read that is refused takes no buffer. -/
  refused : ∀ call inside before size error,
    client.refuses (.read call inside before size) = some error →
    client.perform setup candidates (.read call inside before size) =
      (⟨.error error, []⟩, client)
  /-- Another read takes one buffer, which it hands to the client or gives back. -/
  read : ∀ call inside before size, client.refuses (.read call inside before size) = none →
    client.TookOne (client.perform setup candidates (.read call inside before size)).1
      (client.perform setup candidates (.read call inside before size)).2
  /-- A write gives back what it was passed, each buffer that the pool issued once. -/
  write : ∀ call inside before places,
    let (buffers, shelf) := client.shelf.takeAll places
    let after := (client.perform setup candidates (.write call inside before places)).2
    after.pool =
        { client.pool with
          returned := client.pool.returned ++ buffers.filterMap (·.ticket) } ∧
      after.shelf = shelf

/-- **Buffers are accounted for.** Whatever a client does with a stream that is fresh at first, one
thing after the other, and whatever connecting and the line come to, each buffer that the pool
issued is in the hands of the client or came back, and came back once. -/
theorem buffers_accounted (setup : Setup) (candidates : Candidates) (uses : List Use) :
    Accounted setup candidates
      (Client.performAll setup candidates uses (.fresh setup.mode)).2 := by
  have fresh := Client.shape_fresh setup.mode
  have shape := Client.shape_performAll setup candidates uses fresh
  have balanced := Client.balanced_performAll setup candidates uses fresh (.refl [])
  constructor
  case outstanding => exact ⟨balanced.issued_eq, balanced.outstanding_eq⟩
  case once => exact balanced.nodup
  case still => exact fun _ still => Client.still_perform setup candidates _ still
  case refused => exact fun _ _ _ _ _ refused => Client.refused_perform shape refused
  case read =>
    exact fun _ _ _ _ accepted => Client.read_perform setup candidates shape accepted
  case write =>
    intro call inside before places
    have written := Client.write_perform setup candidates call inside before places
      (Client.performAll setup candidates uses (.fresh setup.mode)).2
    rwa [Pool.dropAll_eq] at written

end DocumentCursor.Stream
