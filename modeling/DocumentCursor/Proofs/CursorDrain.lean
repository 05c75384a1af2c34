import DocumentCursor.Proofs.Limit
import DocumentCursor.Proofs.Serving

/-! # Draining a cursor

However a server cuts the documents of a query into batches and whatever the batch sizes are, a
cursor that is drained hands out the documents in order, up to its limit.

* **`Way`** and **`Pull`**: the calls by which a cursor is drained, and what they say.
* **`pull_serves`**: one call hands out a batch of what is left, or brings the end nearer.
* **`drain_complete`**: a drained cursor has handed out the documents, up to its limit.
-/

namespace DocumentCursor.Cursor

variable {α : Type} {setup : Setup α} {run : Run α}

/-! ## One call -/

/-- The ways to drain a cursor: by one call, which is made over and over. -/
inductive Way where
  | nextBatch
  | tryNext
  | next
  deriving DecidableEq, Repr

/-- The call that is made over and over. -/
def Way.call : Way → Call
  | nextBatch => .nextBatch
  | tryNext => .tryNext
  | next => .next

/-- What such a call says to who drains a cursor. -/
inductive Pull (α : Type) where
  | batch (documents : List α)
  /-- There is nothing now, but there may be something later. -/
  | nothing
  | ended
  | failed

/-- What the result of a call says. Where a call may bring nothing although there is more to come,
as `tryNext` may, it is over when the server holds no cursor. -/
def Way.read (way : Way) (result : Except CursorError (Answer α)) (run : Run α) : Pull α :=
  match way, result with
  | _, .ok (.batch (some documents)) => .batch documents
  | nextBatch, .error .noSuchElement => .ended
  | next, .ok (.batch none) => .ended
  | tryNext, .ok (.batch none) =>
    match serverCursor run with
    | .ok none => .ended
    | _ => .nothing
  | _, _ => .failed

/-- **What a call says is true** of what is left to be handed out: a batch is the beginning of
`left`, with either answer that is not the end one call fewer is needed, and it is over only where
no batch is there and the server holds no cursor. -/
inductive Pulls (setup : Setup α) (left : List α) (n : Nat) : Pull α → Run α → Prop
  | batch {documents later : List α} {fewer : Nat} {after : Run α}
      (whole : left = documents ++ later) (nearer : n = fewer + 1)
      (serves : Serves setup later fewer after) : Pulls setup left n (.batch documents) after
  | nothing {fewer : Nat} {after : Run α} (nearer : n = fewer + 1)
      (serves : Serves setup left fewer after) : Pulls setup left n .nothing after
  | ended {after : Run α} (serves : Serves setup left n after)
      (empty : after.state.buffered = []) (none : after.state.live = none) :
      Pulls setup left n .ended after

namespace Serves

variable {left : List α} {n : Nat}

/-- When there is no other batch, it is over: `Knows setup false run` says why. -/
theorem ended (h : Serves setup left n run) (knows : Knows setup false run) :
    Pulls setup left n .ended run :=
  .ended h (knows.empty rfl) ((knows.ended rfl).elim h.cut id)

/-- A batch that is there is pulled, and is the beginning of what is left. -/
theorem pulls (h : Serves setup left n run) (ready : run.state.buffered ≠ []) :
    Pulls setup left n (.batch run.state.buffered)
      (run.modify fun state => { state with buffered := [] }) := by
  obtain ⟨later, fewer, whole, nearer, serves⟩ := h.hand ready
  exact .batch whole nearer serves

/-- **The next batch is pulled**, or it is over; `.noSuchElement` is how that is said. -/
theorem nextBatch (h : Serves setup left n run) :
    let outcome := Cursor.nextBatch setup run
    Pulls setup left n
      (Way.nextBatch.read (outcome.result.map fun batch => .batch (some batch)) outcome.run)
      outcome.run := by
  obtain ⟨more, after, looked, serves, knows⟩ := h.hasNext
  unfold Cursor.nextBatch
  rw [looked, Outcome.andThen_pure]
  cases more with
  | true => exact serves.pulls (knows.ready rfl)
  | false => exact serves.ended knows

/-- **The next item of the iteration is pulled**, or it is over; `none` is how that is said. -/
theorem next (h : Serves setup left n run) :
    let outcome := Cursor.next setup run
    Pulls setup left n (Way.next.read (outcome.result.map .batch) outcome.run) outcome.run := by
  obtain ⟨more, after, looked, serves, knows⟩ := h.hasNext
  unfold Cursor.next
  rw [looked, Outcome.andThen_pure]
  cases more with
  | true =>
    have ready := knows.ready rfl
    have taken : Cursor.nextBatch setup after = takeBuffered after := by
      unfold Cursor.nextBatch
      rw [hasNext_ready setup serves.isOpen ready, Outcome.andThen_pure, if_pos rfl]
    rw [if_pos rfl, taken]
    exact serves.pulls ready
  | false => exact serves.ended knows

/-- What is there is pulled, or there is nothing now, or it is over, whichever of them
`takeBuffered` shows. -/
theorem take (h : Serves setup left n run)
    (nearer : run.state.buffered = [] → run.state.live.isSome → run.script.fetches.length < n) :
    let outcome := (takeBuffered run).andThen fun batch run =>
      .pure (if batch.isEmpty then none else some batch) run
    Pulls setup left n (Way.tryNext.read (outcome.result.map .batch) outcome.run) outcome.run := by
  by_cases hb : run.state.buffered = []
  · rw [takeBuffered_empty hb]
    simp only [Outcome.andThen_pure]
    cases hl : run.state.live with
    | none =>
      have read : Way.tryNext.read (.ok (.batch none)) run = .ended := by
        simp [Way.read, serverCursor, h.isOpen, hl]
      show Pulls setup left n (Way.tryNext.read (.ok (.batch none)) run) run
      rw [read]
      exact .ended h hb hl
    | some cursor =>
      have read : Way.tryNext.read (.ok (.batch none)) run = .nothing := by
        simp [Way.read, serverCursor, h.isOpen, hl]
      have length := nearer hb (by rw [hl]; rfl)
      obtain ⟨fewer, rfl⟩ : ∃ fewer, n = fewer + 1 := ⟨n - 1, by omega⟩
      show Pulls setup left _ (Way.tryNext.read (.ok (.batch none)) run) run
      rw [read]
      refine .nothing rfl ⟨h.sourced, h.isOpen, h.unfinished, h.smooth, h.split, h.cut, ?_⟩
      rw [if_pos hb]
      omega
  · have filled : run.state.buffered.isEmpty = false := by simpa using hb
    show Pulls setup left n (Way.tryNext.read (.ok (.batch
      (if run.state.buffered.isEmpty then none else some run.state.buffered))) _) _
    rw [if_neg (by simp [filled])]
    exact h.pulls hb

/-- **The next batch is pulled if one round trip brings it**, or there is nothing now, or it is
over. -/
theorem tryNext (h : Serves setup left n run) :
    let outcome := Cursor.tryNext setup run
    Pulls setup left n (Way.tryNext.read (outcome.result.map .batch) outcome.run) outcome.run := by
  unfold Cursor.tryNext
  rw [ensureOpen_open setup h.isOpen]
  simp only [Outcome.andThen_pure]
  split
  · rename_i asks
    simp only [Bool.and_eq_true, List.isEmpty_iff] at asks
    obtain ⟨after, got, serves, fewer⟩ := h.getMore asks.1.1 asks.2
    rw [got, Outcome.andThen_pure]
    exact serves.take fun _ _ => fewer
  · -- No round trip is made: there is a batch, or the server holds no cursor.
    rename_i idle
    refine h.take fun empty live => absurd ?_ idle
    have unreached : limitReached setup run.state = false := by
      cases hr : limitReached setup run.state with
      | true => exact absurd live (by simp [h.cut hr])
      | false => rfl
    simp [empty, unreached, live]

end Serves

/-- What a call hands out, by what it says. It hands out nothing if it says that it failed. -/
def Pull.documents : Pull α → List (List α)
  | batch documents => [documents]
  | _ => []

/-- **What a call says is what it hands out**, unless it says that it failed: nothing is handed out
that is not pulled. -/
theorem handedOut_read (way : Way) (result : Except CursorError (Answer α)) (run : Run α) :
    way.read result run ≠ .failed →
      handedOut (given result) = (way.read result run).documents := by
  unfold Way.read
  split
  · exact fun _ => rfl
  · exact fun _ => rfl
  · exact fun _ => rfl
  · split <;> exact fun _ => rfl
  · exact fun h => absurd rfl h

namespace Life

/-- Sets the batch size and makes one call to drain a cursor. -/
def pull (way : Way) (size : Int32) (life : Life α) : Pull α × Life α :=
  let called := (life.perform (.setBatchSize size)).2.perform way.call
  (way.read called.1 called.2.run, called.2)

/-- What a call changes is the run; `setup` stays. -/
theorem setup_pull (way : Way) (size : Int32) (life : Life α) :
    (life.pull way size).2.setup = life.setup :=
  (setup_perform way.call _).trans (setup_perform _ life)

/-- **One call hands out a batch of what is left**, or brings the end nearer, or it is over. The
number `n` of calls that are enough goes down by one with each of the first two. -/
theorem pull_serves (way : Way) (size : Int32) {life : Life α} {left : List α} {n : Nat}
    (alive : life.dropped = false) (h : Serves life.setup left n life.run) :
    let pulled := life.pull way size
    Pulls life.setup left n pulled.1 pulled.2.run ∧ pulled.2.dropped = false := by
  have serves := h.resize size
  unfold pull perform
  cases way <;> simp only [Way.call, alive, Bool.false_and, Bool.false_eq_true, if_false,
    performAlive]
  · exact ⟨serves.nextBatch, rfl⟩
  · exact ⟨serves.tryNext, rfl⟩
  · exact ⟨serves.next, rfl⟩

/-- What one call says is what its path hands out. -/
theorem pull_path (way : Way) (size : Int32) {life : Life α} (h : Sourced life.run) :
    ∃ here, Path life.setup life.run here (life.pull way size).2.run ∧
      ((life.pull way size).1 ≠ .failed → handedOut here = (life.pull way size).1.documents) := by
  have sized := perform_path (.setBatchSize size) h
  have called := perform_path way.call (sized.sourced h)
  rw [setup_perform] at called
  refine ⟨_, sized.trans called, fun well => ?_⟩
  have none : given (life.perform (.setBatchSize size)).1 = [] := by
    unfold perform
    split <;> rfl
  rw [none, List.nil_append]
  exact handedOut_read way _ _ well

/-! ## Draining -/

/-- **Drains a cursor**: makes the same call over and over, with another batch size each time, until
it is over. There are no batches if a call fails or the batch sizes do not reach to the end. -/
def drain (way : Way) : List Int32 → Life α → Option (List (List α)) × Life α
  | [], life => (none, life)
  | size :: sizes, life =>
    let pulled := life.pull way size
    let rest := drain way sizes pulled.2
    match pulled.1 with
    | .batch documents => (rest.1.map (documents :: ·), rest.2)
    | .nothing => rest
    | .ended => (some [], pulled.2)
    | .failed => (none, pulled.2)

/-- **Draining follows a path** that hands out the batches, by induction on the batch sizes. -/
theorem drain_path (way : Way) (sizes : List Int32) {life : Life α} (h : Sourced life.run) :
    ∃ here, Path life.setup life.run here (drain way sizes life).2.run ∧
      ∀ batches, (drain way sizes life).1 = some batches → handedOut here = batches := by
  induction sizes generalizing life with
  | nil => exact ⟨[], .nil life.run, fun _ => nofun⟩
  | cons size sizes ih =>
    obtain ⟨here, path, handed⟩ := pull_path way size h
    obtain ⟨later, onward, rest⟩ := ih (path.sourced h)
    rw [setup_pull] at onward
    rw [drain]
    generalize life.pull way size = pulled at *
    obtain ⟨pulled, after⟩ := pulled
    cases pulled with
    | batch documents =>
      refine ⟨here ++ later, path.trans onward, fun batches ended => ?_⟩
      obtain ⟨others, last, rfl⟩ := Option.map_eq_some_iff.mp ended
      rw [handedOut_append, handed nofun, rest others last]
      rfl
    | nothing =>
      refine ⟨here ++ later, path.trans onward, fun batches ended => ?_⟩
      rw [handedOut_append, handed nofun, rest batches ended]
      rfl
    | ended =>
      refine ⟨here, path, fun batches ended => ?_⟩
      obtain rfl := Option.some.inj ended
      exact handed nofun
    | failed => exact ⟨here, path, fun _ => nofun⟩

/-- **Draining ends** with nothing left but what the limit cuts off, if there are batch sizes for
all calls: `n < sizes.length`. -/
theorem drain_serves (way : Way) (sizes : List Int32) {life : Life α} {left : List α} {n : Nat}
    (alive : life.dropped = false) (h : Serves life.setup left n life.run)
    (enough : n < sizes.length) :
    ∃ batches rest, (drain way sizes life).1 = some batches ∧ left = batches.flatten ++ rest ∧
      (drain way sizes life).2.run.state.buffered = [] ∧
      (drain way sizes life).2.run.state.finished = false ∧
      (rest = [] ∨ limitReached life.setup (drain way sizes life).2.run.state = true) := by
  -- Each call uses up one batch size, and none is without effect but the last.
  induction sizes generalizing life left n with
  | nil => exact absurd enough (Nat.not_lt_zero n)
  | cons size sizes ih =>
    obtain ⟨pulls, still⟩ := pull_serves way size alive h
    have same := setup_pull way size life
    rw [drain]
    generalize life.pull way size = pulled at *
    obtain ⟨pulled, after⟩ := pulled
    rw [List.length_cons] at enough
    simp only at pulls still same
    rw [← same] at pulls ⊢
    cases pulls with
    | batch whole nearer serves =>
      obtain ⟨batches, rest, ended, later, final⟩ := ih still serves (by omega)
      refine ⟨_ :: batches, rest, by rw [ended]; rfl, ?_, final⟩
      rw [whole, later, List.flatten_cons, List.append_assoc]
    | nothing nearer serves => exact ih still serves (by omega)
    | ended serves empty none =>
      obtain ⟨rest, whole, -, ends⟩ := serves.split
      refine ⟨[], rest, rfl, ?_, empty, serves.unfinished, ends none⟩
      rw [whole, empty]
      rfl

/-! ## The documents of a query -/

/-- **Draining returns the documents of the query**, however the server cuts them into batches and
whatever the batch sizes are: all of them, or as many as the limit allows. The server serves `rest`
after the first batch, and returns no more than it is asked for where there is a limit. The script
is `Smooth`, and there are as many batch sizes as calls may be needed. -/
theorem drain_complete (first : Reply α) (options : Options)
    (decode : Document → Except DecodeError α) (source : Option Source)
    (connection : Option Connection) (script : Script) (way : Way) (sizes : List Int32)
    (rest : List α) (hok : (begin first options decode source connection script).1 = .ok ())
    (hmin : options.limit ≠ Int32.minValue)
    (hfirst : options.limit ≠ 0 → first.documents.length ≤ options.limit.toInt.natAbs)
    (hsmooth : Smooth script) (hrest : first.cursor = none → rest = [])
    (hserving : first.cursor.isSome →
      Serving (Setup.of first options decode) rest script.fetches)
    (hsizes : script.fetches.length + 1 < sizes.length)
    (hmoderate : options.limit ≠ 0 → Moderate (Setup.of first options decode)
      (requests (drain way sizes
        (begin first options decode source connection script).2).2.run.events) script.fetches) :
    ∃ batches,
      (drain way sizes (begin first options decode source connection script).2).1 = some batches ∧
        batches.flatten =
          if options.limit = 0 then first.documents ++ rest
          else (first.documents ++ rest).take options.limit.toInt.natAbs := by
  have fresh := made_of_ok hok
  have same : (begin first options decode source connection script).2.setup =
    Setup.of first options decode := rfl
  have alive : (begin first options decode source connection script).2.dropped = false := rfl
  generalize (begin first options decode source connection script).2 = made at *
  obtain ⟨batches, left, ended, whole, empty, unfinished, ends⟩ :=
    drain_serves way sizes alive (same ▸ fresh.serves hsmooth hrest hserving) hsizes
  obtain ⟨here, path, handed⟩ := drain_path way sizes fresh.sourced
  rw [same] at path ends
  have start := fresh.delivery
  have delivery := path.delivery start
  -- Everything that was received was handed out.
  have total : batches.flatten.length = received (drain way sizes made).2.run.events := by
    have all := delivery.whole unfinished
    rw [List.nil_append, handed batches ended, empty, nonempty_singleton_nil,
      List.append_nil] at all
    rw [all, flatten_nonempty, received]
  refine ⟨batches, ended, ?_⟩
  rw [whole]
  by_cases hlimit : options.limit = 0
  · rw [if_pos hlimit]
    have unreached : limitReached (Setup.of first options decode)
        (drain way sizes made).2.run.state = false := by
      rw [limitReached_eq_false delivery.count]
      exact fun h => absurd hlimit h
    obtain rfl | reached := ends
    · exact (List.append_nil _).symm
    · exact absurd reached (by simp [unreached])
  · rw [if_neg hlimit]
    have opening : Bounded (Setup.of first options decode) made.run :=
      ⟨by rw [fresh.received_eq]; exact hfirst hlimit, fresh.throughout asksWithin_of_none⟩
    have bounded := path.bounded hlimit hmin start opening (hmoderate hlimit)
    have within : received (drain way sizes made).2.run.events ≤ options.limit.toInt.natAbs :=
      bounded.within
    -- What was handed out is within the limit. It is everything, or as much as the limit.
    obtain rfl | reached := ends
    · rw [List.append_nil, List.take_of_length_le (by omega)]
    · have enough : options.limit.toInt.natAbs ≤
          min (received (drain way sizes made).2.run.events) 2147483647 :=
        ((limitReached_counted delivery.count).mp reached).2
      rw [List.take_left' (by omega)]

/-- Five documents in batches of one, none, two and one, with a limit of four. -/
theorem drain_complete_four :
    let turns := [Small.turn [2] 7, Small.turn [] 7, Small.turn [3, 4] 7, Small.turn [5] 0]
    let made := begin (Small.first [1] 7) { limit := 4 } Small.decode (some (Small.source 8)) none
      ⟨[], turns, []⟩
    ∃ batches, (drain .tryNext [2, 1, 2, 2, 2, 0] made.2).1 = some batches ∧
      batches.flatten = [1, 2, 3, 4] := by
  have name : Namespace.parse "db.log" = .ok Small.ns := rfl
  have brings (items : List Nat) (id : Int64)
      (decoded : decodeAll (Setup.of (Small.first [1] 7) { limit := 4 } Small.decode)
        (items.map fun n => List.replicate n ("x", .null)) = .ok items) :
      Brings (Setup.of (Small.first [1] 7) { limit := 4 } Small.decode) (Small.turn items id) items
        (id ≠ 0) := brings_success name decoded
  refine drain_complete (Small.first [1] 7) { limit := 4 } Small.decode (some (Small.source 8)) none
    ⟨[], [Small.turn [2] 7, Small.turn [] 7, Small.turn [3, 4] 7, Small.turn [5] 0], []⟩ .tryNext
    [2, 1, 2, 2, 2, 0] [2, 3, 4, 5] rfl (by decide) (by decide) ⟨by simp, by simp⟩ (by decide)
    (fun _ => ?_) (by decide) (by decide +kernel)
  show Serving _ ([2] ++ ([] ++ ([3, 4] ++ [5]))) _
  exact .more (brings [2] 7 rfl) (.more (brings [] 7 rfl)
    (.more (brings [3, 4] 7 rfl) (.last (brings [5] 0 rfl))))

end Life

end DocumentCursor.Cursor
