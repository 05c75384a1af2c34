import DocumentCursor.Proofs.Unrolling

/-! # The answer to whether there is another batch

Whether there is another batch is found out once: to ask again gives the same answer and does
nothing. That there is none is final. The end is reached when the server holds no cursor, and also
at the limit, where the server may still hold one, as it does when that cursor could not be killed.

* **`hasNext_false_iff`**: there is no other batch exactly if the cursor is at its end after that
  was found out.
* **`hasNext_hasNext`**: to ask again gives the same answer.
* **`perform_of_spent`** and **`performAll_of_spent`**: at its end a cursor gives no data, and stays
  there for as long as it is not closed.
* **`hasNext_settles`**: so it is in every life of a cursor.
-/

namespace DocumentCursor.Cursor

variable {α : Type} {setup : Setup α} {run after : Run α} {error : CursorError}

/-! ## Failures are no end -/

/-- **A round trip that fails does not end the cursor**: what would be asked for is still there to
be asked for, or the batch that reached the limit is there to be handed out. So an error is never
followed by `hasNext = false` without a look. -/
theorem getMore_unspent (h : Asks setup run) (live : run.state.live.isSome)
    (failed : (getMore setup run).result = .error error) :
    ¬Spent setup (getMore setup run).run := by
  obtain ⟨source, cursor, -, trip⟩ := getMore_trip setup h.sourced live
  rintro ⟨-, empty, ended⟩
  -- Without a batch nothing was counted, so the limit is as far away as before, and the cursor
  -- would have to be gone.
  have unreached := (limitReached_congr (trip.count_of_empty empty)).trans h.unreached
  have idle : (getMore setup run).run.state.live = none :=
    ended.resolve_left (by simp [unreached])
  cases trip with
  | refused result listed state | failed pinned result received state =>
    rw [state] at idle
    simp [show run.state.live = none from idle] at live
  | brought pinned still closed received state exchanged goes cuts shuts result =>
    obtain ok | ⟨reached, -⟩ := result
    · exact absurd (ok.symm.trans failed) (by simp)
    · exact absurd (reached.symm.trans unreached) (by simp)

/-- A look that fails does not end the cursor, by `getMore_unspent` for the round trip that failed
in it. -/
theorem hasNext_unspent {run : Run α} (h : Sourced run)
    (failed : (hasNext setup run).result = .error error) :
    ¬Spent setup (hasNext setup run).run := by
  cases closed : run.state.closed with
  | true =>
    rw [hasNext_closed setup closed]
    exact fun spent => absurd ((closed_close setup h).symm.trans spent.isOpen) (by simp)
  | false =>
    by_cases asks : run.state.buffered = [] ∧ limitReached setup run.state = false ∧
        run.state.live.isSome
    · obtain ⟨empty, unreached, live⟩ := asks
      have asks : Asks setup run := ⟨h, closed, empty, unreached⟩
      rw [hasNext_again asks live] at failed ⊢
      cases result : (getMore setup run).result with
      | error cause =>
        rw [Outcome.andThen_of_error result]
        exact getMore_unspent asks live result
      | ok value =>
        have fewer := asks.tripsLeft_getMore live result
        obtain ⟨sourced, -⟩ := (getMore_follows asks live).tells () result
        -- It is the look after this round trip that fails.
        rw [Outcome.andThen_of_ok result] at failed ⊢
        exact hasNext_unspent sourced failed
    · obtain ready | spent := ready_or_spent closed asks
      · rw [hasNext_ready setup closed ready] at failed
        exact absurd failed (by simp [Outcome.pure])
      · rw [spent.hasNext_eq] at failed
        exact absurd failed (by simp [Outcome.pure])
termination_by run.tripsLeft

/-- **There is no other batch** exactly if the cursor is at its end after that was found out:
`hasNext` is `.ok false ↔ Spent` of the run after it. -/
theorem hasNext_false_iff (h : Sourced run) :
    (hasNext setup run).result = .ok false ↔ Spent setup (hasNext setup run).run := by
  have tells := (hasNext_follows setup h).tells
  constructor
  · intro ok
    have knows := tells false ok
    exact ⟨knows.isOpen, knows.empty rfl, knows.ended rfl⟩
  · intro spent
    cases result : (hasNext setup run).result with
    | error error => exact absurd spent (hasNext_unspent h result)
    | ok more =>
      cases more with
      | false => rfl
      | true => exact absurd spent.empty ((tells true result).ready rfl)

/-- **To ask again gives the same answer** and does nothing: after `.ok more`, `hasNext` is
`.pure more` of the run as it is. -/
theorem hasNext_hasNext (h : Sourced run) {more : Bool}
    (ok : (hasNext setup run).result = .ok more) :
    hasNext setup (hasNext setup run).run = .pure more (hasNext setup run).run := by
  cases more with
  | false => exact ((hasNext_false_iff h).mp ok).hasNext_eq
  | true =>
    have knows := (hasNext_follows setup h).tells true ok
    exact hasNext_ready setup knows.isOpen (knows.ready rfl)

/-! ## The end is final -/

/-- At its end a cursor has no further items: `collect most` is `[]`, whatever `most` is. -/
theorem Spent.collect_eq (h : Spent setup run) (most : Nat) :
    collect setup most run = ([], run) := by
  cases most with
  | zero => rfl
  | succ most =>
    rw [collect, h.next_eq]
    rfl

/-- The batch size says nothing about whether a cursor is at its end: `Resized` keeps `Spent`. -/
theorem Spent.resized (h : Spent setup run) (resized : Resized run after) : Spent setup after := by
  obtain ⟨size, rfl⟩ := resized
  exact ⟨h.isOpen, h.empty, h.ended⟩

namespace Call

/-- What a call that looks for data gives at the end, and `none` for a call that does not look for
data. Only `nextBatch` fails there. -/
def ending? : Call → Option (Except CursorError (Answer α))
  | hasNext => some (.ok (.flag false))
  | nextBatch => some (.error .noSuchElement)
  | tryNext | next => some (.ok (.batch none))
  | collect _ => some (.ok (.batches []))
  | _ => none

end Call

namespace Life

/-- **At its end a cursor gives no data**, and to look for it does nothing: each such call gives its
`ending?` and leaves the life as it is. -/
theorem perform_of_spent {life : Life α} (alive : life.dropped = false)
    (h : Spent life.setup life.run) {call : Call} {result : Except CursorError (Answer α)}
    (ends : result ∈ call.ending?) : life.perform call = (result, life) := by
  rw [perform_of_alive alive]
  cases call with
  | hasNext =>
    obtain rfl := Option.some.inj ends
    rw [performAlive, h.hasNext_eq]
    rfl
  | nextBatch =>
    obtain rfl := Option.some.inj ends
    rw [performAlive, h.nextBatch_eq]
    rfl
  | tryNext =>
    obtain rfl := Option.some.inj ends
    rw [performAlive, h.tryNext_eq]
    rfl
  | next =>
    obtain rfl := Option.some.inj ends
    rw [performAlive, h.next_eq]
    rfl
  | collect most =>
    obtain rfl := Option.some.inj ends
    rw [performAlive, h.collect_eq]
  | setBatchSize | batchSize | limit | count | ns | serverCursor | serverAddress | isClosed | close
  | handleClose | handleIsClosed | drop => exact absurd ends (by simp [Call.ending?])

/-- **At its end a cursor stays there** under every call that does not close it, and nothing but its
batch size changes: the run after the call is `Resized`. -/
theorem resized_of_spent {life : Life α} (alive : life.dropped = false)
    (h : Spent life.setup life.run) {call : Call} (leaves : call.closes = false) :
    ∃ run, Resized life.run run ∧ (life.perform call).2 = { life with run } := by
  cases call with
  | hasNext | nextBatch | tryNext | next | collect most =>
    rw [perform_of_spent alive h rfl]
    exact ⟨_, .refl life.run, rfl⟩
  | setBatchSize size =>
    rw [perform_of_alive alive]
    exact ⟨_, ⟨size, rfl⟩, rfl⟩
  | batchSize | limit | count | ns | serverCursor | serverAddress | isClosed | handleIsClosed =>
    rw [perform_of_alive alive]
    exact ⟨_, .refl life.run, rfl⟩
  | close | handleClose | drop => exact absurd leaves (by simp [Call.closes])

/-- **The end is final**: at its end a cursor stays there for as long as it is not closed. By
induction on the calls, each of which is a step of `resized_of_spent`. -/
theorem performAll_of_spent (calls : List Call) {life : Life α} (alive : life.dropped = false)
    (h : Spent life.setup life.run) (leave : ∀ call ∈ calls, call.closes = false) :
    ∃ run, Resized life.run run ∧ (performAll calls life).2 = { life with run } := by
  induction calls generalizing life with
  | nil => exact ⟨_, .refl life.run, rfl⟩
  | cons call calls ih =>
    obtain ⟨leaves, others⟩ := List.forall_mem_cons.mp leave
    obtain ⟨run, resized, here⟩ := resized_of_spent alive h leaves
    let next : Life α := { life with run }
    have left : next.dropped = false := alive
    have still : Spent next.setup next.run := h.resized resized
    obtain ⟨last, later, there⟩ := ih left still others
    refine ⟨last, resized.trans later, ?_⟩
    show (performAll calls (life.perform call).2).2 = _
    rw [here]
    exact there

/-! ## Whole lives -/

/-- Whether there is another batch is what is found out about it: on a cursor that was not dropped
the call gives `.flag more` exactly if `hasNext` gives `more`. -/
theorem perform_hasNext_iff {life : Life α} (alive : life.dropped = false) (more : Bool) :
    (life.perform .hasNext).1 = .ok (.flag more) ↔
      (hasNext life.setup life.run).result = .ok more := by
  rw [perform_of_alive alive]
  show (hasNext life.setup life.run).result.map _ = _ ↔ _
  cases (hasNext life.setup life.run).result <;> simp [Except.map]

/-- **What is found out about the next batch stays so.** A cursor that was asked whether there is
another batch gives the same answer when it is asked again, and does nothing then. The answer is
that there is none exactly if, after what was fetched for it, the cursor is open, no batch is there,
and the limit is reached or the server holds no cursor. From then on, whatever is called but what
closes the cursor, nothing happens, nothing but the batch size changes, and every call that looks
for data gives none. -/
theorem hasNext_settles (first : Reply α) (options : Options)
    (decode : Document → Except DecodeError α) (source : Option Source)
    (connection : Option Connection) (script : Script) (calls : List Call)
    (hok : (begin first options decode source connection script).1 = .ok ()) :
    let life := (performAll calls (begin first options decode source connection script).2).2
    let asked := (life.perform .hasNext).2
    (∀ more, (life.perform .hasNext).1 = .ok (.flag more) →
        asked.perform .hasNext = (.ok (.flag more), asked)) ∧
      ((life.perform .hasNext).1 = .ok (.flag false) ↔ Spent asked.setup asked.run) ∧
      ((life.perform .hasNext).1 = .ok (.flag false) →
        ∀ more : List Call, (∀ call ∈ more, call.closes = false) →
          ∃ run, Resized asked.run run ∧
            let later : Life α := { asked with run }
            (performAll more asked).2 = later ∧
              ∀ call, ∀ result ∈ call.ending?, later.perform call = (result, later)) := by
  intro life asked
  have fresh := made_of_ok hok
  have sourced : Sourced life.run := (performAll_path calls fresh.sourced).sourced fresh.sourced
  have closed := closed_of_dropped calls fresh.sourced (by simp [begin])
  cases dropped : life.dropped with
  | true =>
    -- A cursor that was dropped is closed, and so it is not at its end.
    have same : life.perform .hasNext = (.ok .dropped, life) :=
      perform_of_dropped dropped (by simp) (by simp)
    have silent (more : Bool) : (life.perform .hasNext).1 ≠ .ok (.flag more) := by simp [same]
    refine ⟨fun more flag => absurd flag (silent more),
      ⟨fun flag => absurd flag (silent false), ?_⟩, fun flag => absurd flag (silent false)⟩
    intro spent
    have isOpen := spent.isOpen
    rw [show asked = life from congrArg Prod.snd same] at isOpen
    exact absurd ((closed dropped).symm.trans isOpen) (by simp)
  | false =>
    have alive : asked.dropped = false := (dropped_perform (by simp) life).trans dropped
    have here : asked = { life with run := (hasNext life.setup life.run).run } :=
      congrArg Prod.snd (perform_of_alive dropped .hasNext)
    have final : (life.perform .hasNext).1 = .ok (.flag false) ↔ Spent asked.setup asked.run := by
      rw [perform_hasNext_iff dropped, hasNext_false_iff sourced, here]
    refine ⟨fun more flag => ?_, final, fun flag more leave => ?_⟩
    · have again := hasNext_hasNext sourced ((perform_hasNext_iff dropped more).mp flag)
      rw [perform_of_alive alive, performAlive, here, again]
      rfl
    · have spent := final.mp flag
      obtain ⟨run, resized, later⟩ := performAll_of_spent more alive spent leave
      let last : Life α := { asked with run }
      have left : last.dropped = false := alive
      have still : Spent last.setup last.run := spent.resized resized
      exact ⟨run, resized, later, fun call result ends => perform_of_spent left still ends⟩

/-- The limit is reached, and the cursor cannot be killed. Once the batch was handed out there is no
other one, though the server still holds the cursor, and a larger batch size is no matter. -/
theorem hasNext_settles_at_limit :
    let life := (performAll [.tryNext, .tryNext] (begin (Small.first [] 7) { limit := 1 }
      Small.decode (some (Small.source 3)) none
      ⟨[], [Small.turn [1] 7], [⟨.broken .closed, false⟩]⟩).2).2
    let asked := (life.perform .hasNext).2
    (life.perform .hasNext).1 = .ok (.flag false) ∧ asked.run.state.live.isSome ∧
      ∃ run, Resized asked.run run ∧
        (performAll [.setBatchSize 5, .next, .hasNext] asked).2 = { asked with run } := by
  intro life asked
  have final := (hasNext_settles (Small.first [] 7) { limit := 1 } Small.decode
    (some (Small.source 3)) none ⟨[], [Small.turn [1] 7], [⟨.broken .closed, false⟩]⟩
    [.tryNext, .tryNext] rfl).2.2
  have ended : (life.perform .hasNext).1 = .ok (.flag false) := rfl
  have leave : ∀ call ∈ [Call.setBatchSize 5, .next, .hasNext], call.closes = false := by decide
  obtain ⟨run, resized, later, -⟩ := final ended _ leave
  exact ⟨ended, rfl, run, resized, later⟩

end Life

end DocumentCursor.Cursor
