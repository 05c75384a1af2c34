import DocumentCursor.Proofs.Limit
import DocumentCursor.Proofs.Retrying

/-! # The sign of the limit

A limit has a size and a sign, and a cursor looks at the size alone. So a negative limit does not
mean a single batch: while fewer documents than its size were received, the next call that looks for
data asks the server again, whatever batches it has sent before.

* **`numberToReturn_size`** and **`limitReached_size`**: a limit matters by its size.
* **`Setup.limited`**: a setup with another limit.
* **`create_limited`**, **`getMore_limited`** and **`performAll_limited`**: limits of the same size
  lead to the same run.
* **`getMore_grows_perform`**: every call that looks for data asks again below the limit.
* **`limit_unsigned`**: so it is in every life of a cursor.
-/

namespace DocumentCursor

/-- **What is asked for depends on the size of the limit**: `numberToReturn` is the same for limits
of the same `natAbs`. -/
theorem numberToReturn_size {limit other : Int32}
    (same : other.toInt.natAbs = limit.toInt.natAbs) (batchSize count : Int32) :
    numberToReturn other batchSize count = numberToReturn limit batchSize count := by
  have size : Saturating.abs other = Saturating.abs limit := by
    rw [Saturating.abs, Saturating.abs, same]
  have zero : other = 0 ↔ limit = 0 := by
    rw [← Int32.toInt_inj, ← Int32.toInt_inj, Int32.toInt_zero]
    omega
  simp only [numberToReturn, size, zero]

namespace Cursor

variable {α : Type} {setup : Setup α} {run : Run α} {other : Int32}

/-! ## Setups with limits of the same size -/

/-- The setup with another limit. -/
def Setup.limited (setup : Setup α) (limit : Int32) : Setup α := { setup with limit }

section Limited

variable (same : other.toInt.natAbs = setup.limit.toInt.natAbs)
include same

/-- **Whether the limit is reached depends on its size**: `limitReached` is the same under
`setup.limited other`. -/
theorem limitReached_size (state : State α) :
    limitReached (setup.limited other) state = limitReached setup state := by
  have zero : other = 0 ↔ setup.limit = 0 := by
    rw [← Int32.toInt_inj, ← Int32.toInt_inj, Int32.toInt_zero]
    omega
  simp only [limitReached, Setup.limited, same, ne_eq, zero]

/-- A request asks for as many documents: `fetch` is the same under `setup.limited other`. -/
theorem fetch_limited (connection : Connection) (cursor : ServerCursor) (run : Run α) :
    fetch (setup.limited other) connection cursor run = fetch setup connection cursor run := by
  have asked := numberToReturn_size same run.state.batchSize run.state.count
  simp only [fetch, Setup.limited, asked]
  rfl

/-- **A round trip goes the same way**: `getMore` is the same under `setup.limited other`. -/
theorem getMore_limited (run : Run α) :
    getMore (setup.limited other) run = getMore setup run := by
  -- The limit is looked at twice: for the number to ask for, and for whether to kill the cursor.
  have fetched (connection : Connection) (run : Run α) :
      getMoreOn (setup.limited other) connection run = getMoreOn setup connection run := by
    simp only [getMoreOn, fetch_limited same, limitReached_size same]
    rfl
  simp only [getMore, fetched]
  rfl

/-- A batch is looked for in the same way, so `hasNext` is the same, with the same fuel. -/
theorem hasNext_limited (run : Run α) :
    hasNext (setup.limited other) run = hasNext setup run := by
  have looked (fuel : Nat) (run : Run α) :
      fetchUntilBatch (setup.limited other) fuel run = fetchUntilBatch setup fuel run := by
    induction fuel generalizing run with
    | zero => rfl
    | succ fuel ih =>
      simp only [fetchUntilBatch, getMore_limited same, ih]
      rfl
  simp only [hasNext, looked, limitReached_size same]
  rfl

/-- The next batch is the same: `nextBatch` looks at the limit in `hasNext` only. -/
theorem nextBatch_limited (run : Run α) :
    nextBatch (setup.limited other) run = nextBatch setup run := by
  simp only [nextBatch, hasNext_limited same]

/-- The next batch is the same if one round trip brings it: `tryNext` looks at the limit before it
fetches. -/
theorem tryNext_limited (run : Run α) :
    tryNext (setup.limited other) run = tryNext setup run := by
  simp only [tryNext, getMore_limited same, limitReached_size same]
  rfl

/-- The next item of the iteration is the same, by `nextBatch` and the end that is no error. -/
theorem next_limited (run : Run α) : next (setup.limited other) run = next setup run := by
  simp only [next, hasNext_limited same, nextBatch_limited same]

/-- Items of the iteration one after the other are the same, by induction on how many are
collected. -/
theorem collect_limited (most : Nat) (run : Run α) :
    collect (setup.limited other) most run = collect setup most run := by
  induction most generalizing run with
  | zero => rfl
  | succ most ih => simp only [collect, next_limited same, ih]

/-- **A cursor is made in the same way**: `create` cuts off the first batch at the size of the
limit. -/
theorem create_limited (batchSize : Int32) (first : Reply α) (source : Option Source)
    (connection : Option Connection) (script : Script) :
    create (setup.limited other) batchSize first source connection script =
      create setup batchSize first source connection script := by
  simp only [create, killIfReached, limitReached_size same]
  rfl

end Limited

/-! ## Lives with limits of the same size -/

namespace Life

variable {life : Life α}

/-- The life of a cursor with another limit. -/
def limited (life : Life α) (limit : Int32) : Life α :=
  { life with setup := life.setup.limited limit }

section Limited

variable (same : other.toInt.natAbs = life.setup.limit.toInt.natAbs)
include same

/-- A call on a cursor that was not dropped does the same: only the answer to `limit` differs. -/
theorem performAlive_limited (call : Call) :
    ((life.limited other).performAlive call).2 = (life.performAlive call).2.limited other ∧
      (call ≠ .limit →
        ((life.limited other).performAlive call).1 = (life.performAlive call).1) := by
  cases call with
  | limit => exact ⟨rfl, fun asks => absurd rfl asks⟩
  | hasNext =>
    simp only [performAlive, limited, hasNext_limited same]
    exact ⟨rfl, fun _ => rfl⟩
  | nextBatch =>
    simp only [performAlive, limited, nextBatch_limited same]
    exact ⟨rfl, fun _ => rfl⟩
  | tryNext =>
    simp only [performAlive, limited, tryNext_limited same]
    exact ⟨rfl, fun _ => rfl⟩
  | next =>
    simp only [performAlive, limited, next_limited same]
    exact ⟨rfl, fun _ => rfl⟩
  | collect most =>
    have collected := collect_limited same most life.run
    refine ⟨?_, fun _ => ?_⟩ <;> simp only [performAlive, limited, collected]
  | setBatchSize | batchSize | count | ns | serverCursor | serverAddress | isClosed | close
  | handleClose | handleIsClosed | drop => exact ⟨rfl, fun _ => rfl⟩

/-- **A call does the same**, and answers the same unless it asks for the limit: the life after it
is `limited`. -/
theorem perform_limited (call : Call) :
    ((life.limited other).perform call).2 = (life.perform call).2.limited other ∧
      (call ≠ .limit → ((life.limited other).perform call).1 = (life.perform call).1) := by
  -- A cursor that was dropped is asked nothing, whatever its limit.
  by_cases deaf : (life.dropped && call ≠ .handleClose && call ≠ .handleIsClosed) = true
  · rw [show life.perform call = (.ok .dropped, life) from if_pos deaf,
      show (life.limited other).perform call = (.ok .dropped, life.limited other) from if_pos deaf]
    exact ⟨rfl, fun _ => rfl⟩
  · rw [show life.perform call = life.performAlive call from if_neg deaf,
      show (life.limited other).perform call = (life.limited other).performAlive call from
        if_neg deaf]
    exact performAlive_limited same call

/-- **Calls do the same**, and answer the same if none asks for the limit, by induction on the
calls. -/
theorem performAll_limited (calls : List Call) :
    (performAll calls (life.limited other)).2 = (performAll calls life).2.limited other ∧
      (.limit ∉ calls →
        (performAll calls (life.limited other)).1 = (performAll calls life).1) := by
  induction calls generalizing life with
  | nil => exact ⟨rfl, fun _ => rfl⟩
  | cons call calls ih =>
    obtain ⟨done, answered⟩ := perform_limited same call
    have still : other.toInt.natAbs = (life.perform call).2.setup.limit.toInt.natAbs := by
      rw [setup_perform]
      exact same
    obtain ⟨rest, others⟩ := ih still
    simp only [performAll, done]
    refine ⟨rest, fun unasked => ?_⟩
    rw [List.mem_cons, not_or] at unasked
    rw [answered (Ne.symm unasked.1), others unasked.2]

end Limited

/-- **A cursor whose limit is of the same size** is made in the same way: `begin` gives the same
result, and the life `limited`. -/
theorem begin_limited (first : Reply α) (options : Options)
    (decode : Document → Except DecodeError α) (source : Option Source)
    (connection : Option Connection) (script : Script)
    (same : other.toInt.natAbs = options.limit.toInt.natAbs) :
    let begun := begin first options decode source connection script
    begin first { options with limit := other } decode source connection script =
      (begun.1, begun.2.limited other) := by
  have alike : other.toInt.natAbs = (Setup.of first options decode).limit.toInt.natAbs := same
  have created := create_limited alike options.batchSize first source connection script
  have setup_eq : Setup.of first { options with limit := other } decode =
      (Setup.of first options decode).limited other := rfl
  simp only [begin, setup_eq, created]
  rfl

/-! ## Asking again -/

/-- **Every call that looks for data asks again** where more would be asked for. -/
theorem getMore_grows_perform (alive : life.dropped = false) (asks : Asks life.setup life.run)
    (live : life.run.state.live.isSome) {call : Call}
    (hcall : call ∈ [Call.hasNext, .nextBatch, .tryNext, .next]) :
    (getMore life.setup life.run).run.events <+: (life.perform call).2.run.events := by
  simp only [List.mem_cons, List.not_mem_nil, or_false] at hcall
  rw [perform_of_alive alive]
  obtain rfl | rfl | rfl | rfl := hcall
  · exact hasNext_grows asks live
  · show _ <+: (nextBatch life.setup life.run).run.events
    rw [nextBatch_again asks live]
    exact getMore_grows asks live fun run sourced =>
      (nextBatch_follows life.setup sourced).path.grows sourced
  · show _ <+: (tryNext life.setup life.run).run.events
    exact (events_tryNext asks live).symm ▸ List.prefix_rfl
  · show _ <+: (Cursor.next life.setup life.run).run.events
    unfold Cursor.next
    rw [hasNext_again asks live, Outcome.andThen_assoc]
    exact getMore_grows asks live fun run sourced =>
      (next_follows life.setup sourced).path.grows sourced

/-- **Below the limit every call that looks for data asks for more**, if no batch is there. -/
theorem attempts_perform {first : List α} {turns : List (Turn Batch)} {given : List (Output α)}
    {cursor : ServerCursor} (delivery : Delivery life.setup first turns given life.run)
    (alive : life.dropped = false) (isOpen : life.run.state.closed = false)
    (empty : life.run.state.buffered = [])
    (below : (counted (received life.run.events)).toInt < life.setup.limit.toInt.natAbs)
    (names : life.run.state.live = some cursor) :
    ∃ source, life.run.state.source = some source ∧
      ∀ call ∈ [Call.hasNext, .nextBatch, .tryNext, .next], ∃ more,
        attempts (life.perform call).2.run.events =
          attempts life.run.events ++ attempt life.setup source cursor life.run :: more := by
  have unreached : limitReached life.setup life.run.state = false := by
    refine (limitReached_eq_false delivery.count).mpr fun _ => ?_
    rw [toInt_counted] at below
    omega
  have asks : Asks life.setup life.run := ⟨delivery.sourced, isOpen, empty, unreached⟩
  have live : life.run.state.live.isSome := by rw [names]; rfl
  obtain ⟨source, held⟩ := Option.isSome_iff_exists.mp (asks.sourced.trans live)
  refine ⟨source, held, fun call hcall => ?_⟩
  obtain ⟨more, grows⟩ := getMore_grows_perform alive asks live hcall
  -- The first round trip of the call is the attempt; what follows it is more.
  refine ⟨attempts more, ?_⟩
  rw [← grows, attempts_append, attempts_getMore life.setup held names, List.append_assoc]
  rfl

/-- **The sign of a limit is not looked at**, over the whole life of a cursor. With another limit of
the same size, such as the positive one, a cursor is made in the same way, and the same calls do the
same and answer the same, but for the limit if it is asked for. What ends a cursor is the number of
documents: none are asked for once as many as the size of the limit were received. As long as they
are fewer, every call that looks for data and finds no batch that is there asks the server for more,
whether or not it has sent a batch before. -/
theorem limit_unsigned (first : Reply α) (options : Options)
    (decode : Document → Except DecodeError α) (source : Option Source)
    (connection : Option Connection) (script : Script) (calls : List Call)
    (negative : options.limit < 0) :
    let begun := begin first options decode source connection script
    let done := performAll calls begun.2
    let run := done.2.run
    let size := options.limit.toInt.natAbs
    (∀ limit : Int32, limit.toInt.natAbs = size →
      let other := begin first { options with limit } decode source connection script
      other.1 = begun.1 ∧ (performAll calls other.2).2.run = run ∧
        (.limit ∉ calls → (performAll calls other.2).1 = done.1)) ∧
    (begun.1 = .ok () →
      Throughout (fun before event => event.asked?.isSome →
        (counted (received before)).toInt < size) run.events ∧
      (run.state.closed = false → run.state.buffered = [] →
        (counted (received run.events)).toInt < size →
        ∀ cursor, run.state.live = some cursor → ∃ source, run.state.source = some source ∧
          ∀ call ∈ [Call.hasNext, .nextBatch, .tryNext, .next], ∃ more,
            attempts (done.2.perform call).2.run.events =
              attempts run.events ++ attempt done.2.setup source cursor run :: more)) := by
  intro begun done run size
  have nonzero : options.limit ≠ 0 := by
    rintro zero
    rw [zero] at negative
    exact absurd negative (by decide)
  constructor
  · intro limit same other
    have made : other = (begun.1, begun.2.limited limit) :=
      begin_limited first options decode source connection script same
    -- Of the limit only the size is known, and that is all that the calls look at.
    have alike : limit.toInt.natAbs = begun.2.setup.limit.toInt.natAbs := same
    obtain ⟨lived, answers⟩ := performAll_limited alike calls
    rw [made]
    refine ⟨rfl, ?_, answers⟩
    rw [lived]
    rfl
  · intro hok
    have alive : run.state.closed = false → done.2.dropped = false := alive_of_open hok calls
    have fresh : Made begun.2.setup options.batchSize first source script begun.2.run :=
      made_of_ok hok
    have limit : begun.2.setup.limit = options.limit := rfl
    clear_value begun
    have same : done.2.setup = begun.2.setup := setup_performAll calls begun.2
    have path := performAll_path calls fresh.sourced
    have delivery := path.delivery fresh.delivery
    rw [← limit] at nonzero
    rw [← same] at delivery
    refine ⟨?_, fun isOpen empty below cursor names => ?_⟩
    · rw [show size = begun.2.setup.limit.toInt.natAbs by rw [limit]]
      exact path.asksBelow nonzero fresh.delivery (fresh.throughout asksBelow_of_none)
    · refine attempts_perform delivery (alive isOpen) isOpen empty ?_ names
      rw [same, limit]
      exact below

/-- With a limit of minus five the server is asked again after it has sent a batch. -/
theorem limit_unsigned_five :
    let begun := begin (Small.first [1] 7) { limit := -5 } Small.decode (some (Small.source 3)) none
      ⟨[], [Small.turn [2] 7], []⟩
    let done := performAll [.nextBatch] begun.2
    (-5 : Int32) < 0 ∧ begun.1 = .ok () ∧ handedOut (allGiven done.1) = [[1]] ∧
      attempts (done.2.perform .nextBatch).2.run.events ≠ attempts done.2.run.events := by
  refine ⟨by decide, rfl, by decide +kernel, ?_⟩
  obtain ⟨-, asks⟩ := limit_unsigned (Small.first [1] 7) { limit := -5 } Small.decode
    (some (Small.source 3)) none ⟨[], [Small.turn [2] 7], []⟩ [.nextBatch] (by decide)
  obtain ⟨-, again⟩ := asks rfl
  obtain ⟨source, held, asked⟩ := again rfl rfl (by decide +kernel) ⟨7, Small.ns, by decide⟩ rfl
  obtain ⟨more, attempted⟩ := asked .nextBatch (by decide)
  intro none
  have longer := congrArg List.length (none.symm.trans attempted)
  simp at longer

/-- With a limit of minus five two batches are handed out, and the second one was asked for after
the first one had been received. -/
theorem negative_limit_two_batches :
    let begun := begin (Small.first [1] 7) { limit := -5 } Small.decode (some (Small.source 3)) none
      ⟨[], [Small.turn [2] 7], []⟩
    let done := performAll [.nextBatch, .nextBatch] begun.2
    begun.1 = .ok () ∧ handedOut (allGiven done.1) = [[1], [2]] ∧
      ¬Throughout (fun before event => event.asked?.isSome → received before = 0)
        done.2.run.events := by
  refine ⟨rfl, by decide +kernel, fun once => ?_⟩
  have asked := once [.retain, .accept [1] (some ⟨7, Small.ns, by decide⟩), .acquire 1]
    (.send 1 (.getMore Small.ns 7 4)) _ rfl rfl
  exact absurd asked (by decide)

end Life

end Cursor

end DocumentCursor
