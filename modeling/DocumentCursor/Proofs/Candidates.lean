import DocumentCursor.Proofs.Lifecycle

/-! # Which candidate is connected to

Both sorts of streams try the candidates of their address in order, and settle on the first one that
can be reached, or that fails in a way on which they do not move on, or that is the last. They
differ in the failures on which they move on: a blocking stream moves on when a candidate times out,
an asynchronous one whatever happens. So where a blocking stream reaches a candidate, an
asynchronous one has not settled before, and reaches it as well.

* **`Settles`**: the candidate on which connecting settles, given the failures that make it move on.
* **`Decides`** and **`settles_iff`**: the same candidate, said by number.
* **`tryWhileTimedOut_of_settles`** and **`tryUntilReached_of_settles`**: both loops find it.
* **`settles_ok_iff`** and **`Settles.last_of_error`**: what is settled on if all failures make
  connecting move on.
* **`fallbacks_compared`**: how streams of both modes connect.
-/

namespace DocumentCursor.Stream

open Net

variable {κ : Type} {address : Address} {moves : TransportError → Bool} {index : Nat}
  {outcome : Except TransportError κ} {outcomes : List (Except TransportError κ)}

/-- **Connecting settles on a candidate**, given by number together with what the attempt at it
comes to, if it moves on after the failures for which `moves` says so. It does not move on from the
last candidate. -/
inductive Settles (moves : TransportError → Bool) :
    List (Except TransportError κ) → Nat → Except TransportError κ → Prop
  | reached (line : κ) (remaining : List (Except TransportError κ)) :
    Settles moves (.ok line :: remaining) 0 (.ok line)
  | failed (error : TransportError) (remaining : List (Except TransportError κ)) :
    moves error = false ∨ remaining = [] →
    Settles moves (.error error :: remaining) 0 (.error error)
  | later (error : TransportError) {remaining : List (Except TransportError κ)} {index : Nat}
    {outcome : Except TransportError κ} :
    moves error = true → Settles moves remaining index outcome →
    Settles moves (.error error :: remaining) (index + 1) outcome

/-- Connecting settles on a candidate of its address, if there is any: for every list but `[]` there
is an `index` with its `outcome`. -/
theorem exists_settles (moves : TransportError → Bool) (nonempty : outcomes ≠ []) :
    ∃ index outcome, Settles moves outcomes index outcome := by
  induction outcomes with
  | nil => exact absurd rfl nonempty
  | cons first remaining ih =>
    cases first with
    | ok line => exact ⟨0, _, .reached line remaining⟩
    | error error =>
      by_cases last : remaining = []
      · exact ⟨0, _, .failed error remaining (.inr last)⟩
      · cases again : moves error with
        | false => exact ⟨0, _, .failed error remaining (.inl again)⟩
        | true =>
          obtain ⟨index, outcome, settles⟩ := ih last
          exact ⟨index + 1, outcome, .later error again settles⟩

theorem Settles.mem (h : Settles moves outcomes index outcome) : outcome ∈ outcomes := by
  induction h with
  | reached | failed => exact List.mem_cons_self
  | later error again settles ih => exact List.mem_cons_of_mem _ ih

theorem Settles.ne_nil (h : Settles moves outcomes index outcome) : outcomes ≠ [] :=
  List.ne_nil_of_mem h.mem

/-! ## The candidate that decides -/

/-- A candidate fails in a way that makes connecting move on: its outcome is `.error error` with
`moves error`. -/
def Yields (moves : TransportError → Bool) (outcome : Except TransportError κ) : Prop :=
  ∃ error, outcome = .error error ∧ moves error = true

/-- **A candidate decides** how an address is connected to, given by number together with what the
attempt at it comes to: it is the first that does not make connecting move on, or the last one. This
says of a list what `Settles` says by recursion. -/
structure Decides (moves : TransportError → Bool) (outcomes : List (Except TransportError κ))
    (index : Nat) (outcome : Except TransportError κ) : Prop where
  here : outcomes[index]? = some outcome
  before : ∀ earlier < index, ∃ other, outcomes[earlier]? = some other ∧ Yields moves other
  last : Yields moves outcome → index + 1 = outcomes.length

namespace Decides

/-- The first candidate decides if it does not make connecting move on, or is the last one:
`Decides` at `0`. -/
theorem zero {remaining : List (Except TransportError κ)}
    (stops : ¬ Yields moves outcome ∨ remaining = []) :
    Decides moves (outcome :: remaining) 0 outcome where
  here := rfl
  before earlier below := absurd below (Nat.not_lt_zero earlier)
  last yields := by
    rw [stops.resolve_left (not_not_intro yields)]
    rfl

/-- A candidate that makes connecting move on leaves it to the others to decide: `Decides` at
`index + 1` is `Decides` at `index` without it. -/
theorem succ_iff {first : Except TransportError κ} (yields : Yields moves first) :
    Decides moves (first :: outcomes) (index + 1) outcome ↔
      Decides moves outcomes index outcome := by
  constructor
  · rintro ⟨here, before, last⟩
    refine ⟨here, fun earlier below => ?_, fun yields => ?_⟩
    · exact before (earlier + 1) (Nat.succ_lt_succ below)
    · exact Nat.succ.inj (last yields)
  · rintro ⟨here, before, last⟩
    refine ⟨here, fun earlier below => ?_, fun yields => congrArg (· + 1) (last yields)⟩
    cases earlier with
    | zero => exact ⟨first, rfl, yields⟩
    | succ earlier => exact before earlier (Nat.lt_of_succ_lt_succ below)

end Decides

/-- **Connecting settles on the candidate that decides**: `Settles ↔ Decides`, by induction on the
outcomes. -/
theorem settles_iff :
    Settles moves outcomes index outcome ↔ Decides moves outcomes index outcome := by
  constructor
  · intro settles
    induction settles with
    | reached line remaining =>
      refine .zero (.inl ?_)
      rintro ⟨error, failed, -⟩
      cases failed
    | failed error remaining stops =>
      refine .zero (stops.imp_left fun stays => ?_)
      rintro ⟨other, failed, moves⟩
      cases failed
      cases stays.symm.trans moves
    | later error again settles ih =>
      exact (Decides.succ_iff ⟨error, rfl, again⟩).mpr ih
  · -- The candidate is found by its number, so this goes down the list and not the other relation.
    intro decides
    induction outcomes generalizing index with
    | nil => cases decides.here
    | cons first remaining ih =>
      cases index with
      | zero =>
        cases Option.some.inj decides.here
        cases outcome with
        | ok line => exact .reached line remaining
        | error error =>
          refine .failed error remaining ?_
          cases again : moves error with
          | false => exact .inl rfl
          | true =>
            exact .inr (List.length_eq_zero_iff.mp
              (Nat.succ.inj (decides.last ⟨error, rfl, again⟩)).symm)
      | succ index =>
        obtain ⟨other, failed, error, rfl, again⟩ := decides.before 0 (Nat.succ_pos index)
        cases Option.some.inj failed
        exact .later error again (ih ((Decides.succ_iff ⟨error, rfl, again⟩).mp decides))

/-! ## Both loops -/

/-- **A blocking stream settles** if it moves on after those candidates that time out: the attempts
are `List.range' number (index + 1)`, and the error is reported with the address. -/
theorem tryWhileTimedOut_of_settles (number : Nat) (h : Settles timesOut outcomes index outcome) :
    tryWhileTimedOut address number outcomes =
      ⟨List.range' number (index + 1), outcome.mapError (report address)⟩ := by
  induction h generalizing number with
  | reached line remaining => rfl
  | failed error remaining stops =>
    rw [tryWhileTimedOut, if_neg]
    · rfl
    · rintro ⟨again, more⟩
      exact stops.elim (fun h => by simp [again] at h) more
  | later error again settles ih =>
    rw [tryWhileTimedOut, if_pos ⟨again, settles.ne_nil⟩, ih]
    rfl

/-- **An asynchronous stream settles** if it moves on after all candidates that fail, with the same
attempts and report. -/
theorem tryUntilReached_of_settles {next : Except TransportError κ}
    {remaining : List (Except TransportError κ)} (number : Nat)
    (h : Settles (fun _ => true) (next :: remaining) index outcome) :
    tryUntilReached address number next remaining =
      ⟨List.range' number (index + 1), outcome.mapError (report address)⟩ := by
  -- The loop has a candidate in hand besides those that remain, so this is an induction on the loop
  -- and not on how connecting settles.
  fun_induction tryUntilReached address number next remaining generalizing index with
  | case1 number line remaining =>
    cases h
    rfl
  | case2 number error =>
    cases h with
    | failed => rfl
    | later error again settles => exact absurd rfl settles.ne_nil
  | case3 number error next remaining ih =>
    cases h with
    | failed error remaining stops => simp at stops
    | later error again settles =>
      rw [ih settles]
      rfl

/-! ## Moving on whatever happens -/

/-- The first candidate that can be reached: it is `.ok line`, and all those before it are
errors. -/
def Reached (outcomes : List (Except TransportError κ)) (index : Nat) (line : κ) : Prop :=
  outcomes[index]? = some (.ok line) ∧
    ∀ earlier < index, ∃ error, outcomes[earlier]? = some (.error error)

/-- Connecting settles where it would as well if it moved on after all failures, unless it settles
on a failure after which it does not move on. So what a blocking stream is connected to an
asynchronous one is connected to as well. -/
theorem Settles.always (h : Settles moves outcomes index outcome)
    (onward : ∀ error, outcome = .error error → moves error = true) :
    Settles (fun _ => true) outcomes index outcome := by
  induction h with
  | reached line remaining => exact .reached line remaining
  | failed error remaining stops =>
    -- A failure that would make it move on is settled on at the last candidate only.
    refine .failed error remaining (.inr (stops.resolve_left ?_))
    simp [onward error rfl]
  | later error again settles ih => exact .later error rfl (ih onward)

/-- **A candidate that is reached is the first** that can be: `Settles` on `.ok line ↔ Reached`, if
connecting moves on after all failures. -/
theorem settles_ok_iff {line : κ} :
    Settles (fun _ => true) outcomes index (.ok line) ↔ Reached outcomes index line := by
  rw [settles_iff]
  constructor
  · intro decides
    refine ⟨decides.here, fun earlier below => ?_⟩
    obtain ⟨other, failed, error, rfl, -⟩ := decides.before earlier below
    exact ⟨error, failed⟩
  · rintro ⟨here, before⟩
    refine ⟨here, fun earlier below => ?_, ?_⟩
    · obtain ⟨error, failed⟩ := before earlier below
      exact ⟨_, failed, error, rfl, rfl⟩
    · rintro ⟨error, ⟨⟩, -⟩

/-- **A failure is settled on only at the last candidate**, after all others failed as well: it is
`getLast?`, and no outcome is `.ok`. -/
theorem Settles.last_of_error {error : TransportError}
    (h : Settles (fun _ => true) outcomes index (.error error)) :
    index + 1 = outcomes.length ∧ outcomes.getLast? = some (.error error) ∧
      ∀ line, .ok line ∉ outcomes := by
  have decides := settles_iff.mp h
  have length : index + 1 = outcomes.length := decides.last ⟨error, rfl, rfl⟩
  refine ⟨length, ?_, fun line mem => ?_⟩
  · rw [List.getLast?_eq_getElem?, ← length]
    exact decides.here
  · obtain ⟨number, within, reached⟩ := List.getElem_of_mem mem
    have reached := List.getElem?_eq_some_iff.mpr ⟨within, reached⟩
    -- It stands in front of the last candidate, or is the last one, and either of them failed.
    rcases Nat.lt_or_eq_of_le (Nat.le_of_lt_succ (length ▸ within)) with below | rfl
    · obtain ⟨other, failed, _, rfl, -⟩ := decides.before number below
      cases reached.symm.trans failed
    · cases reached.symm.trans decides.here

/-! ## Streams of both modes -/

/-- Why an address cannot be connected to if none of its candidates can: for the reason of the last,
if there is one, and without a source otherwise. -/
def failure (address : Address) (outcomes : List (Except TransportError κ)) : TransportError :=
  match outcomes.getLast? with
  | some (.error error) => report address error
  | _ => .cannotOpen address none

/-- An asynchronous stream connects to the first candidate that can be reached: `Reached` at `index`
gives the attempts up to it, and `.ok line`. -/
theorem connectUntilReached_of_reached {line : κ} (h : Reached outcomes index line) :
    connectUntilReached address (.ok outcomes) = ⟨List.range (index + 1), .ok line⟩ := by
  cases outcomes with
  | nil => simp [Reached] at h
  | cons next remaining =>
    rw [connectUntilReached, tryUntilReached_of_settles 0 (settles_ok_iff.mpr h),
      List.range_eq_range']
    rfl

/-- An asynchronous stream tries all candidates if none can be reached, and reports the last
failure: the attempts are `List.range outcomes.length`. -/
theorem connectUntilReached_of_unreached (unreached : ∀ line, .ok line ∉ outcomes) :
    connectUntilReached address (.ok outcomes) =
      ⟨List.range outcomes.length, .error (failure address outcomes)⟩ := by
  cases outcomes with
  | nil => rfl
  | cons next remaining =>
    obtain ⟨index, outcome, settles⟩ :=
      exists_settles (fun _ => true) (List.cons_ne_nil next remaining)
    cases outcome with
    | ok line =>
      exact absurd (List.mem_of_getElem? (settles_ok_iff.mp settles).1) (unreached line)
    | error error =>
      obtain ⟨length, last, -⟩ := settles.last_of_error
      rw [connectUntilReached, tryUntilReached_of_settles 0 settles, length, failure, last,
        List.range_eq_range']
      rfl

/-- A blocking stream connects only to the first candidate that can be reached: an `.ok line` is
`Reached`, at the last of its attempts. -/
theorem reached_of_connectWhileTimedOut {line : κ}
    (h : (connectWhileTimedOut address (.ok outcomes)).result = .ok line) :
    ∃ index, Reached outcomes index line ∧
      (connectWhileTimedOut address (.ok outcomes)).attempts = List.range (index + 1) := by
  by_cases empty : outcomes = []
  · subst empty
    cases h
  · obtain ⟨index, outcome, settles⟩ := exists_settles timesOut empty
    rw [connectWhileTimedOut, tryWhileTimedOut_of_settles 0 settles] at h ⊢
    cases outcome with
    | error error => cases h
    | ok connected =>
      cases h
      have reached := settles_ok_iff.mp (settles.always fun _ same => by cases same)
      exact ⟨index, reached, (List.range_eq_range' ..).symm⟩

/-- If all candidates time out, a blocking stream tries all of them and reports the last failure, as
an asynchronous one does. -/
theorem connectWhileTimedOut_of_timesOut (nonempty : outcomes ≠ [])
    (timeouts : ∀ outcome ∈ outcomes, ∃ error, outcome = .error error ∧ timesOut error = true) :
    connectWhileTimedOut address (.ok outcomes) =
      ⟨List.range outcomes.length, .error (failure address outcomes)⟩ := by
  obtain ⟨index, outcome, settles⟩ := exists_settles timesOut nonempty
  obtain ⟨error, rfl, again⟩ := timeouts outcome settles.mem
  obtain ⟨length, last, -⟩ :=
    (settles.always fun other same => Except.error.inj same ▸ again).last_of_error
  rw [connectWhileTimedOut, tryWhileTimedOut_of_settles 0 settles, length, failure, last,
    List.range_eq_range']
  rfl

/-- The failures of an attempt at one candidate: of the system, or of the secure layer over it.
`.cannotOpen` is not one of them, as it is what they are reported by. -/
def OfAttempt : TransportError → Prop
  | .system _ | .tlsConfig _ | .tlsHandshake _ => True
  | _ => False

/-- The failure of an attempt has a source, or is not about connecting: `report` never gives
`.cannotOpen other none` for one. -/
theorem OfAttempt.report_ne {error : TransportError} (attempt : OfAttempt error)
    (address other : Address) : report address error ≠ .cannotOpen other none := by
  intro sourceless
  cases error with
  | system | tlsConfig | tlsHandshake => cases sourceless
  | _ => exact attempt

/-- There are no candidates exactly if a failure has no source, as the attempts name theirs:
`failure` is `.cannotOpen other none ↔ outcomes = []`. -/
theorem failure_sourceless_iff
    (attempts : ∀ error, .error error ∈ outcomes → OfAttempt error)
    (unreached : ∀ line, .ok line ∉ outcomes) :
    (∃ other, failure address outcomes = .cannotOpen other none) ↔ outcomes = [] := by
  constructor
  · rintro ⟨other, sourceless⟩
    refine Classical.byContradiction fun nonempty => ?_
    have mem := List.getLast_mem nonempty
    rw [failure, List.getLast?_eq_some_getLast nonempty] at sourceless
    cases last : outcomes.getLast nonempty with
    | ok line => exact unreached line (last ▸ mem)
    | error error =>
      rw [last] at sourceless
      exact (attempts error (last ▸ mem)).report_ne address other sourceless
  · rintro rfl
    exact ⟨address, rfl⟩

/-- If all candidates time out, the failure is that of the last: `.cannotOpen address (some last)`,
with a `last` of kind `.timedOut`. -/
theorem failure_of_timesOut (address : Address) (nonempty : outcomes ≠ [])
    (timeouts : ∀ outcome ∈ outcomes, ∃ error, outcome = .error error ∧ timesOut error = true) :
    ∃ last, outcomes.getLast? = some (.error (.system last)) ∧ last.kind = .timedOut ∧
      failure address outcomes = .cannotOpen address (some last) := by
  obtain ⟨error, last, timeout⟩ := timeouts _ (List.getLast_mem nonempty)
  have last := (List.getLast?_eq_some_getLast nonempty).trans (congrArg some last)
  cases error with
  | system source =>
    exact ⟨source, last, by simpa [timesOut] using timeout, by rw [failure, last]; rfl⟩
  | _ => cases timeout

variable {outcomes : List (Except TransportError Line)} {line : Line}

/-- An asynchronous stream is connected to the first candidate that can be reached: `start`
succeeds, and the stream `Holds line`. -/
theorem start_of_reached (setup : Setup) (h : Reached outcomes index line) :
    let starting := (Endpoint.fresh .asynchronous).start setup (.ok outcomes)
    starting.attempts = List.range (index + 1) ∧ starting.result = .ok () ∧
      starting.stream.Holds line := by
  obtain ⟨attempts, result, taken⟩ :=
    Endpoint.start_fresh setup (.ok outcomes) .asynchronous
  rw [Mode.connect, connectUntilReached_of_reached h] at attempts result taken
  exact ⟨attempts, result, taken.2⟩

/-- An asynchronous stream is not connected if no candidate can be reached: `start` fails by
`failure`, after an attempt at each. -/
theorem start_of_unreached (setup : Setup) (unreached : ∀ line, .ok line ∉ outcomes) :
    let starting := (Endpoint.fresh .asynchronous).start setup (.ok outcomes)
    starting.attempts = List.range outcomes.length ∧
      starting.result = .error (failure setup.address outcomes) := by
  obtain ⟨attempts, result, -⟩ :=
    Endpoint.start_fresh setup (.ok outcomes) .asynchronous
  rw [Mode.connect, connectUntilReached_of_unreached unreached] at attempts result
  exact ⟨attempts, result⟩

/-- The first of the candidates that can be reached, if any can: there is an `index` at which one is
`Reached`. -/
theorem exists_reached (h : ∃ line, .ok line ∈ outcomes) :
    ∃ index line, Reached outcomes index line := by
  obtain ⟨line, mem⟩ := h
  obtain ⟨index, outcome, settles⟩ := exists_settles (fun _ => true) (List.ne_nil_of_mem mem)
  cases outcome with
  | ok line => exact ⟨index, line, settles_ok_iff.mp settles⟩
  | error error => exact absurd mem (settles.last_of_error.2.2 line)

/-- An asynchronous stream that fails without a source has no candidates, and one without candidates
fails so. -/
theorem start_sourceless_iff (setup : Setup)
    (attempts : ∀ error, .error error ∈ outcomes → OfAttempt error) :
    (∃ other, ((Endpoint.fresh .asynchronous).start setup (.ok outcomes)).result =
      .error (.cannotOpen other none)) ↔ outcomes = [] := by
  by_cases reachable : ∃ line, .ok line ∈ outcomes
  · obtain ⟨index, line, reached⟩ := exists_reached reachable
    obtain ⟨first, mem⟩ := reachable
    rw [(start_of_reached setup reached).2.1]
    refine iff_of_false ?_ (List.ne_nil_of_mem mem)
    rintro ⟨other, failed⟩
    cases failed
  · rw [(start_of_unreached setup (not_exists.mp reachable)).2]
    simpa using failure_sourceless_iff attempts (not_exists.mp reachable)

/-- Where a blocking stream is connected, it is to the first candidate that can be reached: that one
is `Reached`, is the last attempt, and the stream `Holds` its line. -/
theorem reached_of_start (setup : Setup)
    (connected : ((Endpoint.fresh .blocking).start setup (.ok outcomes)).result = .ok ()) :
    ∃ index line, Reached outcomes index line ∧
      ((Endpoint.fresh .blocking).start setup (.ok outcomes)).attempts =
        List.range (index + 1) ∧
      ((Endpoint.fresh .blocking).start setup (.ok outcomes)).stream.Holds line := by
  obtain ⟨attempts, result, taken⟩ :=
    Endpoint.start_fresh setup (.ok outcomes) .blocking
  rw [result] at connected
  cases outcome : (Mode.blocking.connect setup.address (.ok outcomes)).result with
  | error error =>
    rw [outcome] at connected
    cases connected
  | ok line =>
    rw [outcome] at taken
    obtain ⟨index, reached, tried⟩ := reached_of_connectWhileTimedOut outcome
    exact ⟨index, line, reached, attempts.trans tried, taken.2⟩

/-- A blocking stream tries all candidates if they all time out, and `start` fails by `failure`. -/
theorem start_of_timesOut (setup : Setup) (nonempty : outcomes ≠ [])
    (timeouts : ∀ outcome ∈ outcomes, ∃ error, outcome = .error error ∧ timesOut error = true) :
    let starting := (Endpoint.fresh .blocking).start setup (.ok outcomes)
    starting.attempts = List.range outcomes.length ∧
      starting.result = .error (failure setup.address outcomes) := by
  obtain ⟨attempts, result, -⟩ :=
    Endpoint.start_fresh setup (.ok outcomes) .blocking
  rw [Mode.connect, connectWhileTimedOut_of_timesOut nonempty timeouts] at attempts result
  exact ⟨attempts, result⟩

/-- **Streams of both modes connect alike, but move on after other failures.** Whatever the attempts
at the candidates of an address come to:

* an asynchronous stream tries the candidates in order up to the first that can be reached, and is
  connected to that one; if none can, it tries each of them once and fails as the last of them, or
  without a source if there are none, and in no other case;
* where a blocking stream is connected, an asynchronous one is connected to the same candidate after
  the same attempts;
* if there are candidates and all of them time out, streams of both modes try all of them and fail
  as the last. -/
theorem fallbacks_compared (setup : Setup) (outcomes : List (Except TransportError Line)) :
    let blocking := (Endpoint.fresh .blocking).start setup (.ok outcomes)
    let asynchronous := (Endpoint.fresh .asynchronous).start setup (.ok outcomes)
    (∀ index line, Reached outcomes index line →
      asynchronous.attempts = List.range (index + 1) ∧ asynchronous.result = .ok () ∧
        asynchronous.stream.Holds line) ∧
      ((∀ line, .ok line ∉ outcomes) →
        asynchronous.attempts = List.range outcomes.length ∧
          asynchronous.result = .error (failure setup.address outcomes)) ∧
      (asynchronous.result = .ok () ↔ ∃ line, .ok line ∈ outcomes) ∧
      ((∀ error, .error error ∈ outcomes → OfAttempt error) →
        ((∃ other, asynchronous.result = .error (.cannotOpen other none)) ↔ outcomes = [])) ∧
      (blocking.result = .ok () →
        asynchronous.result = .ok () ∧ asynchronous.attempts = blocking.attempts ∧
          ∃ index line, Reached outcomes index line ∧ blocking.attempts = List.range (index + 1) ∧
            blocking.stream.Holds line ∧ asynchronous.stream.Holds line) ∧
      (outcomes ≠ [] →
        (∀ outcome ∈ outcomes, ∃ error, outcome = .error error ∧ timesOut error = true) →
        ∃ last, outcomes.getLast? = some (.error (.system last)) ∧ last.kind = .timedOut ∧
          blocking.attempts = List.range outcomes.length ∧
          blocking.result = .error (.cannotOpen setup.address (some last)) ∧
          asynchronous.attempts = List.range outcomes.length ∧
          asynchronous.result = .error (.cannotOpen setup.address (some last))) := by
  intro blocking asynchronous
  have success : asynchronous.result = .ok () ↔ ∃ line, .ok line ∈ outcomes := by
    constructor
    · intro connected
      refine Classical.byContradiction fun unreached => ?_
      have failed := (start_of_unreached setup (not_exists.mp unreached)).2
      cases connected.symm.trans failed
    · intro reachable
      obtain ⟨index, line, reached⟩ := exists_reached reachable
      exact (start_of_reached setup reached).2.1
  refine ⟨fun _ _ => start_of_reached setup, start_of_unreached setup, success,
    start_sourceless_iff setup, ?alike, ?timeouts⟩
  case alike =>
    intro connected
    obtain ⟨index, line, reached, attempts, held⟩ := reached_of_start setup connected
    obtain ⟨tried, result, taken⟩ := start_of_reached setup reached
    exact ⟨result, tried.trans attempts.symm, index, line, reached, attempts, held, taken⟩
  case timeouts =>
    intro nonempty timeouts
    have unreached : ∀ line, .ok line ∉ outcomes := fun line mem => by
      obtain ⟨error, failed, -⟩ := timeouts _ mem
      cases failed
    obtain ⟨last, isLast, timedOut, reported⟩ :=
      failure_of_timesOut setup.address nonempty timeouts
    obtain ⟨tried, failed⟩ := start_of_timesOut setup nonempty timeouts
    obtain ⟨tried', failed'⟩ := start_of_unreached setup unreached
    rw [reported] at failed failed'
    exact ⟨last, isLast, timedOut, tried, failed, tried', failed'⟩

end DocumentCursor.Stream
