import DocumentCursor.Proofs.Candidates

/-! # Opening a blocking stream

A blocking stream tries the candidates of its address in order and moves on only from one that runs
out of time, and only if another remains. So one candidate decides how it opens: the first that does
not run out of time, or the last one. The same failure is dealt with in two ways then, depending on
whether it is the last.

* **`connectWhileTimedOut_of_decides`**: what a blocking stream tries, and what that comes to.
* **`OpensAs`** and **`OpensAs.decided`**: what opening comes to, given the candidate that decides.
* **`opened_as_decided`**: a fresh stream opens so, whatever was asked of it before.
-/

namespace DocumentCursor.Stream

open Net

variable {κ : Type} {address : Address} {index : Nat} {outcome : Except TransportError κ}
  {outcomes : List (Except TransportError κ)}

/-! ## Connecting -/

/-- **A blocking stream tries the candidates up to the one that decides**, each of them once: the
attempts are `List.range (index + 1)`. -/
theorem connectWhileTimedOut_of_decides (decides : Decides timesOut outcomes index outcome) :
    connectWhileTimedOut address (.ok outcomes) =
      ⟨List.range (index + 1), outcome.mapError (report address)⟩ := by
  rw [connectWhileTimedOut, tryWhileTimedOut_of_settles 0 (settles_iff.mpr decides),
    List.range_eq_range']

/-- A failure that is not the system's is a failure of the address as it is: `report` changes
`.system` only. -/
theorem report_eq_self {error : TransportError} (other : ∀ source, error ≠ .system source) :
    report address error = error := by
  cases error with
  | system source => exact absurd rfl (other source)
  | _ => rfl

/-- A blocking stream fails without a source if there are no candidates, and in no other case:
`.cannotOpen other none ↔ outcomes = []`. -/
theorem connectWhileTimedOut_sourceless_iff
    (attempts : ∀ error, .error error ∈ outcomes → OfAttempt error) :
    (∃ other, (connectWhileTimedOut address (.ok outcomes)).result =
      .error (.cannotOpen other none)) ↔ outcomes = [] := by
  constructor
  · rintro ⟨other, sourceless⟩
    refine Classical.byContradiction fun nonempty => ?_
    obtain ⟨index, outcome, settles⟩ := exists_settles timesOut nonempty
    rw [connectWhileTimedOut_of_decides (settles_iff.mp settles)] at sourceless
    cases outcome with
    | ok line => cases sourceless
    | error error =>
      exact (attempts error settles.mem).report_ne address other (Except.error.inj sourceless)
  · rintro rfl
    exact ⟨address, rfl⟩

/-! ## The stream -/

variable {setup : Setup} {candidates : Candidates}

/-- **A stream opens as connecting ends**: it is open and holds the line that was connected, or it
is closed and holds none. -/
structure OpensAs (connecting : Connecting Line) (opening : Report × Client) : Prop where
  told : opening.1 = ⟨connecting.result.map fun _ => .done, connecting.attempts⟩
  opened : ∀ line, connecting.result = .ok line →
    opening.2.phase = .opened ∧ opening.2.endpoint.Holds line
  closed : ∀ error, connecting.result = .error error →
    opening.2.phase = .closed ∧ opening.2.endpoint.Empty

/-- What opening a stream comes to, given the candidate that decides: the attempts, the result and
the line are all its own. -/
structure Decided (address : Address) (index : Nat) (outcome : Except TransportError Line)
    (opening : Report × Client) : Prop where
  /-- The candidates up to it are tried in order, each of them once. -/
  attempts : opening.1.attempts = List.range (index + 1)
  succeeds_iff : opening.1.result = .ok .done ↔ ∃ line, outcome = .ok line
  holds : ∀ line, outcome = .ok line → opening.2.endpoint.Holds line
  /-- A failure of the system is the source of the failure. -/
  system : ∀ source, outcome = .error (.system source) →
    opening.1.result = .error (.cannotOpen address (some source))
  /-- Any other failure is not changed. -/
  other : ∀ error, outcome = .error error → (∀ source, error ≠ .system source) →
    opening.1.result = .error error

namespace OpensAs

variable {connecting : Connecting Line} {opening : Report × Client}
  {outcomes : List (Except TransportError Line)} {outcome : Except TransportError Line}

/-- A stream that is opened is open with a line, or closed without one, by the result of
connecting. -/
theorem settled (h : OpensAs connecting opening) :
    opening.1.result = .ok .done ∧ opening.2.phase = .opened ∧
        (∃ line, opening.2.endpoint.Holds line) ∨
      (∃ error, opening.1.result = .error error) ∧ opening.2.phase = .closed ∧
        opening.2.endpoint.Empty := by
  rw [h.told]
  cases reached : connecting.result with
  | ok line =>
    obtain ⟨opened, holds⟩ := h.opened line reached
    exact .inl ⟨rfl, opened, line, holds⟩
  | error error => exact .inr ⟨⟨error, rfl⟩, h.closed error reached⟩

/-- **One candidate decides** how a stream opens: there is an `index` that `Decides`, and the
opening is `Decided` by it. -/
theorem decided (h : OpensAs (connectWhileTimedOut address (.ok outcomes)) opening)
    (decides : Decides timesOut outcomes index outcome) :
    Decided address index outcome opening := by
  obtain ⟨told, opened, -⟩ := h
  rw [connectWhileTimedOut_of_decides decides] at told opened
  -- Which of the facts are about this outcome depends on whether the attempt succeeded.
  cases outcome with
  | ok line =>
    refine ⟨by rw [told], ⟨fun _ => ⟨line, rfl⟩, fun _ => by rw [told]; rfl⟩, ?_, ?_, ?_⟩
    · rintro other ⟨⟩
      exact (opened line rfl).2
    · rintro source ⟨⟩
    · rintro error ⟨⟩
  | error error =>
    have failed : opening.1.result = .error (report address error) := by rw [told]; rfl
    refine ⟨by rw [told], ⟨fun succeeded => ?_, ?_⟩, ?_, ?_, ?_⟩
    · cases succeeded.symm.trans failed
    · rintro ⟨line, ⟨⟩⟩
    · rintro line ⟨⟩
    · rintro source ⟨⟩
      exact failed
    · rintro same ⟨⟩ other
      rw [failed, report_eq_self other]

/-- If all candidates run out of time, all are tried, and the failure is a timeout: `.cannotOpen`
with the last of them. -/
theorem timedOut (h : OpensAs (connectWhileTimedOut address (.ok outcomes)) opening)
    (nonempty : outcomes ≠ []) (timeouts : ∀ outcome ∈ outcomes, Yields timesOut outcome) :
    ∃ last error, outcomes.getLast? = some (.error (.system last)) ∧
      opening.1 = ⟨.error error, List.range outcomes.length⟩ ∧
      error = .cannotOpen address (some last) ∧ error.isTimeout = true := by
  obtain ⟨last, isLast, timedOut, reported⟩ := failure_of_timesOut address nonempty timeouts
  refine ⟨last, _, isLast, ?_, rfl, ?_⟩
  · rw [h.told, connectWhileTimedOut_of_timesOut nonempty timeouts, reported]
    rfl
  · simp [TransportError.isTimeout, TransportError.source?, timedOut]

/-- A failure has no source if there are no candidates, and in no other case, by
`connectWhileTimedOut_sourceless_iff`. -/
theorem sourceless_iff (h : OpensAs (connectWhileTimedOut address (.ok outcomes)) opening)
    (attempts : ∀ error, .error error ∈ outcomes → OfAttempt error) :
    (∃ other, opening.1.result = .error (.cannotOpen other none)) ↔ outcomes = [] := by
  rw [h.told, ← connectWhileTimedOut_sourceless_iff attempts]
  cases (connectWhileTimedOut address (.ok outcomes)).result with
  | ok line => exact exists_congr fun other => ⟨nofun, nofun⟩
  | error error =>
    refine exists_congr fun other => ?_
    constructor
    · exact fun same => congrArg _ (Except.error.inj same)
    · exact fun same => congrArg _ (Except.error.inj same)

end OpensAs

/-- A fresh blocking stream opens as connecting ends: `perform` of `.start` is `OpensAs` for
`connectWhileTimedOut`. -/
theorem Client.opensAs_perform {client : Client} (shape : client.endpoint.Shape client.phase)
    (blocking : client.endpoint.mode = .blocking) (isFresh : client.phase = .fresh)
    (inside : Bool) :
    OpensAs (connectWhileTimedOut setup.address candidates)
      (client.perform setup candidates (.start .blocking inside)) := by
  have accepted : client.refuses (.start .blocking inside) = none := by
    simp [refuses, Use.call?, refusal?, blocking, Mode.refusal?, isFresh, Phase.refusal?]
  obtain ⟨told, opened, closed⟩ := start_holds shape accepted
  rw [connecting, blocking, Mode.connect] at told opened closed
  refine ⟨told, fun line reached => ?_, fun error failed => ?_⟩
  · obtain ⟨after, holds⟩ := opened line reached
    exact ⟨after.phase_eq, holds⟩
  · have after := closed error failed
    exact ⟨after.phase_eq, by simpa using after.holds⟩

/-- **A blocking stream opens as the candidate that decides.** Whatever a client did with a blocking
stream that is still fresh, and whatever the attempts at the candidates of its address come to:

* if it is not known which candidates there are, none is tried, and the failure has that source; if
  there are none, the failure has no source, and in no other case;
* otherwise one candidate decides: the first that does not run out of time, or the last one. Those
  up to it are tried in order, each of them once. The stream is connected to it if the attempt at
  it succeeds; a system failure of it is the source of the failure, and any other is the failure;
* if all candidates run out of time, all are tried, and the failure is a timeout;
* the stream is open and holds a line if it was connected, and is closed and holds none
  otherwise. -/
theorem opened_as_decided (setup : Setup) (candidates : Candidates) (uses : List Use)
    (inside : Bool)
    (isFresh : (Client.performAll setup candidates uses (.fresh .blocking)).2.phase = .fresh) :
    ∃ opening, opening = Client.perform setup candidates (.start .blocking inside)
        (Client.performAll setup candidates uses (.fresh .blocking)).2 ∧
      (∀ source, candidates = .error source →
        opening.1 = ⟨.error (.cannotOpen setup.address (some source)), []⟩) ∧
      (∀ outcomes, candidates = .ok outcomes →
        (outcomes = [] → opening.1 = ⟨.error (.cannotOpen setup.address none), []⟩) ∧
        ((∀ error, .error error ∈ outcomes → OfAttempt error) →
          ((∃ other, opening.1.result = .error (.cannotOpen other none)) ↔ outcomes = [])) ∧
        (outcomes ≠ [] → ∃ index outcome, Decides timesOut outcomes index outcome) ∧
        (∀ index outcome, Decides timesOut outcomes index outcome →
          Decided setup.address index outcome opening) ∧
        (outcomes ≠ [] → (∀ outcome ∈ outcomes, Yields timesOut outcome) →
          ∃ last error, outcomes.getLast? = some (.error (.system last)) ∧
            opening.1 = ⟨.error error, List.range outcomes.length⟩ ∧
            error = .cannotOpen setup.address (some last) ∧ error.isTimeout = true)) ∧
      (opening.1.result = .ok .done ∧ opening.2.phase = .opened ∧
          (∃ line, opening.2.endpoint.Holds line) ∨
        (∃ error, opening.1.result = .error error) ∧ opening.2.phase = .closed ∧
          opening.2.endpoint.Empty) := by
  have shape := Client.shape_performAll setup candidates uses (Client.shape_fresh .blocking)
  have blocking : (Client.performAll setup candidates uses (.fresh .blocking)).2.endpoint.mode =
      .blocking := Client.mode_performAll uses (.fresh .blocking)
  have opens : OpensAs (connectWhileTimedOut setup.address candidates) _ :=
    Client.opensAs_perform shape blocking isFresh inside
  refine ⟨_, rfl, ?unresolved, ?resolved, opens.settled⟩
  case unresolved =>
    rintro source rfl
    exact opens.told
  case resolved =>
    rintro outcomes rfl
    refine ⟨?_, opens.sourceless_iff, fun nonempty => ?_, fun _ _ => opens.decided,
      opens.timedOut⟩
    · rintro rfl
      exact opens.told
    · obtain ⟨index, outcome, settles⟩ := exists_settles timesOut nonempty
      exact ⟨index, outcome, settles_iff.mp settles⟩

/-- The first of three candidates runs out of time and the second fails for another reason, so the
third is not tried, although it would succeed; and a stream of which both candidates run out of time
is closed after a timeout. -/
theorem opened_as_decided_second :
    let setup : Setup := ⟨.blocking, .localhost, {}⟩
    let slow : SystemError := ⟨.timedOut, "connection timed out"⟩
    let bad : TransportError := .tlsHandshake "bad certificate"
    let mixed : Candidates := .ok [.error (.system slow), .error bad, .ok {}]
    let late : Candidates := .ok [.error (.system slow), .error (.system slow)]
    let asked : List Use := [.read .blocking false none 4, .isClosed]
    (∃ opening, opening = Client.perform setup mixed (.start .blocking false)
        (Client.performAll setup mixed asked (.fresh .blocking)).2 ∧
      opening.1 = ⟨.error bad, [0, 1]⟩ ∧ opening.2.phase = .closed) ∧
    ∃ opening error, opening = Client.perform setup late (.start .blocking false)
        (Client.performAll setup late asked (.fresh .blocking)).2 ∧
      opening.1 = ⟨.error error, [0, 1]⟩ ∧ error.isTimeout = true := by
  intro setup slow bad mixed late asked
  constructor
  · obtain ⟨opening, same, -, resolved, settled⟩ :=
      opened_as_decided setup mixed asked false rfl
    obtain ⟨-, -, -, decided, -⟩ := resolved _ rfl
    have second : Decided .localhost 1 (.error bad) opening := by
      refine decided 1 (.error bad) ⟨rfl, fun earlier below => ?_, ?_⟩
      · obtain rfl := Nat.lt_one_iff.mp below
        exact ⟨_, rfl, _, rfl, rfl⟩
      · rintro ⟨error, failed, moves⟩
        cases failed
        cases moves
    have failed : opening.1.result = .error bad := second.other bad rfl nofun
    refine ⟨opening, same, congr (congrArg Report.mk failed) second.attempts, ?_⟩
    rcases settled with ⟨succeeded, -⟩ | ⟨-, closed, -⟩
    · cases succeeded.symm.trans failed
    · exact closed
  · obtain ⟨opening, same, -, resolved, -⟩ := opened_as_decided setup late asked false rfl
    obtain ⟨-, -, -, -, timedOut⟩ := resolved _ rfl
    have both : ∀ outcome ∈ List.replicate 2 (Except.error (.system slow) : Except _ Line),
        Yields timesOut outcome :=
      fun outcome mem => ⟨.system slow, List.eq_of_mem_replicate mem, rfl⟩
    obtain ⟨last, error, -, failed, -, timeout⟩ := timedOut (List.cons_ne_nil _ _) both
    exact ⟨opening, error, same, failed, timeout⟩

end DocumentCursor.Stream
