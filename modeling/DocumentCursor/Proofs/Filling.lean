import DocumentCursor.Proofs.Lifecycle
import Mathlib.Algebra.Ring.Nat

/-! # Exact reads

A read asks for a number of bytes and takes as many chunks as that needs, and a part of one more. So
the chunks do not show in what is read: every read gets the next bytes of all that the other end
sends, or fails because fewer are left. This holds for both sorts of streams, as long as no read is
hindered by a time limit or by a failure on the way.

* **`Filled`**: what filling a buffer comes to, told by the bytes that arrive alone.
* **`fillFrom_filled`**: filling a buffer comes to that, for all arrivals.
* **`Endpoint.Shape.read_exact`**: and so does a read, of either sort of stream.
* **`Row`** and **`Client.row_performAll`**: a row of reads is exact until one is hindered.
* **`Reader`** and **`reads_exact`**: a row of reads of a stream that was used in any way before.
-/

namespace DocumentCursor.Stream

open Net

/-! ## Filling a buffer -/

/-- The bytes of some arrivals, one after the other. -/
def bytesOf (arrivals : List Arrival) : List UInt8 := arrivals.flatMap Arrival.bytes

/-- **What keeps a reader from its bytes**: silence, where there is a time limit, and every failure
but an interruption, which is tried again. -/
inductive Hinders (timed : Bool) : Arrival → Prop
  | silence (limited : timed = true) : Hinders timed .silence
  | failure {error : SystemError} (lasting : error.kind ≠ .interrupted) :
      Hinders timed (.failure error)

/-- **What filling a buffer comes to.** How the bytes are cut into chunks does not matter. -/
inductive Filled (timed : Bool) (last : Shortfall) (wanted : Nat) (arrivals : List Arrival) :
    Except Shortfall (List UInt8) × List Arrival → Prop
  /-- The buffer is filled with the first bytes, and the others are left. -/
  | full {rest : List Arrival} (enough : wanted ≤ (bytesOf arrivals).length)
      (left : bytesOf rest = (bytesOf arrivals).drop wanted)
      (kept : ∀ arrival ∈ rest, Hinders timed arrival → arrival ∈ arrivals) :
      Filled timed last wanted arrivals (.ok ((bytesOf arrivals).take wanted), rest)
  /-- There are too few bytes, and none is left. -/
  | short (few : (bytesOf arrivals).length < wanted) :
      Filled timed last wanted arrivals (.error last, [])
  | outOfTime {rest : List Arrival} (limited : timed = true) (met : .silence ∈ arrivals) :
      Filled timed last wanted arrivals (.error .outOfTime, rest)
  | failed {rest : List Arrival} {error : SystemError} (lasting : error.kind ≠ .interrupted)
      (met : .failure error ∈ arrivals) :
      Filled timed last wanted arrivals (.error (.failed error), rest)

/-- What is met after something without bytes that does not hinder is met all the same: `Filled`
with it in front. -/
theorem Filled.skip {timed : Bool} {last : Shortfall} {wanted : Nat} {arrivals : List Arrival}
    {filling : Except Shortfall (List UInt8) × List Arrival} {first : Arrival}
    (blank : first.bytes = []) (filled : Filled timed last wanted arrivals filling) :
    Filled timed last wanted (first :: arrivals) filling := by
  have same : bytesOf (first :: arrivals) = bytesOf arrivals := by
    rw [bytesOf, List.flatMap_cons, blank]
    rfl
  cases filled with
  | full enough left kept =>
    rw [← same] at enough left ⊢
    exact .full enough left fun arrival listed hinders =>
      List.mem_cons_of_mem _ (kept arrival listed hinders)
  | short few => exact .short (same ▸ few)
  | outOfTime limited met => exact .outOfTime limited (List.mem_cons_of_mem _ met)
  | failed lasting met => exact .failed lasting (List.mem_cons_of_mem _ met)

/-- A chunk that is taken as a whole stands in front of what is taken after it: `Filled` for the
bytes that are still wanted gives `Filled` for all. -/
theorem Filled.chunk {timed : Bool} {last : Shortfall} {wanted : Nat} {arrivals rest : List Arrival}
    {filled : Except Shortfall (List UInt8)} {bytes : List UInt8} (fits : bytes.length ≤ wanted)
    (filling : Filled timed last (wanted - bytes.length) arrivals (filled, rest)) :
    Filled timed last wanted (.chunk bytes :: arrivals) (filled.map (bytes ++ ·), rest) := by
  have whole : bytesOf (.chunk bytes :: arrivals) = bytes ++ bytesOf arrivals := rfl
  cases filling with
  | full enough left kept =>
    have taken : bytes ++ (bytesOf arrivals).take (wanted - bytes.length) =
        (bytesOf (.chunk bytes :: arrivals)).take wanted := by
      rw [whole, List.take_append, List.take_of_length_le fits]
    rw [Except.map, taken]
    refine .full ?_ ?_ fun arrival listed hinders => ?_
    · rw [whole, List.length_append]
      omega
    · rw [whole, List.drop_append, List.drop_of_length_le fits, List.nil_append, left]
    · exact List.mem_cons_of_mem _ (kept arrival listed hinders)
  | short few =>
    refine .short ?_
    rw [whole, List.length_append]
    omega
  | outOfTime limited met => exact .outOfTime limited (List.mem_cons_of_mem _ met)
  | failed lasting met => exact .failed lasting (List.mem_cons_of_mem _ met)

/-- **Filling a buffer takes the next bytes**, whatever arrives: `fillFrom` is `Filled`, by
induction on the arrivals. -/
theorem fillFrom_filled (timed : Bool) (last : Shortfall) (wanted : Nat)
    (arrivals : List Arrival) :
    Filled timed last wanted arrivals (fillFrom timed last wanted arrivals) := by
  fun_induction fillFrom timed last wanted arrivals with
  | case1 arrivals => exact .full (Nat.zero_le _) rfl fun arrival listed _ => listed
  | case2 wanted => exact .short (Nat.succ_pos wanted)
  | case3 wanted arrivals limited => exact .outOfTime limited List.mem_cons_self
  | case4 wanted arrivals limited ih => exact ih.skip rfl
  | case5 wanted error arrivals again ih => exact ih.skip rfl
  | case6 wanted error arrivals lasting => exact .failed lasting List.mem_cons_self
  | case7 wanted bytes arrivals fits filled rest filling ih =>
    rw [filling] at ih
    exact ih.chunk fits
  | case8 wanted bytes arrivals long =>
    -- The chunk has more than is wanted: it is split, and its end stays in front of the rest.
    have whole : bytesOf (.chunk bytes :: arrivals) = bytes ++ bytesOf arrivals := rfl
    have reach : wanted + 1 ≤ bytes.length := by omega
    have taken : bytes.take (wanted + 1) =
        (bytesOf (.chunk bytes :: arrivals)).take (wanted + 1) := by
      rw [whole, List.take_append_of_le_length reach]
    rw [taken]
    refine .full ?_ ?_ fun arrival listed hinders => ?_
    · rw [whole, List.length_append]
      omega
    · rw [whole, List.drop_append_of_le_length reach]
      rfl
    · obtain rfl | listed := List.mem_cons.mp listed
      · cases hinders
      · exact List.mem_cons_of_mem _ listed

/-! ## One read -/

/-- The bytes in a buffer that a client learns: the `content` of a `.buffer`, and `none` for a reply
without one. -/
def Reply.bytes? : Reply → Option (List UInt8)
  | .buffer value => some value.content
  | _ => none

/-- The bytes that a read comes to, if it comes to any, or why it fails. It is `.ok none` for what
is no read. -/
abbrev Result := Except TransportError (Option (List UInt8))

/-- The bytes that a client learns, or why it does not: the result of a report by `Reply.bytes?`. -/
def Report.bytes (report : Report) : Result := report.result.map Reply.bytes?

/-- Whether a read was hindered: it ran out of time, or failed for another reason than the end of
what the other end sends. A `.prematureEnd` does not hinder. -/
def hindered {β : Type} : Except TransportError β → Bool
  | .error (.readTimeout _) | .error (.system _) => true
  | _ => false

/-- **What a read comes to if it is not hindered**, of a stream on which these bytes are still to
come before the other end closes it: the first `size` of them, or `.prematureEnd` if they are
fewer. -/
def exactRead (address : Address) (bytes : List UInt8) (size : Nat) : Result :=
  if size ≤ bytes.length then .ok (some (bytes.take size)) else .error (.prematureEnd address)

/-- **What is told of filling a buffer**, of which the stream was not closed meanwhile: the buffer,
`.prematureEnd`, or an error that is `hindered`. -/
inductive Told (address : Address) :
    Except Shortfall (List UInt8) → Except TransportError Buffer → Prop
  | full {content : List UInt8} {buffer : Buffer} (holds : buffer.content = content) :
      Told address (.ok content) (.ok buffer)
  | ended : Told address (.error .ended) (.error (.prematureEnd address))
  | outOfTime {result : Except TransportError Buffer} (told : hindered result = true) :
      Told address (.error .outOfTime) result
  | failed {error : SystemError} {result : Except TransportError Buffer}
      (told : hindered result = true) : Told address (.error (.failed error)) result

section Sorts

variable {setup : Setup} {line : Line} {incoming : Incoming} {size : Nat}

/-- A read of an open blocking stream takes what fills its buffer, and tells what came of it: the
line goes on with what `fill` leaves, and the result is `Told`. -/
theorem Blocking.read_opened (interrupt : Bool) (pool : Pool)
    (waited : (line.toIncoming.fill setup.timed none size).1 ≠ .error .closed) :
    let filling := line.toIncoming.fill setup.timed none size
    let outcome := Blocking.read setup none size
      { opened := true, channel := some line, interrupt } pool
    outcome.stream =
        { opened := true, interrupt, channel := some { line with toIncoming := filling.2 } } ∧
      Told setup.address filling.1 outcome.result := by
  intro filling outcome
  have notCut : Incoming.closedMeanwhile none filling.1 = false :=
    Bool.eq_false_iff.mpr fun cut => waited (Incoming.closedMeanwhile_none.mp cut)
  have filling_eq : line.toIncoming.fill setup.timed none size = (filling.1, filling.2) := rfl
  simp only [outcome, Blocking.read, ite_self, filling_eq, notCut, Bool.false_eq_true, if_false]
  cases told : filling.1 with
  | ok content => exact ⟨rfl, .full rfl⟩
  | error shortfall =>
    cases shortfall with
    | ended => exact ⟨rfl, .ended⟩
    | outOfTime => exact ⟨rfl, .outOfTime rfl⟩
    | closed => exact absurd told waited
    | failed error =>
      refine ⟨rfl, .failed ?_⟩
      simp only [Blocking.giveUp]
      split <;> rfl

/-- A read of an open asynchronous stream does the same, with its `reader`; its `writer` stays. -/
theorem Asynchronous.read_opened (outgoing : Outgoing) (pool : Pool)
    (waited : (incoming.fill setup.timed none size).1 ≠ .error .closed) :
    let filling := incoming.fill setup.timed none size
    let outcome := Asynchronous.read setup none size
      { opened := true, reader := some incoming, writer := some outgoing } pool
    outcome.stream = { opened := true, reader := some filling.2, writer := some outgoing } ∧
      Told setup.address filling.1 outcome.result := by
  intro filling outcome
  have notCut : Incoming.closedMeanwhile none filling.1 = false :=
    Bool.eq_false_iff.mpr fun cut => waited (Incoming.closedMeanwhile_none.mp cut)
  have filling_eq : incoming.fill setup.timed none size = (filling.1, filling.2) := rfl
  simp only [outcome, Asynchronous.read, noticed, readTask, checkInReader, filling_eq, notCut,
    Bool.false_eq_true, if_false]
  cases told : filling.1 with
  | ok content => exact ⟨rfl, .full rfl⟩
  | error shortfall =>
    cases shortfall with
    | ended => exact ⟨rfl, .ended⟩
    | outOfTime => exact ⟨rfl, .outOfTime rfl⟩
    | closed => exact absurd told waited
    | failed error => exact ⟨rfl, .failed rfl⟩

end Sorts

namespace Endpoint

variable {setup : Setup} {endpoint : Endpoint} {line : Line} {phase : Phase}

/-- A stream that holds a line is open: with `Holds` the phase of its `Shape` is `.opened`. -/
theorem Shape.opened_of_holds (shape : endpoint.Shape phase) (held : endpoint.Holds line) :
    phase = .opened := by
  cases endpoint with
  | blocking stream =>
    cases shape with
    | opened => rfl
    | fresh | closed => cases held
  | asynchronous stream =>
    cases shape with
    | opened => rfl
    | fresh | closed => cases held.1

/-- An open stream that holds a line holds it as a whole, or its halves apart: the two streams that
`Shape` and `Holds` leave. -/
theorem Shape.cases_of_holds (shape : endpoint.Shape .opened) (held : endpoint.Holds line) :
    (∃ interrupt, endpoint = blocking { opened := true, channel := some line, interrupt }) ∨
      endpoint = asynchronous
        { opened := true, reader := some line.toIncoming, writer := some line.toOutgoing } := by
  cases endpoint with
  | blocking stream =>
    cases shape with
    | opened own interrupt =>
      obtain rfl := Option.some.inj held
      exact .inl ⟨interrupt, rfl⟩
  | asynchronous stream =>
    cases shape with
    | opened incoming outgoing =>
      obtain ⟨reader, writer⟩ := held
      obtain rfl := Option.some.inj reader
      obtain rfl := Option.some.inj writer
      exact .inr rfl

/-- **A read takes what fills its buffer, and tells what came of it**, for both sorts of streams:
the stream `Holds` the line with what `fill` leaves, and the result is `Told`. -/
theorem Shape.read_holds (pool : Pool) (size : Nat) (shape : endpoint.Shape .opened)
    (held : endpoint.Holds line)
    (waited : (line.toIncoming.fill setup.timed none size).1 ≠ .error .closed) :
    let filling := line.toIncoming.fill setup.timed none size
    let outcome := endpoint.read setup none size pool
    outcome.stream.Shape .opened ∧
      outcome.stream.Holds { line with toIncoming := filling.2 } ∧
      Told setup.address filling.1 outcome.result := by
  intro filling outcome
  rcases shape.cases_of_holds held with ⟨interrupt, rfl⟩ | rfl
  · obtain ⟨stream_eq, told⟩ := Blocking.read_opened interrupt pool waited
    have after : outcome.stream = blocking
        { opened := true, interrupt, channel := some { line with toIncoming := filling.2 } } :=
      congrArg blocking stream_eq
    rw [after]
    exact ⟨.opened _ _, rfl, told⟩
  · obtain ⟨stream_eq, told⟩ := Asynchronous.read_opened line.toOutgoing pool waited
    have after : outcome.stream = asynchronous
        { opened := true, reader := some filling.2, writer := some line.toOutgoing } :=
      congrArg asynchronous stream_eq
    rw [after]
    exact ⟨.opened _ _, ⟨rfl, rfl⟩, told⟩

/-- Nothing is read into an empty buffer, and nothing is asked of the line for it: a read of size
`0` leaves the stream as it is. -/
theorem Shape.read_zero (setup : Setup) (pool : Pool) (shape : endpoint.Shape .opened) :
    let outcome := endpoint.read setup none 0 pool
    outcome.stream = endpoint ∧ ∃ buffer, outcome.result = .ok buffer ∧ buffer.content = [] := by
  cases endpoint with
  | blocking stream =>
    cases shape with
    | opened line interrupt =>
      simp [read, Outcome.lift, Blocking.read, Incoming.closedMeanwhile]
  | asynchronous stream =>
    cases shape with
    | opened incoming outgoing =>
      simp [read, Outcome.lift, Asynchronous.read, Asynchronous.readTask, Asynchronous.noticed,
        Asynchronous.checkInReader, Incoming.closedMeanwhile]

/-- **What a read of a line comes to**, and the arrivals that it leaves. -/
inductive Reads (setup : Setup) (line : Line) (size : Nat) :
    Except TransportError Buffer → List Arrival → Prop
  /-- It gets the next bytes, or fails because fewer are left. -/
  | exact {result : Except TransportError Buffer} {rest : List Arrival}
      (same : result.map (fun buffer => some buffer.content) =
        exactRead setup.address line.pending size)
      (left : bytesOf rest = line.pending.drop size)
      (kept : ∀ arrival ∈ rest, Hinders setup.timed arrival → arrival ∈ line.arrivals) :
      Reads setup line size result rest
  | hindered {result : Except TransportError Buffer} {rest : List Arrival} {arrival : Arrival}
      (told : hindered result = true) (met : arrival ∈ line.arrivals)
      (hinders : Hinders setup.timed arrival) : Reads setup line size result rest

/-- **A read of a line that the other end closes is exact or hindered**: `Reads` of its result and
the arrivals that are left. -/
theorem Shape.read_exact (pool : Pool) (size : Nat) (shape : endpoint.Shape .opened)
    (held : endpoint.Holds line) (ended : line.ended = true) :
    let outcome := endpoint.read setup none size pool
    outcome.stream.Shape .opened ∧ ∃ rest, outcome.stream.Holds { line with arrivals := rest } ∧
      Reads setup line size outcome.result rest := by
  have last : line.toIncoming.last setup.timed = .ended := by
    rw [Incoming.last, if_pos ended]
  have filled := fillFrom_filled setup.timed .ended size line.arrivals
  have filling_eq : line.toIncoming.fill setup.timed none size =
      ((fillFrom setup.timed .ended size line.arrivals).1,
        { line.toIncoming with
          arrivals := (fillFrom setup.timed .ended size line.arrivals).2 }) := by
    rw [← last]
    rfl
  have waited : (line.toIncoming.fill setup.timed none size).1 ≠ .error .closed := fun closed =>
    absurd (Incoming.fill_eq_closed closed).2 (by rw [ended]; decide)
  obtain ⟨after, holds, told⟩ := shape.read_holds pool size held waited
  rw [filling_eq] at holds told
  refine ⟨after, _, holds, ?_⟩
  generalize fillFrom setup.timed .ended size line.arrivals = filling at filled told
  generalize (endpoint.read setup none size pool).result = result at told
  cases filled with
  | full enough left kept =>
    cases told with
    | full holds =>
      refine .exact ?_ left kept
      show _ = exactRead setup.address (bytesOf line.arrivals) size
      rw [exactRead, if_pos enough, Except.map, holds]
  | short few =>
    cases told with
    | ended =>
      refine .exact ?_ ?_ (by simp)
      · show _ = exactRead setup.address (bytesOf line.arrivals) size
        rw [exactRead, if_neg (Nat.not_le.mpr few)]
        rfl
      · exact (List.drop_of_length_le (Nat.le_of_lt few)).symm
  | outOfTime limited met =>
    cases told with
    | outOfTime told => exact .hindered told met (.silence limited)
  | failed lasting met =>
    cases told with
    | failed told => exact .hindered told met (.failure lasting)

end Endpoint

/-! ## Rows of reads -/

/-- One of a row of reads. -/
structure Reading where
  call : Mode
  insideRuntime : Bool := false
  size : Nat

/-- The read, as something that a client does. The stream is not closed meanwhile. -/
def Reading.use (reading : Reading) : Use :=
  .read reading.call reading.insideRuntime none reading.size

/-- **A row of reads is exact until one is hindered**: each read takes its bytes from those that the
reads before it have left. Nothing is said of the results behind a hindered one. -/
inductive Row (address : Address) : List UInt8 → List Nat → List Result → Prop
  | done {bytes : List UInt8} : Row address bytes [] []
  | exact {bytes : List UInt8} {size : Nat} {sizes : List Nat} {results : List Result}
      (rest : Row address (bytes.drop size) sizes results) :
      Row address bytes (size :: sizes) (exactRead address bytes size :: results)
  | lost {bytes : List UInt8} {sizes : List Nat} {result : Result} {results : List Result}
      (told : hindered result = true) : Row address bytes sizes (result :: results)

/-- The bytes of a row of results that are some, one after the other. -/
def received (results : List Result) : List UInt8 :=
  results.flatMap fun result => (result.toOption.bind id).getD []

namespace Row

variable {address : Address} {bytes : List UInt8} {sizes : List Nat}
  {results : List Result}

/-- **Each read up to the first hindered one gets the next bytes**, or fails as fewer are left: the
result at `count` is `exactRead` behind the sizes before it. -/
theorem getElem?_eq (row : Row address bytes sizes results) (count : Nat)
    (within : count < results.length)
    (smooth : ∀ result ∈ results.take (count + 1), hindered result = false) :
    ∃ size, sizes[count]? = some size ∧ results[count]? =
      some (exactRead address (bytes.drop (sizes.take count).sum) size) := by
  induction row generalizing count with
  | done => cases within
  | @exact bytes size sizes results rest ih =>
    cases count with
    | zero => exact ⟨size, rfl, rfl⟩
    | succ count =>
      obtain ⟨next, asked, got⟩ := ih count (Nat.lt_of_succ_lt_succ within) fun result listed =>
        smooth result (List.mem_cons_of_mem _ listed)
      refine ⟨next, asked, got.trans ?_⟩
      rw [List.drop_drop, List.take_succ_cons, List.sum_cons]
  | lost told =>
    have := smooth _ (List.mem_cons_self ..)
    rw [told] at this
    cases this

/-- **What the reads of a row receive are the first of all bytes**, if none is hindered:
`received results <+: bytes`. -/
theorem received_isPrefix (row : Row address bytes sizes results)
    (smooth : ∀ result ∈ results, hindered result = false) : received results <+: bytes := by
  induction row with
  | done => exact List.nil_prefix
  | @exact bytes size sizes results rest ih =>
    have later := ih fun result listed => smooth result (List.mem_cons_of_mem _ listed)
    unfold exactRead received
    split
    · -- What the read got and what it left are all bytes.
      have whole := (List.prefix_append_right_inj (bytes.take size)).mpr later
      rw [List.take_append_drop] at whole
      exact whole
    · rename_i few
      rw [List.drop_of_length_le (by omega)] at later
      exact later.trans List.nil_prefix
  | lost told =>
    have := smooth _ (List.mem_cons_self ..)
    rw [told] at this
    cases this

/-- **Rows of reads of the same sizes, of the same bytes, have the same results**, if none of them
is hindered. This is why chunks and modes are no matter. -/
theorem unique {others : List Result} (row : Row address bytes sizes results)
    (other : Row address bytes sizes others) (length_eq : others.length = results.length)
    (smooth : ∀ result ∈ results ++ others, hindered result = false) : results = others := by
  refine List.ext_getElem? fun count => ?_
  by_cases within : count < results.length
  · obtain ⟨size, asked, got⟩ := row.getElem?_eq count within fun result listed =>
      smooth result (List.mem_append_left _ (List.mem_of_mem_take listed))
    obtain ⟨size', asked', got'⟩ := other.getElem?_eq count (length_eq ▸ within)
      fun result listed => smooth result (List.mem_append_right _ (List.mem_of_mem_take listed))
    rw [got, got', Option.some.inj (asked.symm.trans asked')]
  · rw [List.getElem?_eq_none (by omega), List.getElem?_eq_none (by omega)]

end Row

namespace Client

variable {setup : Setup} {candidates : Candidates} {client : Client} {line : Line}

/-- A read by a client is a read of its stream: its report and its stream are those of
`endpoint.read`, if the call is offered. -/
theorem reading_perform (setup : Setup) (candidates : Candidates) (reading : Reading)
    (offered : client.refusal? reading.call reading.insideRuntime = none) :
    let outcome := client.endpoint.read setup none reading.size client.pool
    (client.perform setup candidates reading.use).1.bytes =
        outcome.result.map (fun buffer => some buffer.content) ∧
      (client.perform setup candidates reading.use).2.endpoint = outcome.stream := by
  simp only [Reading.use, perform, read, offered]
  cases (client.endpoint.read setup none reading.size client.pool).result <;> exact ⟨rfl, rfl⟩

/-- Each thing that is done is reported: there are as many reports as uses. -/
theorem length_performAll (uses : List Use) (client : Client) :
    (client.performAll setup candidates uses).1.length = uses.length := by
  induction uses generalizing client with
  | nil => rfl
  | cons use uses ih => exact congrArg (· + 1) (ih _)

/-- Whether a result was hindered does not depend on what is looked at in it:
`hindered (result.map f) = hindered result`. -/
theorem hindered_map {β γ : Type} (f : β → γ) (result : Except TransportError β) :
    hindered (result.map f) = hindered result := by
  cases result with
  | ok value => rfl
  | error error => cases error <;> rfl

/-- **A row of reads of a line that the other end closes is exact until one is hindered**, and none
is where nothing hinders. By induction on the reads, each by `read_exact`. -/
theorem row_performAll (readings : List Reading) (shape : client.endpoint.Shape .opened)
    (held : client.endpoint.Holds line) (ended : line.ended = true)
    (offered : ∀ reading ∈ readings, client.refusal? reading.call reading.insideRuntime = none) :
    let results :=
      (client.performAll setup candidates (readings.map Reading.use)).1.map Report.bytes
    Row setup.address line.pending (readings.map Reading.size) results ∧
      ((∀ arrival ∈ line.arrivals, ¬Hinders setup.timed arrival) →
        ∀ result ∈ results, hindered result = false) := by
  induction readings generalizing client line with
  | nil => exact ⟨.done, fun _ _ listed => by cases listed⟩
  | cons reading readings ih =>
    obtain ⟨bytes_eq, stream_eq⟩ :=
      reading_perform setup candidates reading (offered reading List.mem_cons_self)
    obtain ⟨after, rest, holds, reads⟩ := shape.read_exact client.pool reading.size held ended
    have mode_eq : (client.perform setup candidates reading.use).2.endpoint.mode =
        client.endpoint.mode := mode_perform reading.use client
    rw [← stream_eq] at after holds
    obtain ⟨row, clear⟩ := ih after holds ended fun other listed => by
      rw [refusal?, mode_eq]
      exact offered other (List.mem_cons_of_mem _ listed)
    simp only [List.map_cons, performAll, bytes_eq]
    cases reads with
    | exact same left kept =>
      rw [same]
      have pending_eq : bytesOf rest = ({ line with arrivals := rest } : Line).pending := rfl
      rw [← pending_eq, left] at row
      refine ⟨.exact row, fun smooth result listed => ?_⟩
      obtain rfl | listed := List.mem_cons.mp listed
      · unfold exactRead
        split <;> rfl
      · exact clear (fun arrival left hinders => smooth arrival (kept arrival left hinders) hinders)
          result listed
    | hindered told met hinders =>
      exact ⟨.lost ((hindered_map ..).trans told), fun smooth => absurd hinders (smooth _ met)⟩

end Client

/-! ## Streams that were used before -/

/-- A stream that holds a line is open, whatever was done before: `line? = some line` gives
`Shape .opened` and `Holds line`. -/
theorem Client.opened_of_line? {setup : Setup} {candidates : Candidates} {uses : List Use}
    {line : Line}
    (held : (performAll setup candidates uses (.fresh setup.mode)).2.endpoint.line? = some line) :
    let client := (performAll setup candidates uses (.fresh setup.mode)).2
    client.endpoint.Shape .opened ∧ client.endpoint.Holds line := by
  intro client
  have shape : client.endpoint.Shape client.phase :=
    shape_performAll setup candidates uses (shape_fresh setup.mode)
  have holds := Endpoint.holds_of_line? held
  rw [shape.opened_of_holds holds] at shape
  exact ⟨shape, holds⟩

/-- **A row of reads of a stream** that was used in any way before, and holds a line then on which
the other end sends nothing but what is there and closes after it. -/
structure Reader where
  setup : Setup
  candidates : Candidates
  /-- What was done with the stream before. -/
  uses : List Use
  line : Line
  readings : List Reading
  held : (Client.performAll setup candidates uses (.fresh setup.mode)).2.endpoint.line? = some line
  ended : line.ended = true
  /-- The stream offers the sorts of calls by which it is read. -/
  offered : ∀ reading ∈ readings, setup.mode.refusal? reading.call reading.insideRuntime = none

namespace Reader

/-- The client whose stream is read, as `uses` left it. -/
def client (reader : Reader) : Client :=
  (Client.performAll reader.setup reader.candidates reader.uses (.fresh reader.setup.mode)).2

/-- What the reads come to, one result for each, by `length_results`. -/
def results (reader : Reader) : List Result :=
  (reader.client.performAll reader.setup reader.candidates
    (reader.readings.map Reading.use)).1.map Report.bytes

/-- The sizes of the reads. -/
def sizes (reader : Reader) : List Nat := reader.readings.map Reading.size

/-- The bytes that no read before one has asked for: those on the line without the sizes of the
first `count` reads. -/
def left (reader : Reader) (count : Nat) : List UInt8 :=
  reader.line.pending.drop (reader.sizes.take count).sum

/-- A stream that was connected to a line on which some chunks are. -/
def ofChunks (setup : Setup) (chunks : List (List UInt8)) (readings : List Reading)
    (offered : ∀ reading ∈ readings,
      setup.mode.refusal? reading.call reading.insideRuntime = none) : Reader where
  setup
  candidates := .ok [.ok { arrivals := chunks.map .chunk, ended := true }]
  uses := [.start setup.mode false]
  line := { arrivals := chunks.map .chunk, ended := true }
  readings
  held := by
    obtain ⟨mode, address, settings⟩ := setup
    cases mode <;> rfl
  ended := rfl
  offered

/-- Each read has a result: `results.length = sizes.length`. -/
theorem length_results (reader : Reader) : reader.results.length = reader.sizes.length := by
  rw [results, sizes, List.length_map, Client.length_performAll, List.length_map, List.length_map]

/-- The stream has the form of its phase, and holds the line, which is what the lemmas on `Shape`
ask for. -/
theorem shape_client (reader : Reader) :
    reader.client.endpoint.Shape .opened ∧ reader.client.endpoint.Holds reader.line :=
  Client.opened_of_line? reader.held

/-- **The reads of a reader are a row that is exact until one is hindered**: `Row` of their sizes
and results, and none is hindered where no arrival hinders. -/
theorem row_results (reader : Reader) :
    Row reader.setup.address reader.line.pending reader.sizes reader.results ∧
      ((∀ arrival ∈ reader.line.arrivals, ¬Hinders reader.setup.timed arrival) →
        ∀ result ∈ reader.results, hindered result = false) := by
  obtain ⟨shape, holds⟩ := reader.shape_client
  refine Client.row_performAll reader.readings shape holds reader.ended fun reading listed => ?_
  have mode_eq : reader.client.endpoint.mode = reader.setup.mode :=
    (Client.mode_performAll ..).trans (Endpoint.mode_fresh _)
  rw [Client.refusal?, mode_eq]
  exact reader.offered reading listed

end Reader

/-- **Reads are exact.** A row of reads of a stream, of either sort and used in any way before, on
whose line the other end closes after what it has sent:

* every read up to the first that is hindered gets the next bytes, as many as it asks for, or fails
  with a premature end at the address of the stream where fewer are left;
* if none is hindered, what is received is the beginning of what was sent, and any other reader of
  the same bytes, in whatever chunks and from whichever sort of stream, has the same results for
  reads of the same sizes;
* none is hindered where no failure and, under a time limit, no silence stands between the bytes;
* a read of no bytes succeeds on every open stream, and nothing becomes of the stream by it. -/
theorem reads_exact (reader : Reader) :
    reader.results.length = reader.sizes.length ∧
    (∀ count size, reader.sizes[count]? = some size →
      (∀ result ∈ reader.results.take (count + 1), hindered result = false) →
      reader.results[count]? = some
        (if size ≤ (reader.left count).length then .ok (some ((reader.left count).take size))
          else .error (.prematureEnd reader.setup.address))) ∧
    ((∀ result ∈ reader.results, hindered result = false) →
      received reader.results <+: reader.line.pending ∧
        ∀ other : Reader, other.setup.address = reader.setup.address →
          other.line.pending = reader.line.pending → other.sizes = reader.sizes →
          (∀ result ∈ other.results, hindered result = false) →
          other.results = reader.results) ∧
    ((∀ arrival ∈ reader.line.arrivals, ¬Hinders reader.setup.timed arrival) →
      ∀ result ∈ reader.results, hindered result = false) ∧
    (∀ uses call inside, reader.setup.mode.refusal? call inside = none →
      let client :=
        (Client.performAll reader.setup reader.candidates uses (.fresh reader.setup.mode)).2
      let after := client.perform reader.setup reader.candidates (.read call inside none 0)
      client.phase = .opened →
        after.1.bytes = .ok (some []) ∧ after.2.endpoint = client.endpoint) := by
  obtain ⟨row, clear⟩ := reader.row_results
  refine ⟨reader.length_results, fun count size asked smooth => ?exact, fun smooth => ?all, clear,
    fun uses call inside offered => ?zero⟩
  case exact =>
    have within : count < reader.results.length := by
      rw [reader.length_results]
      exact (List.getElem?_eq_some_iff.mp asked).1
    obtain ⟨other, asked', got⟩ := row.getElem?_eq count within smooth
    obtain rfl := Option.some.inj (asked.symm.trans asked')
    exact got
  case all =>
    refine ⟨row.received_isPrefix smooth, fun other address_eq pending_eq sizes_eq smooth' => ?_⟩
    have others := other.row_results.1
    rw [address_eq, pending_eq, sizes_eq] at others
    refine others.unique row ?_ fun result listed => ?_
    · rw [reader.length_results, other.length_results, sizes_eq]
    · exact (List.mem_append.mp listed).elim (smooth' result) (smooth result)
  case zero =>
    intro client after opened
    have mode_eq : client.endpoint.mode = reader.setup.mode :=
      (Client.mode_performAll ..).trans (Endpoint.mode_fresh _)
    have known : client.refusal? call inside = none := by
      rw [Client.refusal?, mode_eq, offered]
    have shape : client.endpoint.Shape client.phase :=
      Client.shape_performAll _ _ uses (Client.shape_fresh _)
    rw [opened] at shape
    obtain ⟨bytes_eq, stream_eq⟩ :=
      Client.reading_perform reader.setup reader.candidates ⟨call, inside, 0⟩ known
    obtain ⟨same, buffer, result_eq, empty⟩ := shape.read_zero reader.setup client.pool
    refine ⟨bytes_eq.trans ?_, stream_eq.trans same⟩
    rw [result_eq, Except.map, empty]

/-- Four bytes in three chunks are read from an asynchronous stream, and in one chunk from a
blocking one: two bytes, none, one, three of which one is left, and none. -/
theorem reads_exact_chunks :
    let scattered := Reader.ofChunks ⟨.asynchronous, .localhost, {}⟩ [[1], [2, 3], [4]]
      [⟨.asynchronous, true, 2⟩, ⟨.blocking, false, 0⟩, ⟨.asynchronous, false, 1⟩,
        ⟨.blocking, false, 3⟩, ⟨.asynchronous, true, 0⟩] (by decide)
    let whole := Reader.ofChunks ⟨.blocking, .localhost, {}⟩ [[1, 2, 3, 4]]
      [⟨.blocking, false, 2⟩, ⟨.blocking, false, 0⟩, ⟨.blocking, true, 1⟩,
        ⟨.blocking, false, 3⟩, ⟨.blocking, false, 0⟩] (by decide)
    whole.results[3]? = some (.error (.prematureEnd .localhost)) ∧
      received whole.results = [1, 2, 3] ∧ scattered.results = whole.results := by
  intro scattered whole
  obtain ⟨-, each, all, clear, -⟩ := reads_exact whole
  obtain ⟨-, -, -, clear', -⟩ := reads_exact scattered
  have smooth := clear fun arrival listed => by
    obtain rfl := List.mem_singleton.mp listed
    rintro ⟨⟩
  have smooth' := clear' fun arrival listed => by
    obtain ⟨bytes, -, rfl⟩ := List.mem_map.mp listed
    rintro ⟨⟩
  refine ⟨?_, rfl, (all smooth).2 scattered rfl rfl rfl smooth'⟩
  exact each 3 3 rfl fun result listed => smooth result (List.mem_of_mem_take listed)

end DocumentCursor.Stream
