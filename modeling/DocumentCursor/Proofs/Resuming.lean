import DocumentCursor.Proofs.Filling

/-! # Reading on after a time limit

A read that runs out of time leaves its stream open. What it had taken by then is given up with its
buffer: a stream keeps nothing of it, and the next read goes on behind it. So every read goes on
behind all that the reads before it have taken, be it received or given up, and what is received is
the beginning of what was sent as long as no read is given up in the middle of its buffer.

* **`GivenUp`** and **`fillFrom_eq_error`**: where a buffer is given up.
* **`Takes`** and **`Client.takes_perform`**: what one turn of an open stream takes from its line.
* **`Course`** and **`Client.course_performAll`**: what all turns take, one after the other.
* **`Course.bytes_eq`**: what was taken and what is left are all bytes that were sent.
* **`Stretch`** and **`reads_go_on`**: the reads of a stream while it stays open.
* **`timedOut_read_loses_byte`**: the bytes that a read gives up are not read again.
-/

namespace DocumentCursor.Stream

open Net

/-! ## Where a buffer is given up -/

section

variable {timed : Bool} {last shortfall : Shortfall} {wanted : Nat}
  {arrivals gone rest : List Arrival}

/-- **A buffer is given up** when some arrivals are gone into it: at a silence under a time limit,
at a failure, or because nothing more arrives. Each has its own `Shortfall`. -/
inductive GivenUp (timed : Bool) (last : Shortfall) (gone : List Arrival) :
    List Arrival → List Arrival → Shortfall → Prop
  | silence {rest : List Arrival} (limited : timed = true) :
    GivenUp timed last gone (gone ++ .silence :: rest) rest .outOfTime
  | failure {error : SystemError} {rest : List Arrival} (lasting : error.kind ≠ .interrupted) :
    GivenUp timed last gone (gone ++ .failure error :: rest) rest (.failed error)
  | finished : GivenUp timed last gone gone [] last

/-- What arrived in front of the others is gone as well: `GivenUp` with `first` in front of `gone`
and of all arrivals. -/
theorem GivenUp.cons (first : Arrival) (h : GivenUp timed last gone arrivals rest shortfall) :
    GivenUp timed last (first :: gone) (first :: arrivals) rest shortfall := by
  cases h with
  | silence limited => exact .silence limited
  | failure lasting => exact .failure lasting
  | finished => exact .finished

/-- What is gone and what is left are all bytes: `bytesOf gone ++ bytesOf rest = bytesOf
arrivals`. -/
theorem GivenUp.bytes_eq (h : GivenUp timed last gone arrivals rest shortfall) :
    bytesOf arrivals = bytesOf gone ++ bytesOf rest := by
  cases h with
  | silence => simp [bytesOf, Arrival.bytes]
  | failure => simp [bytesOf, Arrival.bytes]
  | finished => simp [bytesOf]

/-- **A buffer that is not filled is given up**, with fewer bytes than it has room for: an error of
`fillFrom` comes by `GivenUp`, and `bytesOf gone` is shorter than `wanted`. -/
theorem fillFrom_eq_error
    (h : fillFrom timed last wanted arrivals = (.error shortfall, rest)) :
    ∃ gone, (bytesOf gone).length < wanted ∧ GivenUp timed last gone arrivals rest shortfall := by
  fun_induction fillFrom timed last wanted arrivals with
  | case1 => cases h
  | case2 wanted =>
    cases h
    exact ⟨[], Nat.succ_pos wanted, .finished⟩
  | case3 wanted arrivals limited =>
    cases h
    exact ⟨[], Nat.succ_pos wanted, .silence limited⟩
  | case4 wanted arrivals untimed ih =>
    obtain ⟨gone, few, givenUp⟩ := ih h
    exact ⟨.silence :: gone, few, givenUp.cons _⟩
  | case5 wanted error arrivals again ih =>
    obtain ⟨gone, few, givenUp⟩ := ih h
    exact ⟨.failure error :: gone, few, givenUp.cons _⟩
  | case6 wanted error arrivals lasting =>
    cases h
    exact ⟨[], Nat.succ_pos wanted, .failure lasting⟩
  | case7 wanted bytes arrivals fits filled left filling ih =>
    cases filled with
    | ok content => cases h
    | error other =>
      cases h
      obtain ⟨gone, few, givenUp⟩ := ih filling
      refine ⟨.chunk bytes :: gone, ?_, givenUp.cons _⟩
      have whole : bytesOf (.chunk bytes :: gone) = bytes ++ bytesOf gone := rfl
      rw [whole, List.length_append]
      omega
  | case8 => cases h

end

/-! ## What a turn takes -/

/-- A turn of an open stream: its client reads or writes, or something comes from the other end. -/
inductive Turn where
  | read (reading : Reading)
  /-- Writes the buffers in some places. -/
  | write (call : Mode) (insideRuntime : Bool) (places : List Nat)
  | arrive (arrivals : List Arrival)
  /-- The other end sends no more. -/
  | finish

namespace Turn

/-- A turn, as something that a client does. The stream is not closed meanwhile, so `before` is
`none`. -/
def use : Turn → Use
  | read reading => reading.use
  | write call inside places => .write call inside none places
  | arrive arrivals => .wait fun line => { line with arrivals := line.arrivals ++ arrivals }
  | finish => .wait Line.finish

/-- The bytes that the other end sends in a turn: those of `arrive`, and none in any other turn. -/
def brings : Turn → List UInt8
  | arrive arrivals => bytesOf arrivals
  | read _ | write .. | finish => []

end Turn

theorem received_cons (result : Result) (results : List Result) :
    received (result :: results) = received [result] ++ received results := by
  simp [received]

section

variable {setup : Setup} {turn : Turn} {turns : List Turn} {result : Result}
  {results : List Result} {arrivals rest : List Arrival} {piece : List UInt8}
  {pieces : List (List UInt8)}

/-- **What a turn takes from the arrivals**, by its result: a piece of their bytes, after which some
arrivals are left. Only reads take anything. -/
inductive Takes (setup : Setup) :
    Turn → Result → List Arrival → List UInt8 → List Arrival → Prop
  | got {reading : Reading} {content : List UInt8} {arrivals rest : List Arrival}
      (size_eq : content.length = reading.size)
      (split : bytesOf arrivals = content ++ bytesOf rest) :
      Takes setup (.read reading) (.ok (some content)) arrivals content rest
  /-- What is gone into a buffer that is given up was taken all the same. -/
  | lost {reading : Reading} {error : TransportError} {arrivals gone rest : List Arrival}
      {last shortfall : Shortfall} (few : (bytesOf gone).length < reading.size)
      (givenUp : GivenUp setup.timed last gone arrivals rest shortfall) :
      Takes setup (.read reading) (.error error) arrivals (bytesOf gone) rest
  /-- A read that the stream does not offer takes nothing. -/
  | refused {reading : Reading} {kind family : String} {arrivals : List Arrival} :
      Takes setup (.read reading) (.error (.unsupported kind family)) arrivals [] arrivals
  | written {call : Mode} {inside : Bool} {places : List Nat} {arrivals : List Arrival}
      (written : Except TransportError Unit) :
      Takes setup (.write call inside places) (written.map fun _ => none) arrivals [] arrivals
  | arrived {arrivals more : List Arrival} :
      Takes setup (.arrive more) (.ok none) arrivals [] (arrivals ++ more)
  | finished {arrivals : List Arrival} : Takes setup .finish (.ok none) arrivals [] arrivals

/-- **A turn takes its piece from the front** and leaves all other bytes: `piece ++ bytesOf rest`
are the bytes that were there, with those that the turn brings. -/
theorem Takes.bytes_eq (takes : Takes setup turn result arrivals piece rest) :
    bytesOf arrivals ++ turn.brings = piece ++ bytesOf rest := by
  cases takes with
  | got size_eq split => rw [Turn.brings, List.append_nil, split]
  | lost few givenUp => rw [Turn.brings, List.append_nil, givenUp.bytes_eq]
  | refused | written | finished => rw [Turn.brings, List.append_nil, List.nil_append]
  | arrived => simp [Turn.brings, bytesOf]

/-- What a client receives in a turn is what was taken, unless its read took it in vain: then the
result is an error. -/
theorem Takes.received_eq (takes : Takes setup turn result arrivals piece rest) :
    received [result] = piece ∨ received [result] = [] ∧ ∃ error, result = .error error := by
  cases takes with
  | got => exact .inl (List.append_nil _)
  | lost => exact .inr ⟨rfl, _, rfl⟩
  | refused | arrived | finished => exact .inl rfl
  | written written =>
    cases written with
    | ok => exact .inl rfl
    | error error => exact .inl rfl

/-! ## What turns take -/

/-- **What turns take from the arrivals**, one after the other: a piece for each turn, in their
order. -/
inductive Course (setup : Setup) :
    List Turn → List Result → List Arrival → List (List UInt8) → List Arrival → Prop
  | done {arrivals : List Arrival} : Course setup [] [] arrivals [] arrivals
  | turn {turn : Turn} {turns : List Turn} {result : Result} {results : List Result}
      {arrivals between rest : List Arrival} {piece : List UInt8} {pieces : List (List UInt8)}
      (takes : Takes setup turn result arrivals piece between)
      (course : Course setup turns results between pieces rest) :
      Course setup (turn :: turns) (result :: results) arrivals (piece :: pieces) rest

namespace Course

/-- **Nothing is taken twice, and nothing is skipped**: the pieces, and then `bytesOf rest`, are all
bytes that were there or came. -/
theorem bytes_eq (course : Course setup turns results arrivals pieces rest) :
    bytesOf arrivals ++ turns.flatMap Turn.brings = pieces.flatten ++ bytesOf rest := by
  induction course with
  | done => rw [List.flatMap_nil, List.append_nil, List.flatten_nil, List.nil_append]
  | @turn turn turns result results arrivals between rest piece pieces takes course ih =>
    calc bytesOf arrivals ++ (turn :: turns).flatMap Turn.brings
      _ = bytesOf arrivals ++ turn.brings ++ turns.flatMap Turn.brings := by
        rw [List.flatMap_cons, List.append_assoc]
      _ = piece ++ (bytesOf between ++ turns.flatMap Turn.brings) := by
        rw [takes.bytes_eq, List.append_assoc]
      _ = (piece :: pieces).flatten ++ bytesOf rest := by
        rw [ih, List.flatten_cons, List.append_assoc]

/-- Each turn takes its piece: `Takes` holds at every `index` of a course. -/
theorem takes_of_getElem? {index : Nat} (course : Course setup turns results arrivals pieces rest)
    (h : turns[index]? = some turn) :
    ∃ result piece before after, results[index]? = some result ∧ pieces[index]? = some piece ∧
      Takes setup turn result before piece after := by
  induction course generalizing index with
  | done => cases h
  | turn takes course ih =>
    cases index with
    | zero =>
      cases Option.some.inj h
      exact ⟨_, _, _, _, rfl, rfl, takes⟩
    | succ index => exact ih h

/-- The pieces that are received stand in the order in which they were sent: `received results` is a
sublist of the flattened pieces. -/
theorem received_sublist (course : Course setup turns results arrivals pieces rest) :
    (received results).Sublist pieces.flatten := by
  induction course with
  | done => exact .refl []
  | @turn turn turns result results arrivals between rest piece pieces takes course ih =>
    have own : (received [result]).Sublist piece := by
      obtain same | ⟨nothing, -⟩ := takes.received_eq
      · exact same ▸ .refl _
      · exact nothing ▸ List.nil_sublist piece
    rw [received_cons, List.flatten_cons]
    exact own.append ih

/-- **All that was taken is received** if no read was given up with bytes in its buffer:
`received results = pieces.flatten`. -/
theorem received_eq (course : Course setup turns results arrivals pieces rest)
    (kept : ∀ (index : Nat) (error : TransportError),
      results[index]? = some (.error error) → pieces[index]? = some []) :
    received results = pieces.flatten := by
  induction course with
  | done => rfl
  | @turn turn turns result results arrivals between rest piece pieces takes course ih =>
    have own : received [result] = piece := by
      obtain same | ⟨nothing, error, rfl⟩ := takes.received_eq
      · exact same
      · rw [nothing]
        exact (Option.some.inj (kept 0 error rfl)).symm
    rw [received_cons, List.flatten_cons, own, ih fun index => kept (index + 1)]

end Course

/-- A piece stands behind the pieces in front of it: `drop` and `take` find it among all bytes. -/
theorem piece_eq {index : Nat} (h : pieces[index]? = some piece) (bytes : List UInt8) :
    piece =
      ((pieces.flatten ++ bytes).drop (pieces.take index).flatten.length).take piece.length := by
  obtain ⟨within, rfl⟩ := List.getElem?_eq_some_iff.mp h
  have apart : pieces = pieces.take index ++ pieces[index] :: pieces.drop (index + 1) := by simp
  have flat := congrArg List.flatten apart
  rw [List.flatten_append, List.flatten_cons] at flat
  rw [flat, List.append_assoc, List.drop_left, List.append_assoc, List.take_left]

end

/-! ## Open streams -/

/-- What is hindered fails: `hindered result` is true of errors only. -/
theorem exists_error_of_hindered {β : Type} {result : Except TransportError β}
    (h : hindered result = true) : ∃ error, result = .error error := by
  cases result with
  | ok value => cases h
  | error error => exact ⟨error, rfl⟩

/-- What is told of a buffer that is given up is an error, whichever `shortfall` it is. -/
theorem Told.error {address : Address} {shortfall : Shortfall}
    {result : Except TransportError Buffer} (told : Told address (.error shortfall) result) :
    ∃ error, result = .error error := by
  cases told with
  | ended => exact ⟨_, rfl⟩
  | outOfTime told => exact exists_error_of_hindered told
  | failed told => exact exists_error_of_hindered told

namespace Endpoint

variable {setup : Setup} {endpoint : Endpoint} {line : Line}

/-- A read of a line waits until the stream is closed if nothing else ends it: `waits` is read off
the line that is held. -/
theorem Holds.waits_eq (held : endpoint.Holds line) (size : Nat) :
    endpoint.waits setup size =
      Incoming.closedMeanwhile none (line.toIncoming.fill setup.timed none size).1 := by
  cases endpoint with
  | blocking stream =>
    have own : (blocking stream).line? = some line := held
    rw [waits, own]
  | asynchronous stream => simp only [waits, line?, held.1, held.2]

/-- A change from the other end of a line changes the line that is held. Whether a second handle to
the line can be had, `shareable`, is not known any more to a stream that holds its halves apart. -/
theorem Holds.onLine (change : Line → Line) (held : endpoint.Holds line) :
    ∃ shareable, (endpoint.onLine change).Holds (change { line with shareable }) := by
  cases endpoint with
  | blocking stream => exact ⟨line.shareable, congrArg (Option.map change) held⟩
  | asynchronous stream =>
    refine ⟨true, ?_⟩
    simp only [Endpoint.onLine, held.1, held.2]
    exact ⟨rfl, rfl⟩

/-- What is written does not matter to what comes in: after `write` the stream holds the line with
another `toOutgoing`. -/
theorem Shape.write_holds (buffers : List Buffer) (pool : Pool) (shape : endpoint.Shape .opened)
    (held : endpoint.Holds line) :
    ∃ outgoing,
      (endpoint.write none buffers pool).stream.Holds { line with toOutgoing := outgoing } := by
  rcases shape.cases_of_holds held with ⟨interrupt, rfl⟩ | rfl
  · exact ⟨_, rfl⟩
  · exact ⟨(Asynchronous.writeTask (buffers.map (·.content)) line.toOutgoing none).2, rfl, rfl⟩

/-- A read that waits until the stream is closed does not run out of time: its result is not
`hindered`. -/
theorem Shape.read_endless (pool : Pool) (size : Nat) (shape : endpoint.Shape .opened)
    (held : endpoint.Holds line)
    (endless : (line.toIncoming.fill setup.timed none size).1 = .error .closed) :
    hindered (endpoint.read setup none size pool).result = false := by
  rcases shape.cases_of_holds held with ⟨interrupt, rfl⟩ | rfl
  · simp [read, Outcome.lift, Blocking.read, endless, Blocking.giveUp, hindered]
  · simp [read, Outcome.lift, Asynchronous.read, Asynchronous.readTask, Asynchronous.noticed,
      endless, Asynchronous.giveUp, hindered]

/-- **A read takes the first bytes of the arrivals**, be it to hand them out or to give them up: it
`Takes` a piece, and the stream holds the rest. -/
theorem Shape.read_takes (pool : Pool) (reading : Reading) (shape : endpoint.Shape .opened)
    (held : endpoint.Holds line)
    (waited : (line.toIncoming.fill setup.timed none reading.size).1 ≠ .error .closed) :
    let outcome := endpoint.read setup none reading.size pool
    ∃ piece rest, outcome.stream.Holds { line with arrivals := rest } ∧
      Takes setup (.read reading) (outcome.result.map fun buffer => some buffer.content)
        line.arrivals piece rest := by
  intro outcome
  obtain ⟨-, holds, told⟩ := shape.read_holds pool reading.size held waited
  generalize outcome.stream = stream at holds
  generalize outcome.result = result at told
  have filled := fillFrom_filled setup.timed (line.toIncoming.last setup.timed) reading.size
    line.arrivals
  simp only [Incoming.fill] at holds told
  cases filling : fillFrom setup.timed (line.toIncoming.last setup.timed) reading.size
    line.arrivals with
  | mk taken rest =>
    rw [filling] at holds told filled
    cases taken with
    | ok content =>
      cases told with
      | full content_eq =>
        cases filled with
        | full enough left kept =>
          refine ⟨(bytesOf line.arrivals).take reading.size, rest, holds, ?_⟩
          rw [Except.map, content_eq]
          refine .got (List.length_take_of_le enough) ?_
          rw [left, List.take_append_drop]
    | error shortfall =>
      obtain ⟨error, rfl⟩ := told.error
      obtain ⟨gone, few, givenUp⟩ := fillFrom_eq_error filling
      exact ⟨bytesOf gone, rest, holds, .lost few givenUp⟩

end Endpoint

namespace Client

variable {setup : Setup} {candidates : Candidates} {client : Client} {line : Line}

/-- An open stream is open or closed after whatever is done: no use takes it back to `.fresh`. -/
theorem next_opened (setup : Setup) (candidates : Candidates) (use : Use)
    (opened : client.phase = .opened) :
    client.next setup candidates use = .opened ∨ client.next setup candidates use = .closed := by
  unfold next
  split
  · exact .inl opened
  · rw [opened]
    cases use with
    | start | read | write =>
      simp only [Phase.next]
      split
      · simp
      · simp
    | close => exact .inr rfl
    | isClosed | take | put | release | wait => exact .inl rfl

/-- A read that the stream does not offer changes nothing: it fails by `.unsupported`, and the
client is the same. -/
theorem unoffered_reading (setup : Setup) (candidates : Candidates) (reading : Reading)
    {error : TransportError}
    (unoffered : client.refusal? reading.call reading.insideRuntime = some error) :
    ∃ kind family, client.perform setup candidates reading.use =
      (⟨.error (.unsupported kind family), []⟩, client) := by
  obtain ⟨kind, family, rfl⟩ := Mode.unsupported_of_refusal? unoffered
  exact ⟨kind, family, unoffered_perform rfl unoffered⟩

/-- A read that the stream offers takes a piece of what arrives, if the stream stays open:
`read_takes` for the client. -/
theorem takes_reading (reading : Reading) (shape : client.endpoint.Shape .opened)
    (held : client.endpoint.Holds line)
    (offered : client.refusal? reading.call reading.insideRuntime = none)
    (stays : (client.perform setup candidates reading.use).2.phase = .opened) :
    let after := client.perform setup candidates reading.use
    ∃ piece rest, after.2.endpoint.Holds { line with arrivals := rest } ∧
      Takes setup (.read reading) after.1.bytes line.arrivals piece rest := by
  intro after
  obtain ⟨bytes_eq, stream_eq⟩ := reading_perform setup candidates reading offered
  have waited : (line.toIncoming.fill setup.timed none reading.size).1 ≠ .error .closed := by
    intro endless
    have waits : client.endpoint.waits setup reading.size = true := by
      rw [held.waits_eq]
      exact Incoming.closedMeanwhile_none.mpr endless
    have taken := shape.read_opened setup client.pool none reading.size
    rw [← stream_eq, waits] at taken
    cases stays.symm.trans taken.phase_eq
  simp only [after, bytes_eq, stream_eq]
  exact shape.read_takes client.pool reading held waited

/-- No bytes are learnt from what is only done: `Report.bytes` of `.done` is `none`. -/
theorem bytes_done (result : Except TransportError Unit) :
    Report.bytes ⟨result.map fun _ => .done, []⟩ = result.map fun _ => none := by
  cases result <;> rfl

/-- **A read that runs out of time leaves the stream open**: after `.readTimeout` the phase is
`.opened`. -/
theorem opened_of_timedOut (reading : Reading) (shape : client.endpoint.Shape .opened)
    (held : client.endpoint.Holds line) {address : Address}
    (timedOut : (client.perform setup candidates reading.use).1.bytes =
      .error (.readTimeout address)) :
    (client.perform setup candidates reading.use).2.phase = .opened := by
  cases refused : client.refusal? reading.call reading.insideRuntime with
  | some error =>
    obtain ⟨kind, family, performed⟩ := unoffered_reading setup candidates reading refused
    rw [performed] at timedOut
    cases timedOut
  | none =>
    obtain ⟨bytes_eq, stream_eq⟩ := reading_perform setup candidates reading refused
    have waited : (line.toIncoming.fill setup.timed none reading.size).1 ≠ .error .closed := by
      intro endless
      have calm := shape.read_endless client.pool reading.size held endless
      rw [← hindered_map fun buffer => some buffer.content, ← bytes_eq, timedOut] at calm
      cases calm
    have after := (shape.read_holds client.pool reading.size held waited).1
    rw [← stream_eq] at after
    exact after.phase_eq

/-- **A read of bytes that are there gets them**, if nothing that arrives hinders it: the result is
the first `size` of `pending`. -/
theorem reading_gets (reading : Reading) (shape : client.endpoint.Shape .opened)
    (held : client.endpoint.Holds line)
    (offered : client.refusal? reading.call reading.insideRuntime = none)
    (enough : reading.size ≤ line.pending.length)
    (smooth : ∀ arrival ∈ line.arrivals, ¬Hinders setup.timed arrival) :
    let after := client.perform setup candidates reading.use
    after.1.bytes = .ok (some (line.pending.take reading.size)) ∧ after.2.phase = .opened := by
  intro after
  obtain ⟨bytes_eq, stream_eq⟩ := reading_perform setup candidates reading offered
  have filled := fillFrom_filled setup.timed (line.toIncoming.last setup.timed) reading.size
    line.arrivals
  have content_eq : (line.toIncoming.fill setup.timed none reading.size).1 =
      .ok (line.pending.take reading.size) := by
    simp only [Incoming.fill]
    generalize fillFrom setup.timed (line.toIncoming.last setup.timed) reading.size
      line.arrivals = filling at filled
    cases filled with
    | full => rfl
    | short few => exact absurd enough (Nat.not_le.mpr few)
    | outOfTime limited met => exact absurd (.silence limited) (smooth _ met)
    | failed lasting met => exact absurd (.failure lasting) (smooth _ met)
  obtain ⟨opened, -, told⟩ := shape.read_holds client.pool reading.size held
    (by rw [content_eq]; simp)
  rw [content_eq] at told
  rw [← stream_eq] at opened
  refine ⟨?_, opened.phase_eq⟩
  rw [bytes_eq]
  generalize (client.endpoint.read setup none reading.size client.pool).result = result at told
  cases told with
  | full holds => rw [Except.map, holds]

/-- **What a turn of an open stream takes**, if the stream stays open: one case for each kind of
turn, and only reads take anything. -/
theorem takes_perform (turn : Turn) (shape : client.endpoint.Shape .opened)
    (held : client.endpoint.Holds line)
    (stays : (client.perform setup candidates turn.use).2.phase = .opened) :
    let after := client.perform setup candidates turn.use
    ∃ piece next, after.2.endpoint.Holds next ∧
      Takes setup turn after.1.bytes line.arrivals piece next.arrivals := by
  cases turn with
  | read reading =>
    cases refused : client.refusal? reading.call reading.insideRuntime with
    | none =>
      obtain ⟨piece, rest, holds, takes⟩ := takes_reading reading shape held refused stays
      exact ⟨piece, _, holds, takes⟩
    | some error =>
      obtain ⟨kind, family, performed⟩ := unoffered_reading setup candidates reading refused
      rw [Turn.use, performed]
      exact ⟨[], line, held, .refused⟩
  | write call inside places =>
    cases refused : client.refusal? call inside with
    | none =>
      obtain ⟨outgoing, holds⟩ :=
        shape.write_holds (client.shelf.takeAll places).1 client.pool held
      simp only [Turn.use, perform, write, refused, bytes_done]
      exact ⟨[], _, holds, .written _⟩
    | some error =>
      have performed : client.perform setup candidates (.write call inside none places) =
          (⟨.error error, []⟩, client.denied (.write call inside none places)) :=
        unoffered_perform rfl refused
      rw [Turn.use, performed]
      exact ⟨[], line, held, .written (.error error)⟩
  | arrive more =>
    obtain ⟨shareable, holds⟩ := held.onLine fun line =>
      { line with arrivals := line.arrivals ++ more }
    exact ⟨[], _, holds, .arrived⟩
  | finish =>
    obtain ⟨shareable, holds⟩ := held.onLine Line.finish
    exact ⟨[], _, holds, .finished⟩

/-- **What turns of an open stream take**, if the stream is open after them: a `Course`, by
induction on the turns. It is open in between, as a closed stream stays closed. -/
theorem course_performAll (turns : List Turn) (shape : client.endpoint.Shape .opened)
    (held : client.endpoint.Holds line)
    (stays : (client.performAll setup candidates (turns.map Turn.use)).2.phase = .opened) :
    let after := client.performAll setup candidates (turns.map Turn.use)
    ∃ pieces last, after.2.endpoint.Holds last ∧
      Course setup turns (after.1.map Report.bytes) line.arrivals pieces last.arrivals := by
  induction turns generalizing client line with
  | nil => exact ⟨[], line, held, .done⟩
  | cons turn turns ih =>
    rw [List.map_cons, performAll_cons] at stays
    -- A stream that was closed in the first turn would be closed after the others.
    have taken := shape_perform setup candidates turn.use shape.at_phase
    have opened : (client.perform setup candidates turn.use).2.endpoint.Shape .opened := by
      obtain next | next := next_opened setup candidates turn.use shape.phase_eq
      · rwa [next] at taken
      · rw [next] at taken
        cases stays.symm.trans (closed_performAll _ taken.at_phase taken.phase_eq)
    obtain ⟨piece, between, holds, takes⟩ := takes_perform turn shape held opened.phase_eq
    obtain ⟨pieces, last, holds, course⟩ := ih opened holds stays
    exact ⟨piece :: pieces, last, holds, .turn takes course⟩

end Client

/-! ## Streams that stay open -/

/-- **A stretch of turns of a stream** that was used in any way before, holds a line then, and is
open after all turns. -/
structure Stretch where
  setup : Setup
  candidates : Candidates
  /-- What was done with the stream before. -/
  uses : List Use
  line : Line
  turns : List Turn
  held : (Client.performAll setup candidates uses (.fresh setup.mode)).2.endpoint.line? = some line
  stays : ((Client.performAll setup candidates uses (.fresh setup.mode)).2.performAll setup
    candidates (turns.map Turn.use)).2.phase = .opened

namespace Stretch

/-- The client before the turns, as `uses` left it. -/
def client (stretch : Stretch) : Client :=
  (Client.performAll stretch.setup stretch.candidates stretch.uses (.fresh stretch.setup.mode)).2

/-- The client after the turns. -/
def after (stretch : Stretch) : Client :=
  (stretch.client.performAll stretch.setup stretch.candidates (stretch.turns.map Turn.use)).2

/-- What the turns come to, one result for each. It is `.ok none` for a turn that is no read and
succeeds. -/
def results (stretch : Stretch) : List Result :=
  (stretch.client.performAll stretch.setup stretch.candidates
    (stretch.turns.map Turn.use)).1.map Report.bytes

/-- The bytes that the other end sends: those on the line before the turns, and those that come in
them. -/
def sent (stretch : Stretch) : List UInt8 :=
  stretch.line.pending ++ stretch.turns.flatMap Turn.brings

/-- Turns of a stream that was connected to a line on which nothing is. -/
def ofTurns (setup : Setup) (turns : List Turn)
    (stays : ((Client.performAll setup (.ok [.ok {}]) [.start setup.mode false]
      (.fresh setup.mode)).2.performAll setup (.ok [.ok {}]) (turns.map Turn.use)).2.phase =
        .opened) : Stretch where
  setup
  candidates := .ok [.ok {}]
  uses := [.start setup.mode false]
  line := {}
  turns
  held := by
    obtain ⟨mode, address, settings⟩ := setup
    cases mode <;> rfl
  stays

/-- The stream has the form of an open one after the turns: `Shape .opened`, by `stays`. -/
theorem shape_after (stretch : Stretch) : stretch.after.endpoint.Shape .opened := by
  have shape : stretch.after.endpoint.Shape stretch.after.phase :=
    Client.shape_performAll _ _ _ (Client.shape_performAll _ _ _ (Client.shape_fresh _))
  have opened : stretch.after.phase = .opened := stretch.stays
  rwa [opened] at shape

end Stretch

/-- **Reads go on behind what was taken.** While a stream of either sort stays open that was used in
any way before, whatever arrives and whenever, there is a piece of bytes for each turn such that:

* all pieces, one after the other, and what is left on the line are what the other end has sent;
* a read that succeeds gets its piece, which has the size that it asks for; a read that fails has
  given its piece up, which is smaller than that or empty;
* each piece follows those of the turns before, so what is received stands in the order in which it
  was sent, and is the beginning of it if no read that failed had taken any bytes.

A read that runs out of time leaves the stream open, and a read of bytes that are there gets
them. -/
theorem reads_go_on (stretch : Stretch) :
    ∃ pieces last, stretch.after.endpoint.Holds last ∧
      Course stretch.setup stretch.turns stretch.results stretch.line.arrivals pieces
        last.arrivals ∧
      stretch.sent = pieces.flatten ++ last.pending ∧
      (∀ index reading, stretch.turns[index]? = some (.read reading) →
        ∃ result piece, stretch.results[index]? = some result ∧ pieces[index]? = some piece ∧
          piece = (stretch.sent.drop (pieces.take index).flatten.length).take piece.length ∧
          match result with
          | .ok content => content = some piece ∧ piece.length = reading.size
          | .error _ => piece = [] ∨ piece.length < reading.size) ∧
      (received stretch.results).Sublist stretch.sent ∧
      ((∀ (index : Nat) (error : TransportError),
          stretch.results[index]? = some (.error error) → pieces[index]? = some []) →
        received stretch.results <+: stretch.sent) ∧
      ∀ reading : Reading,
        let next := stretch.after.perform stretch.setup stretch.candidates reading.use
        ((∃ address, next.1.bytes = .error (.readTimeout address)) → next.2.phase = .opened) ∧
          (stretch.setup.mode.refusal? reading.call reading.insideRuntime = none →
            reading.size ≤ last.pending.length →
            (∀ arrival ∈ last.arrivals, ¬Hinders stretch.setup.timed arrival) →
            next.1.bytes = .ok (some (last.pending.take reading.size)) ∧
              next.2.phase = .opened) := by
  obtain ⟨shape, held⟩ := Client.opened_of_line? stretch.held
  obtain ⟨pieces, last, holds, course⟩ :=
    Client.course_performAll stretch.turns shape held stretch.stays
  have whole : stretch.sent = pieces.flatten ++ last.pending := course.bytes_eq
  refine ⟨pieces, last, holds, course, whole, fun index reading asked => ?each, ?order,
    fun kept => ?start, fun reading => ?next⟩
  case each =>
    obtain ⟨result, piece, before, after, got, taken, takes⟩ := course.takes_of_getElem? asked
    refine ⟨result, piece, got, taken, ?_, ?_⟩
    · rw [whole]
      exact piece_eq taken last.pending
    · cases takes with
      | got size_eq => exact ⟨rfl, size_eq⟩
      | lost few => exact .inr few
      | refused => exact .inl rfl
  case order =>
    rw [whole]
    exact course.received_sublist.trans (List.sublist_append_left ..)
  case start =>
    rw [whole]
    exact course.received_eq kept ▸ List.prefix_append ..
  case next =>
    have opened : stretch.after.endpoint.Shape .opened := stretch.shape_after
    refine ⟨fun ⟨address, timedOut⟩ => ?_, fun offered => ?_⟩
    · exact Client.opened_of_timedOut reading opened holds timedOut
    · refine Client.reading_gets reading opened holds ?_
      have mode_eq : stretch.after.endpoint.mode = stretch.setup.mode :=
        (Client.mode_performAll ..).trans
          ((Client.mode_performAll ..).trans (Endpoint.mode_fresh _))
      rw [Client.refusal?, mode_eq, offered]

/-- A read of one byte runs out of time before anything arrives, so nothing is lost by it: the two
bytes that the next read gets are the first, and the third is read after them. A read of two that
runs out of time behind the first byte has taken this one with it: the next read gets the second and
the third, which follow what was taken and not what was received. -/
theorem reads_go_on_late :
    (let stretch := Stretch.ofTurns ⟨.blocking, .localhost, { readTimeoutMs := 30 }⟩
      [.read ⟨.blocking, true, 1⟩, .arrive [.chunk [1], .chunk [2, 3]],
        .read ⟨.blocking, false, 2⟩] rfl
    stretch.results = [.error (.readTimeout .localhost), .ok none, .ok (some [1, 2])] ∧
      stretch.sent = [1, 2, 3] ∧ received stretch.results <+: stretch.sent ∧
      (stretch.after.perform stretch.setup stretch.candidates
        (.read .blocking false none 1)).1.bytes = .ok (some [3])) ∧
    let stretch := Stretch.ofTurns ⟨.blocking, .localhost, { readTimeoutMs := 30 }⟩
      [.arrive [.chunk [1]], .read ⟨.blocking, false, 2⟩, .arrive [.chunk [2, 3]],
        .read ⟨.blocking, false, 2⟩] rfl
    stretch.results = [.ok none, .error (.readTimeout .localhost), .ok none, .ok (some [2, 3])] ∧
      stretch.sent = [1, 2, 3] ∧ (received stretch.results).Sublist stretch.sent ∧
      ∃ pieces last, Course stretch.setup stretch.turns stretch.results stretch.line.arrivals
          pieces last ∧
        pieces[3]? = some [2, 3] ∧ (pieces.take 3).flatten.length = 1 := by
  constructor
  · intro stretch
    obtain ⟨pieces, last, holds, -, -, each, -, start, next⟩ := reads_go_on stretch
    refine ⟨rfl, rfl, start fun index error failed => ?_, ?_⟩
    · match index with
      | 0 =>
        obtain ⟨result, piece, got, taken, -, small⟩ := each 0 ⟨.blocking, true, 1⟩ rfl
        cases got
        obtain rfl | small := small
        · exact taken
        · rw [taken, List.length_eq_zero_iff.mp (Nat.lt_one_iff.mp small)]
      | 1 | 2 => cases failed
      | index + 3 => cases failed
    · cases Option.some.inj holds
      refine ((next ⟨.blocking, false, 1⟩).2 rfl (by decide) fun arrival listed => ?_).1
      obtain rfl := List.mem_singleton.mp listed
      rintro ⟨⟩
  · intro stretch
    obtain ⟨pieces, last, -, course, -, each, sublist, -⟩ := reads_go_on stretch
    obtain ⟨result, piece, got, taken, follows, whole⟩ := each 3 ⟨.blocking, false, 2⟩ rfl
    cases got
    obtain rfl := Option.some.inj whole.1
    refine ⟨rfl, rfl, sublist, pieces, last.arrivals, course, taken, ?_⟩
    -- The second and the third byte follow one byte only, so this is what was taken before.
    have follows : ([2, 3] : List UInt8) =
        (([1, 2, 3] : List UInt8).drop (pieces.take 3).flatten.length).take 2 := follows
    generalize (pieces.take 3).flatten.length = before at follows ⊢
    match before with
    | 0 | 2 => cases follows
    | 1 => rfl
    | before + 3 => simp at follows

/-- **A read that runs out of time loses what it had taken.** Of three bytes the first arrives in
time for a read of two, which is given up; the next read gets the second and the third. -/
theorem timedOut_read_loses_byte :
    let turns : List Turn := [.arrive [.chunk [1]], .read ⟨.blocking, false, 2⟩,
      .arrive [.chunk [2, 3]], .read ⟨.blocking, false, 2⟩]
    let blocking := Stretch.ofTurns ⟨.blocking, .localhost, { readTimeoutMs := 30 }⟩ turns rfl
    let asynchronous :=
      Stretch.ofTurns ⟨.asynchronous, .localhost, { readTimeoutMs := 30 }⟩ turns rfl
    blocking.results =
        [.ok none, .error (.readTimeout .localhost), .ok none, .ok (some [2, 3])] ∧
      asynchronous.results = blocking.results ∧ blocking.sent = [1, 2, 3] ∧
      asynchronous.sent = blocking.sent ∧ ¬received blocking.results <+: blocking.sent :=
  ⟨rfl, rfl, rfl, rfl, by decide⟩

end DocumentCursor.Stream
