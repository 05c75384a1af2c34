import DocumentCursor.Stream.Client

/-! # The life of a stream

A stream is fresh, open or closed. A fresh one is connected, or closed if it cannot be; an open one
reads and writes until it is closed; a closed one stays closed. The two sorts of streams keep
different things for this: one a line and a handle that breaks it off, the other two halves of a
line that tasks check out and a signal that stops the tasks. Each of them has exactly the shape of
the phase that it is in, and so both live the same life.

* **`Blocking.Shape`** and **`Asynchronous.Shape`**: all that a stream may be in a phase.
* **`Phase.refusal?`** and **`Phase.next`**: the machine that both sorts of streams are.
* **`Follows`**: what is asked of a stream is met as the machine says.
* **`Client.follows_perform`** and **`Client.shape_performAll`**: one step of it, and every run.
* **`streams_live_alike`**: in every run, of either sort of stream.
-/

namespace DocumentCursor.Stream

open Net

variable {setup : Setup} {candidates : Candidates} {phase : Phase} {pool : Pool}

/-! ## The machine -/

/-- What connecting comes to for a stream of a mode: `connectWhileTimedOut` for a blocking stream,
`connectUntilReached` for an asynchronous one. -/
def Mode.connect (mode : Mode) (address : Address) (candidates : Candidates) : Connecting Line :=
  match mode with
  | .blocking => connectWhileTimedOut address candidates
  | .asynchronous => connectUntilReached address candidates

/-- A stream does not support what it does not offer: every `refusal?` of a mode is an
`.unsupported`. -/
theorem Mode.unsupported_of_refusal? {stream call : Mode} {inside : Bool} {error : TransportError}
    (h : stream.refusal? call inside = some error) :
    ∃ kind family, error = .unsupported kind family := by
  unfold Mode.refusal? at h
  split at h
  · exact ⟨_, _, (Option.some.inj h).symm⟩
  · exact ⟨_, _, (Option.some.inj h).symm⟩
  · cases h

/-- Why a stream in a phase refuses what is asked of it, if it does: `.alreadyOpen`, `.notOpen` or
`.closed`. -/
def Phase.refusal? : Phase → Use → Option TransportError
  | opened, .start .. => some .alreadyOpen
  | closed, .start .. => some .closed
  | fresh, .read .. | fresh, .write .. => some .notOpen
  | closed, .read .. | closed, .write .. => some .closed
  | _, _ => none

/-- The phase after something that was asked and not refused, given whether a candidate was reached
and whether the stream was closed from elsewhere meanwhile. -/
def Phase.next (reached cut : Bool) : Phase → Use → Phase
  | _, .start .. => if reached then opened else closed
  | phase, .read .. | phase, .write .. => if cut then closed else phase
  | _, .close => closed
  | phase, _ => phase

/-! ## Reads that do not end -/

namespace Incoming

/-- What is left at the end says so only if it is met: `fillFrom` falls short by `.closed` only if
that is its `last` shortfall. -/
theorem fillFrom_eq_closed {timed : Bool} {last : Shortfall} {wanted : Nat}
    {arrivals : List Arrival} (h : (fillFrom timed last wanted arrivals).1 = .error .closed) :
    last = .closed := by
  -- No arrival is taken for a close, so only the end of the arrivals can say so.
  fun_induction fillFrom timed last wanted arrivals with
  | case1 => cases h
  | case2 => exact Except.error.inj h
  | case3 => cases h
  | case4 wanted arrivals untimed ih => exact ih h
  | case5 wanted error arrivals again ih => exact ih h
  | case6 => cases h
  | case7 wanted bytes arrivals fits filled rest filling ih =>
    rw [filling] at ih
    cases filled with
    | ok content => cases h
    | error shortfall => exact ih h
  | case8 => cases h

/-- A buffer is left unfilled for ever only without a time limit, and only if the other end may
still send: with a limit the `last` shortfall is `.timedOut`. -/
theorem fill_eq_closed {timed : Bool} {wanted : Nat} {incoming : Incoming}
    (h : (incoming.fill timed none wanted).1 = .error .closed) :
    timed = false ∧ incoming.ended = false := by
  have last := fillFrom_eq_closed h
  unfold Incoming.last at last
  split at last
  · cases last
  · split at last
    · cases last
    · rename_i ended timed
      exact ⟨Bool.eq_false_iff.mpr timed, Bool.eq_false_iff.mpr ended⟩

/-- A stream that is not told when it is closed finds that it was if its read ended so:
`closedMeanwhile none filled` exactly if `filled` is `.error .closed`. -/
theorem closedMeanwhile_none {filled : Except Shortfall (List UInt8)} :
    closedMeanwhile none filled = true ↔ filled = .error .closed := by
  unfold closedMeanwhile
  split <;> simp_all

end Incoming

/-! ## Blocking streams -/

namespace Blocking

variable {stream : Blocking}

/-- **What a blocking stream is in a phase.** It holds a line exactly while it is open, and an
interrupt only then. A closed one may never have been opened. -/
inductive Shape : Phase → Blocking → Prop
  | fresh : Shape .fresh {}
  | opened (line : Line) (interrupt : Bool) :
    Shape .opened { opened := true, channel := some line, interrupt }
  | closed (opened : Bool) : Shape .closed { opened, closed := true }

theorem Shape.phase_eq (h : Shape phase stream) : stream.phase = phase := by
  cases h <;> rfl

theorem Shape.close (h : Shape phase stream) : Shape .closed stream.close := by
  cases h <;> exact .closed _

/-- Connecting a fresh stream comes to what connecting to its candidates comes to: the result and
the attempts are those of `connectWhileTimedOut`, and a failure leaves the stream closed. -/
theorem start_fresh :
    ({} : Blocking).start setup candidates =
      let connecting := connectWhileTimedOut setup.address candidates
      { attempts := connecting.attempts
        result := connecting.result.map fun _ => ()
        stream := match connecting.result with
          | .ok line => { opened := true, channel := some line, interrupt := line.shareable }
          | .error _ => { opened := true, closed := true } } := by
  simp only [start, Bool.false_eq_true, if_false]
  split <;> rename_i connected <;> rw [connected] <;> rfl

/-- The stream after a read of an open stream, which stays open unless it was closed meanwhile: by
the number of arrivals in `before`, or as nothing else ends its wait. -/
theorem shape_read (before : Option Nat) (size : Nat) (line : Line) (interrupt : Bool) :
    Shape
      (if before.isSome ||
          Incoming.closedMeanwhile none (line.toIncoming.fill setup.timed none size).1
        then .closed else .opened)
      (read setup before size { opened := true, channel := some line, interrupt } pool).stream := by
  cases before with
  | none =>
    simp only [read, ite_self, Option.isSome_none, Bool.false_or]
    split <;> split
    · exact .closed true
    · exact .closed true
    · exact .opened _ _
    · exact .opened _ _
  | some number =>
    simp only [read, Incoming.closedMeanwhile, Option.isSome_some, Bool.true_or, if_true]
    split <;> exact .closed true

/-- The stream after a write of an open stream, which stays open unless it was closed meanwhile, as
`before` says. A failed write closes nothing. -/
theorem shape_write (before : Option Nat) (buffers : List Buffer) (line : Line)
    (interrupt : Bool) :
    Shape (if before.isSome then .closed else .opened)
      (write before buffers { opened := true, channel := some line, interrupt } pool).stream := by
  cases before with
  | none => exact .opened _ _
  | some number => exact .closed true

end Blocking

/-! ## Asynchronous streams -/

namespace Asynchronous

variable {stream : Asynchronous}

/-- **What an asynchronous stream is in a phase.** It holds both halves of a line exactly while it
is open, and tells tasks to stop exactly when it is closed. -/
inductive Shape : Phase → Asynchronous → Prop
  | fresh : Shape .fresh {}
  | opened (incoming : Incoming) (outgoing : Outgoing) :
    Shape .opened { opened := true, reader := some incoming, writer := some outgoing }
  | closed (opened : Bool) : Shape .closed { opened, closed := true, shutdown := true }

theorem Shape.phase_eq (h : Shape phase stream) : stream.phase = phase := by
  cases h <;> rfl

theorem Shape.close (h : Shape phase stream) : Shape .closed stream.close := by
  cases h <;> exact .closed _

/-- Connecting a fresh stream comes to what connecting to its candidates comes to: the result and
the attempts are those of `connectUntilReached`, and a failure leaves the stream closed. -/
theorem start_fresh :
    ({} : Asynchronous).start setup candidates =
      let connecting := connectUntilReached setup.address candidates
      { attempts := connecting.attempts
        result := connecting.result.map fun _ => ()
        stream := match connecting.result with
          | .ok line =>
            { opened := true, reader := some line.toIncoming, writer := some line.toOutgoing }
          | .error _ => { opened := true, closed := true, shutdown := true } } := by
  simp only [start, connectTask, install, Bool.false_eq_true, if_false]
  cases connected : (connectUntilReached setup.address candidates).result <;> rfl

/-- The stream after a read of an open stream, which stays open unless it was closed meanwhile: its
reader comes back from the task that read. -/
theorem shape_read (before : Option Nat) (size : Nat) (incoming : Incoming) (outgoing : Outgoing) :
    Shape
      (if before.isSome || Incoming.closedMeanwhile none (incoming.fill setup.timed none size).1
        then .closed else .opened)
      (read setup before size { opened := true, reader := some incoming, writer := some outgoing }
        pool).stream := by
  cases before with
  | none =>
    simp only [read, readTask, noticed, Bool.false_eq_true, if_false, Option.isSome_none,
      Bool.false_or]
    -- The half is checked in again, unless the read waited until the stream was closed.
    split <;> split
    · exact .closed true
    · exact .closed true
    · exact .opened _ _
    · exact .opened _ _
  | some number =>
    simp only [read, Incoming.closedMeanwhile, Option.isSome_some, Bool.true_or, if_true]
    split <;> exact .closed true

/-- The stream after a write of an open stream, which stays open unless it was closed meanwhile: its
writer comes back from the task that wrote. -/
theorem shape_write (before : Option Nat) (buffers : List Buffer) (incoming : Incoming)
    (outgoing : Outgoing) :
    Shape (if before.isSome then .closed else .opened)
      (write before buffers { opened := true, reader := some incoming, writer := some outgoing }
        pool).stream := by
  cases before with
  | none => exact .opened _ _
  | some number => exact .closed true

end Asynchronous

/-! ## Streams of either mode -/

namespace Endpoint

variable {endpoint : Endpoint}

/-- What a stream of either mode is in a phase: the `Shape` of its mode. -/
def Shape (phase : Phase) : Endpoint → Prop
  | blocking stream => stream.Shape phase
  | asynchronous stream => stream.Shape phase

/-- A stream holds a line, all of it: an asynchronous one holds its halves apart, as `reader` and
`writer`. -/
def Holds (line : Line) : Endpoint → Prop
  | blocking stream => stream.channel = some line
  | asynchronous stream =>
    stream.reader = some line.toIncoming ∧ stream.writer = some line.toOutgoing

/-- A stream holds nothing of a line, neither a channel with its interrupt nor a half. -/
def Empty : Endpoint → Prop
  | blocking stream => stream.channel = none ∧ stream.interrupt = false
  | asynchronous stream => stream.reader = none ∧ stream.writer = none

/-- Whether a read waits until the stream is closed from elsewhere: nothing that arrives, and no
time limit, ends it. -/
def waits (setup : Setup) (size : Nat) (endpoint : Endpoint) : Bool :=
  match endpoint.line? with
  | none => false
  | some line => Incoming.closedMeanwhile none (line.toIncoming.fill setup.timed none size).1

theorem holds_of_line? {line : Line} (h : endpoint.line? = some line) : endpoint.Holds line := by
  cases endpoint with
  | blocking stream => exact h
  | asynchronous stream =>
    simp only [line?] at h
    split at h
    · rename_i reader writer
      cases h
      exact ⟨reader, writer⟩
    · cases h

/-- **A read waits for ever only without a time limit**, and only if the other end may still send:
`waits` gives `timed = false` and a line with `ended = false`. -/
theorem untimed_of_waits {size : Nat} (waiting : endpoint.waits setup size = true) :
    setup.timed = false ∧ ∃ line, endpoint.Holds line ∧ line.ended = false := by
  unfold waits at waiting
  split at waiting
  · cases waiting
  · rename_i line held
    obtain ⟨untimed, unended⟩ :=
      Incoming.fill_eq_closed (Incoming.closedMeanwhile_none.mp waiting)
    exact ⟨untimed, line, holds_of_line? held, unended⟩

theorem Shape.phase_eq (h : endpoint.Shape phase) : endpoint.phase = phase := by
  cases endpoint with
  | blocking stream => exact Blocking.Shape.phase_eq h
  | asynchronous stream => exact Asynchronous.Shape.phase_eq h

theorem Shape.at_phase (h : endpoint.Shape phase) : endpoint.Shape endpoint.phase :=
  h.phase_eq.symm ▸ h

theorem shape_fresh (mode : Mode) : (fresh mode).Shape .fresh := by
  cases mode with
  | blocking => exact .fresh
  | asynchronous => exact .fresh

/-- A fresh stream is the one of its mode: there is one stream in `Shape .fresh`. -/
theorem Shape.eq_fresh (h : endpoint.Shape .fresh) : endpoint = fresh endpoint.mode := by
  cases endpoint with
  | blocking stream => cases h; rfl
  | asynchronous stream => cases h; rfl

/-- **A line is held exactly while a stream is open**: `Holds` in `.opened`, `Empty` in the other
two phases. -/
theorem Shape.holds (h : endpoint.Shape phase) :
    if phase = .opened then ∃ line, endpoint.Holds line else endpoint.Empty := by
  cases endpoint with
  | blocking stream =>
    cases h with
    | fresh | closed => exact ⟨rfl, rfl⟩
    | opened line => exact ⟨line, rfl⟩
  | asynchronous stream =>
    cases h with
    | fresh | closed => exact ⟨rfl, rfl⟩
    | opened incoming outgoing =>
      exact ⟨{ toIncoming := incoming, toOutgoing := outgoing }, rfl, rfl⟩

theorem Shape.closed_eq (h : endpoint.Shape phase) :
    endpoint.closed = decide (phase = .closed) := by
  cases endpoint <;> cases h <;> rfl

theorem Shape.close (h : endpoint.Shape phase) : endpoint.close.Shape .closed := by
  cases endpoint with
  | blocking stream => exact Blocking.Shape.close h
  | asynchronous stream => exact Asynchronous.Shape.close h

theorem close_close (endpoint : Endpoint) : endpoint.close.close = endpoint.close := by
  cases endpoint <;> rfl

/-- What happens on the way does not change the phase: `onLine change` keeps `Shape`. -/
theorem Shape.onLine (change : Line → Line) (h : endpoint.Shape phase) :
    (endpoint.onLine change).Shape phase := by
  cases endpoint with
  | blocking stream =>
    cases h with
    | fresh => exact .fresh
    | opened line interrupt => exact .opened (change line) interrupt
    | closed opened => exact .closed opened
  | asynchronous stream =>
    cases h with
    | fresh => exact .fresh
    | opened incoming outgoing => exact .opened _ _
    | closed opened => exact .closed opened

/-! ### Connecting -/

/-- **A fresh stream is connected** as its mode connects, and closed if it could not be: result and
attempts are those of `mode.connect`. -/
theorem start_fresh (setup : Setup) (candidates : Candidates) (mode : Mode) :
    let connecting := mode.connect setup.address candidates
    let starting := (fresh mode).start setup candidates
    starting.attempts = connecting.attempts ∧
      starting.result = connecting.result.map (fun _ => ()) ∧
      match connecting.result with
      | .ok line => starting.stream.Shape .opened ∧ starting.stream.Holds line
      | .error _ => starting.stream.Shape .closed := by
  cases mode with
  | blocking =>
    simp only [fresh, start, Blocking.start_fresh, Mode.connect, Starting.lift, true_and]
    split
    · exact ⟨.opened _ _, rfl⟩
    · exact .closed true
  | asynchronous =>
    simp only [fresh, start, Asynchronous.start_fresh, Mode.connect, Starting.lift, true_and]
    split
    · exact ⟨.opened _ _, rfl, rfl⟩
    · exact .closed true

/-- An open stream is not connected again: `start` fails by `.alreadyOpen` and leaves it as it
is. -/
theorem Shape.start_opened (h : endpoint.Shape .opened) :
    endpoint.start setup candidates = { result := .error .alreadyOpen, stream := endpoint } := by
  cases endpoint <;> cases h <;> rfl

/-- A closed stream is not connected: `start` fails by `.closed` and leaves it as it is. -/
theorem Shape.start_closed (h : endpoint.Shape .closed) :
    endpoint.start setup candidates = { result := .error .closed, stream := endpoint } := by
  cases endpoint <;> cases h <;> rfl

/-! ### Reading and writing -/

/-- A fresh stream does not read: `read` fails by `.notOpen`, and no buffer is taken from the
pool. -/
theorem Shape.read_fresh (before : Option Nat) (size : Nat) (h : endpoint.Shape .fresh) :
    endpoint.read setup before size pool = ⟨.error .notOpen, endpoint, pool⟩ := by
  cases endpoint <;> cases h <;> rfl

/-- A closed stream does not read: `read` fails by `.closed`, and no buffer is taken from the
pool. -/
theorem Shape.read_closed (before : Option Nat) (size : Nat) (h : endpoint.Shape .closed) :
    endpoint.read setup before size pool = ⟨.error .closed, endpoint, pool⟩ := by
  cases endpoint <;> cases h <;> rfl

/-- An open stream stays open when it reads, unless it is closed from elsewhere: a read that fails
leaves it open. -/
theorem Shape.read_opened (setup : Setup) (pool : Pool) (before : Option Nat) (size : Nat)
    (h : endpoint.Shape .opened) :
    (endpoint.read setup before size pool).stream.Shape
      (if before.isSome || endpoint.waits setup size then .closed else .opened) := by
  cases endpoint with
  | blocking stream =>
    cases h with
    | opened line interrupt => exact Blocking.shape_read before size line interrupt
  | asynchronous stream =>
    cases h with
    | opened incoming outgoing => exact Asynchronous.shape_read before size incoming outgoing

/-- A fresh stream does not write: `write` fails by `.notOpen`, and the buffers go back to the
pool. -/
theorem Shape.write_fresh (before : Option Nat) (buffers : List Buffer)
    (h : endpoint.Shape .fresh) :
    endpoint.write before buffers pool = ⟨.error .notOpen, endpoint, pool.dropAll buffers⟩ := by
  cases endpoint <;> cases h <;> rfl

/-- A closed stream does not write: `write` fails by `.closed`, and the buffers go back to the
pool. -/
theorem Shape.write_closed (before : Option Nat) (buffers : List Buffer)
    (h : endpoint.Shape .closed) :
    endpoint.write before buffers pool = ⟨.error .closed, endpoint, pool.dropAll buffers⟩ := by
  cases endpoint <;> cases h <;> rfl

/-- An open stream stays open when it writes, unless it is closed from elsewhere: a write that fails
leaves it open. -/
theorem Shape.write_opened (before : Option Nat) (buffers : List Buffer)
    (h : endpoint.Shape .opened) :
    (endpoint.write before buffers pool).stream.Shape
      (if before.isSome then .closed else .opened) := by
  cases endpoint with
  | blocking stream =>
    cases h with
    | opened line interrupt => exact Blocking.shape_write before buffers line interrupt
  | asynchronous stream =>
    cases h with
    | opened incoming outgoing => exact Asynchronous.shape_write before buffers incoming outgoing

end Endpoint

/-! ## What is asked of a stream -/

/-- The sort of call by which something is asked that a stream may not offer, and whether the call
is made inside the runtime. -/
def Use.call? : Use → Option (Mode × Bool)
  | .start call inside | .read call inside .. | .write call inside .. => some (call, inside)
  | _ => none

/-- Whether a call is made on the line of a stream: reads and writes are. -/
def Use.isOnLine : Use → Bool
  | .read .. | .write .. => true
  | _ => false

/-- Whether a stream is closed from elsewhere before it is done with something. A read that `waits`
ends in no other way. -/
def Use.cutOff (setup : Setup) (endpoint : Endpoint) : Use → Bool
  | .read _ _ before size => before.isSome || endpoint.waits setup size
  | .write _ _ before _ => before.isSome
  | _ => false

namespace Client

/-- Why the stream refuses what is asked of it, if it does: it may not offer the call in any phase,
or not allow it in the phase that it is in. The former comes first. -/
def refuses (use : Use) (client : Client) : Option TransportError :=
  (use.call?.bind fun (call, inside) => client.refusal? call inside).or
    (client.phase.refusal? use)

/-- What connecting the stream comes to: `Mode.connect` of its mode. -/
def connecting (setup : Setup) (candidates : Candidates) (client : Client) : Connecting Line :=
  client.endpoint.mode.connect setup.address candidates

/-- The phase to which something takes the stream, `Phase.next` for what is accepted. What is
refused leaves it where it is. -/
def next (setup : Setup) (candidates : Candidates) (use : Use) (client : Client) : Phase :=
  if (client.refuses use).isSome then client.phase
  else
    client.phase.next (client.connecting setup candidates).result.isOk
      (use.cutOff setup client.endpoint) use

/-- A client of whom something is refused. It lets go of the buffers that were to be written. -/
def denied (use : Use) (client : Client) : Client :=
  match use with
  | .write _ _ _ places =>
    let (buffers, shelf) := client.shelf.takeAll places
    { client with pool := client.pool.dropAll buffers, shelf }
  | _ => client

end Client

/-- **The stream of a client meets what is asked of it as the machine says.** -/
structure Follows (setup : Setup) (candidates : Candidates) (use : Use) (client : Client) :
    Prop where
  /-- What is refused is answered with the reason alone; nothing is tried, and the stream stays as
  it is. -/
  refused : ∀ error, client.refuses use = some error →
    client.perform setup candidates use = (⟨.error error, []⟩, client.denied use)
  /-- What the stream does not offer it does not support, in any phase. -/
  unsupported : ∀ call inside, use.call? = some (call, inside) →
    (client.refusal? call inside).isSome →
    ∃ kind family, (client.perform setup candidates use).1.result =
      .error (.unsupported kind family)
  /-- The stream goes to the next phase. -/
  moves : (client.perform setup candidates use).2.phase = client.next setup candidates use
  /-- A stream that is connected tells what connecting comes to. -/
  connects : ∀ call inside, use = .start call inside → client.refuses use = none →
    (client.perform setup candidates use).1 =
      ⟨(client.connecting setup candidates).result.map fun _ => .done,
        (client.connecting setup candidates).attempts⟩
  /-- Whether the stream is closed is told as it is. -/
  tells : use = .isClosed →
    (client.perform setup candidates use).1.result =
      .ok (.flag (decide (client.phase = .closed)))
  /-- Closing twice is closing once. -/
  closes : use = .close →
    (client.perform setup candidates use).2.close = (client.perform setup candidates use).2

namespace Client

variable {client : Client} {use : Use} {error : TransportError}

/-! ### One thing -/

@[simp] theorem endpoint_denied : (client.denied use).endpoint = client.endpoint := by
  cases use <;> rfl

/-- A call that the stream does not offer is not made: `perform` gives the reason and `denied`, in
every phase. -/
theorem unoffered_perform {call : Mode} {inside : Bool} (asked : use.call? = some (call, inside))
    (unoffered : client.refusal? call inside = some error) :
    client.perform setup candidates use = (⟨.error error, []⟩, client.denied use) := by
  cases use <;> cases asked <;> simp [perform, start, read, write, denied, unoffered, Except.map]

/-- What the phase of the stream does not allow is not done: `perform` gives the reason and
`denied`. -/
theorem untimely_perform (shape : client.endpoint.Shape client.phase)
    (offered : ∀ call inside, use.call? = some (call, inside) →
      client.refusal? call inside = none)
    (untimely : client.phase.refusal? use = some error) :
    client.perform setup candidates use = (⟨.error error, []⟩, client.denied use) := by
  generalize client.phase = phase at shape untimely
  cases use with
  | start call inside =>
    have offered := offered call inside rfl
    cases phase <;> cases untimely
    · simp [perform, start, denied, offered, shape.start_opened, Starting.lift, Except.map]
    · simp [perform, start, denied, offered, shape.start_closed, Starting.lift, Except.map]
  | read call inside before size =>
    have offered := offered call inside rfl
    cases phase <;> cases untimely
    · simp [perform, read, denied, offered, shape.read_fresh, Except.map]
    · simp [perform, read, denied, offered, shape.read_closed, Except.map]
  | write call inside before places =>
    have offered := offered call inside rfl
    cases phase <;> cases untimely
    · simp [perform, write, denied, offered, shape.write_fresh, Except.map]
    · simp [perform, write, denied, offered, shape.write_closed, Except.map]
  | _ => cases phase <;> cases untimely

/-- **What is refused is not done**: `refuses use = some error` gives
`perform = (⟨.error error, []⟩, denied use)`. -/
theorem refused_perform (shape : client.endpoint.Shape client.phase)
    (refused : client.refuses use = some error) :
    client.perform setup candidates use = (⟨.error error, []⟩, client.denied use) := by
  -- A call that is not offered is refused for that, in whatever phase the stream is.
  cases asked : use.call? with
  | none =>
    exact untimely_perform shape (by simp [asked]) (by simpa [refuses, asked] using refused)
  | some pair =>
    cases unoffered : client.refusal? pair.1 pair.2 with
    | some other =>
      have : other = error := by simpa [refuses, asked, unoffered] using refused
      exact this ▸ unoffered_perform asked unoffered
    | none =>
      refine untimely_perform shape ?_ (by simpa [refuses, asked, unoffered] using refused)
      rintro call inside h
      cases asked.symm.trans h
      exact unoffered

/-- What is not refused is offered and allowed: both parts of `refuses` are `none`. -/
theorem offered_of_accepted (accepted : client.refuses use = none) :
    (∀ call inside, use.call? = some (call, inside) → client.refusal? call inside = none) ∧
      client.phase.refusal? use = none := by
  obtain ⟨offered, timely⟩ := Option.or_eq_none_iff.mp accepted
  refine ⟨fun call inside asked => ?_, timely⟩
  simpa [asked] using offered

/-- A call on the line that is not refused is offered, and the stream is open, as the other phases
refuse it. -/
theorem opened_of_accepted {call : Mode} {inside : Bool} (onLine : use.isOnLine = true)
    (asked : use.call? = some (call, inside)) (accepted : client.refuses use = none) :
    client.refusal? call inside = none ∧ client.phase = .opened := by
  obtain ⟨offered, timely⟩ := offered_of_accepted accepted
  refine ⟨offered call inside asked, ?_⟩
  cases h : client.phase with
  | opened => rfl
  | fresh | closed =>
    rw [h] at timely
    cases use with
    | read | write => cases timely
    | start | close | isClosed | take | put | release | wait => cases onLine

/-- Connecting comes to what connecting a stream of the mode comes to, and a line that was connected
is held: the report is that of `connecting`, and the stream is in `Shape` for it. -/
theorem start_holds {call : Mode} {inside : Bool} (shape : client.endpoint.Shape client.phase)
    (accepted : client.refuses (.start call inside) = none) :
    let connecting := client.connecting setup candidates
    let after := client.perform setup candidates (.start call inside)
    after.1 = ⟨connecting.result.map fun _ => .done, connecting.attempts⟩ ∧
      (∀ line, connecting.result = .ok line →
        after.2.endpoint.Shape .opened ∧ after.2.endpoint.Holds line) ∧
      ∀ error, connecting.result = .error error → after.2.endpoint.Shape .closed := by
  obtain ⟨offered, timely⟩ := offered_of_accepted accepted
  have offered := offered call inside rfl
  generalize client.phase = phase at shape timely
  cases phase with
  | opened | closed => cases timely
  | fresh =>
    have started := Endpoint.start_fresh setup candidates client.endpoint.mode
    rw [← shape.eq_fresh] at started
    obtain ⟨attempts, result, taken⟩ := started
    simp only [perform, start, offered, Starting.lift, attempts, result]
    unfold connecting
    generalize client.endpoint.mode.connect setup.address candidates = connecting at taken
    refine ⟨?_, fun line reached => ?_, fun error failed => ?_⟩
    · cases connecting.result <;> rfl
    · rwa [reached] at taken
    · rwa [failed] at taken

/-- The stream is open or closed after connecting, as a candidate was reached or none: `Shape` of
`.opened` or `.closed` by `connecting.result.isOk`. -/
theorem start_perform {call : Mode} {inside : Bool} (shape : client.endpoint.Shape client.phase)
    (accepted : client.refuses (.start call inside) = none) :
    let connecting := client.connecting setup candidates
    let after := client.perform setup candidates (.start call inside)
    after.1 = ⟨connecting.result.map fun _ => .done, connecting.attempts⟩ ∧
      after.2.endpoint.Shape (if connecting.result.isOk then .opened else .closed) := by
  intro connecting after
  obtain ⟨told, opened, closed⟩ := start_holds shape accepted
  refine ⟨told, ?_⟩
  cases reached : connecting.result with
  | ok line => exact (opened line reached).1
  | error error => exact closed error reached

/-- **The stream of a client takes the form of its next phase**, whatever is done: the step of
`shape_performAll`. -/
theorem shape_perform (setup : Setup) (candidates : Candidates) (use : Use)
    (shape : client.endpoint.Shape client.phase) :
    (client.perform setup candidates use).2.endpoint.Shape
      (client.next setup candidates use) := by
  cases refused : client.refuses use with
  | some error =>
    rw [refused_perform shape refused]
    simpa [next, refused] using shape
  | none =>
    simp only [next, refused, Option.isSome_none, Bool.false_eq_true, if_false]
    cases use with
    | start call inside => exact (start_perform shape refused).2
    | read call inside before size =>
      obtain ⟨offered, opened⟩ := opened_of_accepted rfl rfl refused
      rw [opened] at shape ⊢
      have taken := shape.read_opened setup client.pool before size
      simp only [perform, read, offered]
      split <;> exact taken
    | write call inside before places =>
      obtain ⟨offered, opened⟩ := opened_of_accepted rfl rfl refused
      rw [opened] at shape ⊢
      simp only [perform, write, offered]
      exact shape.write_opened before _
    | close => exact shape.close
    | wait change => exact shape.onLine change
    | isClosed | take | put | release => exact shape

/-- **A step of a client follows the machine**: `Follows` holds for every use in every phase. -/
theorem follows_perform (use : Use) (shape : client.endpoint.Shape client.phase) :
    Follows setup candidates use client where
  refused _ := refused_perform shape
  unsupported call inside asked unoffered := by
    obtain ⟨error, unoffered⟩ := Option.isSome_iff_exists.mp unoffered
    obtain ⟨kind, family, rfl⟩ := Mode.unsupported_of_refusal? unoffered
    exact ⟨kind, family, by rw [unoffered_perform asked unoffered]⟩
  moves := (shape_perform setup candidates use shape).phase_eq
  connects call inside h accepted := by
    subst h
    exact (start_perform shape accepted).1
  tells h := by
    subst h
    exact congrArg (fun value => Except.ok (Reply.flag value)) shape.closed_eq
  closes h := by
    subst h
    exact congrArg (fun endpoint => { client with endpoint }) client.endpoint.close_close

/-- A closed stream is not opened again: its `next` phase is `.closed`, whatever is done. -/
theorem next_closed (isClosed : client.phase = .closed) :
    client.next setup candidates use = .closed := by
  unfold next
  split
  · exact isClosed
  · rename_i accepted
    have timely := (offered_of_accepted (Option.not_isSome_iff_eq_none.mp accepted)).2
    rw [isClosed] at timely ⊢
    cases use with
    | start | read | write => cases timely
    | close | isClosed | take | put | release | wait => rfl

/-- A stream keeps its mode: no use changes `endpoint.mode`. -/
theorem mode_perform (use : Use) (client : Client) :
    (client.perform setup candidates use).2.endpoint.mode = client.endpoint.mode := by
  cases use with
  | start => simp only [perform, start]; split <;> simp [Starting.lift]
  | read =>
    simp only [perform, read]
    split
    · rfl
    · split <;> simp
  | write => simp only [perform, write]; split <;> simp
  | close | wait => simp [perform, close]
  | isClosed | take | put | release => rfl

/-! ### One thing after the other -/

theorem shape_fresh (mode : Mode) : (fresh mode).endpoint.Shape (fresh mode).phase :=
  (Endpoint.shape_fresh mode).at_phase

/-- A stream keeps its mode, whatever is done. -/
theorem mode_performAll (uses : List Use) (client : Client) :
    (client.performAll setup candidates uses).2.endpoint.mode = client.endpoint.mode := by
  induction uses generalizing client with
  | nil => rfl
  | cons use uses ih => rw [performAll_cons, ih, mode_perform]

/-- **The stream of a client has the form of its phase**, whatever was done: `Shape` of its `phase`,
by induction on the uses. -/
theorem shape_performAll (setup : Setup) (candidates : Candidates) (uses : List Use)
    (shape : client.endpoint.Shape client.phase) :
    (client.performAll setup candidates uses).2.endpoint.Shape
      (client.performAll setup candidates uses).2.phase := by
  induction uses generalizing client with
  | nil => exact shape
  | cons use uses ih =>
    rw [performAll_cons]
    exact ih (shape_perform setup candidates use shape).at_phase

/-- A closed stream stays closed, whatever is done, by induction on the uses. -/
theorem closed_performAll (uses : List Use) (shape : client.endpoint.Shape client.phase)
    (isClosed : client.phase = .closed) :
    (client.performAll setup candidates uses).2.phase = .closed := by
  induction uses generalizing client with
  | nil => exact isClosed
  | cons use uses ih =>
    have taken := shape_perform setup candidates use shape
    rw [performAll_cons]
    exact ih taken.at_phase (taken.phase_eq.trans (next_closed isClosed))

end Client

/-- **Streams of either mode live alike.** Whatever a client does with a stream that is fresh at
first, one thing after the other, whatever connecting and the line come to:

* the stream keeps its mode, holds all of a line exactly while it is open and nothing of one
  otherwise, and is known as closed exactly when it is;
* whatever is done next is met as the machine says, and only a read without a time limit, of a line
  on which the other end may still send, can wait until the stream is closed from elsewhere;
* a closed stream stays closed. -/
theorem streams_live_alike (setup : Setup) (candidates : Candidates) (uses : List Use) :
    let client := (Client.performAll setup candidates uses (.fresh setup.mode)).2
    client.endpoint.mode = setup.mode ∧
      (if client.phase = .opened then ∃ line, client.endpoint.Holds line
        else client.endpoint.Empty) ∧
      client.closed = decide (client.phase = .closed) ∧
      (∀ use, Follows setup candidates use client) ∧
      (∀ size, client.endpoint.waits setup size = true →
        setup.timed = false ∧ ∃ line, client.endpoint.Holds line ∧ line.ended = false) ∧
      (client.phase = .closed →
        ∀ more, (client.performAll setup candidates more).2.phase = .closed) := by
  intro client
  have shape : client.endpoint.Shape client.phase :=
    Client.shape_performAll setup candidates uses (Client.shape_fresh setup.mode)
  refine ⟨?mode, shape.holds, shape.closed_eq, fun use => Client.follows_perform use shape,
    fun size waiting => Endpoint.untimed_of_waits waiting, ?stays⟩
  case mode =>
    rw [Client.mode_performAll]
    exact Endpoint.mode_fresh setup.mode
  case stays => exact fun isClosed more => Client.closed_performAll more shape isClosed

end DocumentCursor.Stream
