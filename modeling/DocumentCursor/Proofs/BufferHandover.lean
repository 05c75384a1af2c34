import DocumentCursor.Proofs.Lifecycle

/-! # Handing bytes over in parts

Buffers are drained one after the other, and each of them is offered again until it is drained, so
draining is a loop inside a loop. Seen from the other side it is one row of offers: each is of what
is left of the first buffer that is not drained, and takes a piece off its front. The pieces, one
after the other, are the beginning of all bytes, whatever sizes they have; the row ends when nothing
is left, or at the first offer of which nothing is taken.

* **`Hands`**: a row of offers that take pieces.
* **`Hands.flatten_eq`** and **`Hands.length_add_le`**: the pieces and what is left are all bytes,
  and there are no more pieces than bytes.
* **`Hands.drainBuffers_eq`**: draining follows such a row.
* **`exists_hands`**: every row of answers begins with one, up to where draining is over.
* **`Handover`** and **`Outgoing.handover_drain`**: what draining comes to for an asynchronous
  stream.
* **`drained_in_order`**: such a stream writes every byte once and in order.
-/

namespace DocumentCursor.Stream

open Net

/-! ## Rows of offers -/

variable {last : Option TransportError} {buffers left pieces : List (List UInt8)}
  {answers made : List (Except SystemError Nat)}

/-- **Offers take pieces off buffers**, given their answers: each is of a buffer that is not
drained, of which it takes at most as many bytes as its answer says, and one at least. -/
inductive Hands :
    List (List UInt8) → List (Except SystemError Nat) → List (List UInt8) →
      List (List UInt8) → Prop
  | nothing {buffers : List (List UInt8)} : Hands buffers [] [] buffers
  -- No offer is made of a buffer that holds nothing, or nothing more.
  | drained {buffers left : List (List UInt8)} {answers : List (Except SystemError Nat)}
      {pieces : List (List UInt8)} (later : Hands buffers answers pieces left) :
      Hands ([] :: buffers) answers pieces left
  | piece {byte : UInt8} {bytes : List UInt8} {most : Nat} {buffers left : List (List UInt8)}
      {answers : List (Except SystemError Nat)} {pieces : List (List UInt8)}
      (later : Hands (bytes.drop most :: buffers) answers pieces left) :
      Hands ((byte :: bytes) :: buffers) (.ok (most + 1) :: answers)
        ((byte :: bytes.take most) :: pieces) left

namespace Hands

/-- **Every byte is handed over once and in order**, or left: `pieces.flatten ++ left.flatten =
buffers.flatten`. -/
theorem flatten_eq (hands : Hands buffers answers pieces left) :
    pieces.flatten ++ left.flatten = buffers.flatten := by
  induction hands with
  | nothing => rfl
  | drained later ih => exact ih
  | @piece byte bytes most buffers left answers pieces later ih =>
    calc ((byte :: bytes.take most) :: pieces).flatten ++ left.flatten
      _ = byte :: bytes.take most ++ (pieces.flatten ++ left.flatten) := by
        rw [List.flatten_cons, List.append_assoc]
      _ = byte :: (bytes.take most ++ bytes.drop most) ++ buffers.flatten := by
        rw [ih, List.flatten_cons, List.cons_append, List.cons_append, List.append_assoc]
      _ = ((byte :: bytes) :: buffers).flatten := by
        rw [List.take_append_drop, List.flatten_cons]

/-- **There are no more offers than bytes** that are not left, as each offer takes a byte at
least. -/
theorem length_add_le (hands : Hands buffers answers pieces left) :
    answers.length + left.flatten.length ≤ buffers.flatten.length := by
  induction hands with
  | nothing => exact Nat.le_of_eq (Nat.zero_add _)
  | drained later ih => exact ih
  | piece later ih =>
    simp only [List.flatten_cons, List.length_append, List.length_cons, List.length_drop] at ih ⊢
    omega

end Hands

/-! ## Draining -/

/-- What draining comes to if some bytes were taken before: they stand in front of what is
`taken`. -/
def Draining.after (bytes : List UInt8) (rest : Draining) : Draining :=
  { rest with taken := bytes ++ rest.taken }

@[simp] theorem Draining.after_after (bytes more : List UInt8) (rest : Draining) :
    (rest.after more).after bytes = rest.after (bytes ++ more) := by
  simp only [after, List.append_assoc]

/-- A buffer that is drained is passed over: no offer is made of `[]`. -/
theorem drainBuffers_nil_cons (manner : Manner) (last : Option TransportError)
    (buffers : List (List UInt8)) (offers : List (Except SystemError Nat)) :
    drainBuffers manner last ([] :: buffers) offers = drainBuffers manner last buffers offers := by
  simp [drainBuffers, drainBuffer]

/-- What is left of a buffer is offered again: an answer `most + 1` takes that many bytes of it, and
draining goes on with `drop`. -/
theorem drainBuffers_piece (manner : Manner) (last : Option TransportError) (byte : UInt8)
    (bytes : List UInt8) (buffers : List (List UInt8)) (most : Nat)
    (offers : List (Except SystemError Nat)) :
    drainBuffers manner last ((byte :: bytes) :: buffers) (.ok (most + 1) :: offers) =
      (drainBuffers manner last (bytes.drop most :: buffers) offers).after
        (byte :: bytes.take most) := by
  simp only [drainBuffers, drainBuffer]
  split <;> simp [Draining.after]

/-- **Draining follows a row of offers** and goes on with what is left: `drainBuffers` is that of
`left`, `after` the pieces. -/
theorem Hands.drainBuffers_eq (manner : Manner) (last : Option TransportError)
    (hands : Hands buffers made pieces left) (answers : List (Except SystemError Nat)) :
    drainBuffers manner last buffers (made ++ answers) =
      (drainBuffers manner last left answers).after pieces.flatten := by
  induction hands with
  | nothing => rfl
  | drained later ih => rw [drainBuffers_nil_cons, ih]
  | piece later ih =>
    rw [List.cons_append, drainBuffers_piece, ih, Draining.after_after, List.flatten_cons]

/-- What is offered later is taken whole, unless it is known why it fails: with no answers left and
no `last` all is taken. -/
theorem drainBuffers_whole (manner : Manner) (buffers : List (List UInt8)) :
    drainBuffers manner none buffers [] = ⟨.ok (), buffers.flatten, []⟩ := by
  induction buffers with
  | nil => rfl
  | cons buffer buffers ih =>
    cases buffer with
    | nil => rw [drainBuffers_nil_cons, ih]; rfl
    | cons byte bytes => simp [drainBuffers, drainBuffer, ih]

/-- Why an offer that is answered so takes nothing, if it does not: nothing can be written, or
writing failed. -/
def refusal? : Except SystemError Nat → Option SystemError
  | .ok 0 => some .writeZero
  | .ok (_ + 1) => none
  | .error error => some error

/-- Draining is over with some buffers left and some answers to come: nothing is left of the
buffers, or there is no answer to the next offer that takes anything of them. These are the ends of
`exists_hands`. -/
inductive Over : List (List UInt8) → List (Except SystemError Nat) → Prop
  | complete {answers : List (Except SystemError Nat)} : Over [] answers
  | unanswered {byte : UInt8} {bytes : List UInt8} {left : List (List UInt8)} :
    Over ((byte :: bytes) :: left) []
  | refused {byte : UInt8} {bytes : List UInt8} {left : List (List UInt8)}
    {answer : Except SystemError Nat} {answers : List (Except SystemError Nat)}
    {error : SystemError} (reason : refusal? answer = some error) :
    Over ((byte :: bytes) :: left) (answer :: answers)

/-- **Every row of answers begins with pieces** until draining is over: `offers` falls apart into
those of `Hands` and a rest that is `Over`. -/
theorem exists_hands (buffers : List (List UInt8)) (offers : List (Except SystemError Nat)) :
    ∃ made pieces left answers, offers = made ++ answers ∧ Hands buffers made pieces left ∧
      Over left answers := by
  -- An answer is used up, or a buffer is passed over, in each step.
  match buffers, offers with
  | [], offers => exact ⟨[], [], [], offers, rfl, .nothing, .complete⟩
  | [] :: buffers, offers =>
    obtain ⟨made, pieces, left, answers, split, hands, ends⟩ := exists_hands buffers offers
    exact ⟨made, pieces, left, answers, split, .drained hands, ends⟩
  | (byte :: bytes) :: buffers, [] => exact ⟨[], [], _, [], rfl, .nothing, .unanswered⟩
  | (byte :: bytes) :: buffers, .ok 0 :: offers =>
    exact ⟨[], [], _, _, rfl, .nothing, .refused rfl⟩
  | (byte :: bytes) :: buffers, .error error :: offers =>
    exact ⟨[], [], _, _, rfl, .nothing, .refused rfl⟩
  | (byte :: bytes) :: buffers, .ok (most + 1) :: offers =>
    obtain ⟨made, pieces, left, answers, rfl, hands, ends⟩ :=
      exists_hands (bytes.drop most :: buffers) offers
    exact ⟨_, _, left, answers, rfl, .piece hands, ends⟩
termination_by (offers.length, buffers.length)

/-! ## Asynchronous streams -/

/-- An asynchronous stream makes no offer again of which nothing was taken: at a `refusal?` draining
fails by it. -/
theorem drainBuffers_refused {answer : Except SystemError Nat} {error : SystemError}
    (reason : refusal? answer = some error) (byte : UInt8) (bytes : List UInt8) :
    drainBuffers Asynchronous.manner last ((byte :: bytes) :: left) (answer :: answers) =
      ⟨.error (.system error), [], answers⟩ := by
  match answer with
  | .ok 0 =>
    cases Option.some.inj reason
    simp [drainBuffers, drainBuffer, Asynchronous.manner]
  | .ok (most + 1) => cases reason
  | .error _ =>
    cases Option.some.inj reason
    simp [drainBuffers, drainBuffer, Asynchronous.manner]

/-- An offer that is not answered fails if it is known why: by `last`, and nothing more is taken. -/
theorem drainBuffers_unanswered (manner : Manner) (error : TransportError) (byte : UInt8)
    (bytes : List UInt8) (left : List (List UInt8)) :
    drainBuffers manner (some error) ((byte :: bytes) :: left) [] = ⟨.error error, [], []⟩ := by
  simp [drainBuffers, drainBuffer]

/-- What goes from a stream after some bytes of it were taken, with what the next offers come to:
`sent` grows by the bytes. -/
def Outgoing.took (bytes : List UInt8) (offers : List (Except SystemError Nat))
    (outgoing : Outgoing) : Outgoing :=
  { outgoing with offers, sent := outgoing.sent ++ bytes }

/-- **What draining comes to** for an asynchronous stream: all pieces and then a flush, the first
refused offer, or what becomes of the offers of which no more is known than whether the line is
`broken`. -/
inductive Handover (outgoing : Outgoing) (buffers : List (List UInt8)) :
    Except TransportError Unit × Outgoing → Prop
  /-- The pieces are all there is, and they are flushed. -/
  | complete {made rest : List (Except SystemError Nat)} {pieces : List (List UInt8)}
      (split : outgoing.offers = made ++ rest) (hands : Hands buffers made pieces []) :
      Handover outgoing buffers (outgoing.flush, outgoing.took buffers.flatten rest)
  /-- An offer is refused: nothing is offered after it, and nothing is flushed. -/
  | refused {made rest : List (Except SystemError Nat)} {pieces left : List (List UInt8)}
      {answer : Except SystemError Nat} {error : SystemError} {byte : UInt8} {bytes : List UInt8}
      (reason : refusal? answer = some error) (split : outgoing.offers = made ++ answer :: rest)
      (hands : Hands buffers made pieces ((byte :: bytes) :: left)) :
      Handover outgoing buffers
        (.error (.system error), outgoing.took pieces.flatten rest)
  /-- No more is known of the offers than that they take all there is. -/
  | whole {pieces left : List (List UInt8)} (unbroken : outgoing.broken = none)
      (hands : Hands buffers outgoing.offers pieces left) :
      Handover outgoing buffers (outgoing.flush, outgoing.took buffers.flatten [])
  /-- No more is known of the offers than that they fail. -/
  | broken {pieces left : List (List UInt8)} {error : SystemError} {byte : UInt8}
      {bytes : List UInt8} (reason : outgoing.broken = some error)
      (hands : Hands buffers outgoing.offers pieces ((byte :: bytes) :: left)) :
      Handover outgoing buffers (.error (.system error), outgoing.took pieces.flatten [])

/-- What draining comes to, given what draining the buffers comes to: the flush is made only if all
was taken. -/
theorem Outgoing.drain_eq {outgoing : Outgoing} {drained : Draining}
    (known : outgoing.broken.map .system = last)
    (h : drainBuffers Asynchronous.manner last buffers outgoing.offers = drained) :
    outgoing.drain Asynchronous.manner none buffers =
      (drained.result.bind fun _ => outgoing.flush,
        outgoing.took drained.taken drained.offers) := by
  subst known h
  simp only [drain, took, List.append_nil]

/-- **Draining is a handover**: `outgoing.drain` gives a `Handover`, by `exists_hands` and the three
ways in which a row of answers is over. -/
theorem Outgoing.handover_drain (outgoing : Outgoing) (buffers : List (List UInt8)) :
    Handover outgoing buffers (outgoing.drain Asynchronous.manner none buffers) := by
  obtain ⟨made, pieces, left, answers, split, hands, ends⟩ :=
    exists_hands buffers outgoing.offers
  have all : pieces.flatten ++ left.flatten = buffers.flatten := hands.flatten_eq
  have drained := hands.drainBuffers_eq Asynchronous.manner (outgoing.broken.map .system) answers
  rw [← split] at drained
  -- What is left after the pieces is drained in no further step, for one of these reasons.
  cases ends with
  | complete =>
    rw [List.flatten_nil] at all
    rw [drain_eq rfl drained, drainBuffers, Draining.after, all]
    exact .complete split hands
  | unanswered =>
    rw [List.append_nil] at split
    subst split
    cases unbroken : outgoing.broken with
    | none =>
      have known : outgoing.broken.map TransportError.system = none := by rw [unbroken]; rfl
      rw [known, drainBuffers_whole] at drained
      rw [drain_eq known drained, Draining.after, all]
      exact .whole unbroken hands
    | some error =>
      have known : outgoing.broken.map TransportError.system = some (.system error) := by
        rw [unbroken]; rfl
      rw [known, drainBuffers_unanswered] at drained
      rw [drain_eq known drained, Draining.after, List.append_nil]
      exact .broken unbroken hands
  | refused reason =>
    rw [drainBuffers_refused reason] at drained
    rw [drain_eq rfl drained, Draining.after, List.append_nil]
    exact .refused reason split hands

/-- **Every handover takes the first bytes**, in order, and makes no more offers than there are
bytes: what is taken is a prefix of `buffers.flatten`. -/
theorem Handover.exists_taken {outgoing : Outgoing}
    {drained : Except TransportError Unit × Outgoing}
    (handover : Handover outgoing buffers drained) :
    ∃ made taken, outgoing.offers = made ++ drained.2.offers ∧
      made.length ≤ buffers.flatten.length ∧
      drained.2.sent = outgoing.sent ++ taken ∧ taken <+: buffers.flatten := by
  cases handover with
  | @complete made rest pieces split hands =>
    exact ⟨made, _, split, hands.length_add_le, rfl, List.prefix_refl _⟩
  | @refused made rest pieces left answer error byte bytes reason split hands =>
    have offered := hands.length_add_le
    refine ⟨made ++ [answer], pieces.flatten, ?_, ?_, rfl, _, hands.flatten_eq⟩
    · rw [split, List.append_assoc]
      rfl
    · -- The offer that is refused is of a byte that is left.
      simp only [List.flatten_cons, List.length_append, List.length_cons, List.length_nil] at *
      omega
  | whole unbroken hands =>
    have offered := hands.length_add_le
    exact ⟨outgoing.offers, _, (List.append_nil _).symm, by omega, rfl, List.prefix_refl _⟩
  | broken reason hands =>
    have offered := hands.length_add_le
    exact ⟨outgoing.offers, _, (List.append_nil _).symm, by omega, rfl, _, hands.flatten_eq⟩

/-- **Everything is taken and flushed** if no offer is refused: the result is that of the flush, and
`sent` grows by `buffers.flatten`. -/
theorem Handover.taken_eq {outgoing : Outgoing} {drained : Except TransportError Unit × Outgoing}
    (handover : Handover outgoing buffers drained)
    (accepted : ∀ answer ∈ outgoing.offers, refusal? answer = none)
    (unbroken : outgoing.broken = none) :
    drained.1 = outgoing.flush ∧ drained.2.sent = outgoing.sent ++ buffers.flatten := by
  cases handover with
  | complete | whole => exact ⟨rfl, rfl⟩
  | refused reason split =>
    have accepts := accepted _ (split ▸ List.mem_append_right _ List.mem_cons_self)
    cases reason.symm.trans accepts
  | broken reason => cases reason.symm.trans unbroken

/-- **A refused offer is the last one**, and why it was refused is why draining fails: the answers
in `rest` are left. -/
theorem Outgoing.drain_refused {outgoing : Outgoing} {rest : List (Except SystemError Nat)}
    {answer : Except SystemError Nat} {error : SystemError} {byte : UInt8} {bytes : List UInt8}
    (split : outgoing.offers = made ++ answer :: rest)
    (hands : Hands buffers made pieces ((byte :: bytes) :: left))
    (reason : refusal? answer = some error) :
    outgoing.drain Asynchronous.manner none buffers =
      (.error (.system error), outgoing.took pieces.flatten rest) := by
  have drained := hands.drainBuffers_eq Asynchronous.manner (outgoing.broken.map .system)
    (answer :: rest)
  rw [← split, drainBuffers_refused reason] at drained
  rw [drain_eq rfl drained, Draining.after, List.append_nil]
  rfl

/-- **An asynchronous stream writes every byte once and in order.** What its line takes of some
buffers is the beginning of what they hold, in no more offers than they have bytes. If every offer
is taken in part at least, it is all that they hold; at the first offer that is refused the write
fails for the reason of that, and nothing is offered again. -/
theorem drained_in_order (outgoing : Outgoing) (reader : Option Incoming) (buffers : List Buffer)
    (pool : Pool) :
    ∃ drained,
      Asynchronous.write none buffers { opened := true, reader, writer := some outgoing } pool =
        ⟨drained.1, { opened := true, reader, writer := some drained.2 }, pool.dropAll buffers⟩ ∧
      drained = outgoing.drain Asynchronous.manner none (buffers.map (·.content)) ∧
      Handover outgoing (buffers.map (·.content)) drained ∧
      (∃ made taken, outgoing.offers = made ++ drained.2.offers ∧
        made.length ≤ (buffers.flatMap (·.content)).length ∧
        drained.2.sent = outgoing.sent ++ taken ∧ taken <+: buffers.flatMap (·.content)) ∧
      ((∀ answer ∈ outgoing.offers, refusal? answer = none) → outgoing.broken = none →
        drained.1 = outgoing.flush ∧
          drained.2.sent = outgoing.sent ++ buffers.flatMap (·.content)) ∧
      ∀ made answer rest pieces byte bytes left error,
        outgoing.offers = made ++ answer :: rest →
        Hands (buffers.map (·.content)) made pieces ((byte :: bytes) :: left) →
        refusal? answer = some error →
          drained = (.error (.system error), outgoing.took pieces.flatten rest) := by
  have handover := outgoing.handover_drain (buffers.map (·.content))
  refine ⟨_, rfl, rfl, handover, ?_, ?_, ?_⟩
  · rw [List.flatMap_def]
    exact handover.exists_taken
  · rw [List.flatMap_def]
    exact handover.taken_eq
  · intro made answer rest pieces byte bytes left error split hands reason
    exact Outgoing.drain_refused split hands reason

/-- Three buffers, the second of them empty, are written in pieces of two bytes, one and two; if the
second offer is refused, only the first piece is. -/
theorem drained_in_order_pieces :
    ∃ whole part : Except TransportError Unit × Outgoing,
      whole = Outgoing.drain Asynchronous.manner none [[1, 2, 3], [], [4, 5]]
        { offers := [.ok 2, .ok 1, .ok 2] } ∧
      whole.1 = .ok () ∧ whole.2.sent = [1, 2, 3, 4, 5] ∧
      part = Outgoing.drain Asynchronous.manner none [[1, 2, 3], [], [4, 5]]
        { offers := [.ok 2, .ok 0, .ok 2] } ∧
      part.1 = .error (.system .writeZero) ∧ part.2.sent = [1, 2] ∧ part.2.offers = [.ok 2] := by
  obtain ⟨whole, -, drained, -, -, accepted, -⟩ :=
    drained_in_order { offers := [.ok 2, .ok 1, .ok 2] } none
      [⟨[1, 2, 3], none⟩, ⟨[], none⟩, ⟨[4, 5], none⟩] {}
  obtain ⟨done, sent⟩ := accepted (by decide) rfl
  obtain ⟨part, -, stopped, -, -, -, refused⟩ :=
    drained_in_order { offers := [.ok 2, .ok 0, .ok 2] } none
      [⟨[1, 2, 3], none⟩, ⟨[], none⟩, ⟨[4, 5], none⟩] {}
  have failed := refused [.ok 2] (.ok 0) [.ok 2] [[1, 2]] 3 [] [[], [4, 5]] .writeZero rfl
    (.piece .nothing) rfl
  exact ⟨whole, part, drained, done, sent, stopped, by rw [failed], by rw [failed]; rfl,
    by rw [failed]; rfl⟩

end DocumentCursor.Stream
