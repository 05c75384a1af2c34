import DocumentCursor.Stream.Error

/-! # Falling back to other candidates

The candidates of an address are connected to one after the other until one can be reached. One way
moves on to the next candidate while candidates time out, and takes any other failure for the
failure of the address. The other way moves on after every failure; it keeps the candidate to be
tried apart from those that remain, so that there is none only if the address has none. Either way a
failure of the last candidate is reported.

Main definitions:

* `connectWhileTimedOut` and `connectUntilReached` are the two ways;
* `Connecting` is what they come to.
-/

namespace DocumentCursor.Stream

open Net

/-- What connecting comes to: the candidates that were tried, and a line or why there is none. -/
structure Connecting (κ : Type) where
  /-- The candidates that were tried, by number, in order. -/
  attempts : List Nat
  result : Except TransportError κ
  deriving Repr

/-- The failure of a candidate as a failure of the address: `.system source` becomes
`.cannotOpen address (some source)`, and any other stays. -/
def report (address : Address) : TransportError → TransportError
  | .system source => .cannotOpen address (some source)
  | error => error

/-- Whether an attempt ran out of time: a `system` failure of kind `timedOut`. -/
def timesOut : TransportError → Bool
  | .system source => source.kind = .timedOut
  | _ => false

section

variable {κ : Type}

/-- What connecting comes to when another candidate was tried before: `number` in front of the
attempts. -/
def Connecting.after (number : Nat) (connecting : Connecting κ) : Connecting κ :=
  { connecting with attempts := number :: connecting.attempts }

/-- Tries candidates, the first of which has the given number, while they time out, given what an
attempt at each of them comes to. The last one is final, whether or not it times out. -/
def tryWhileTimedOut (address : Address) :
    Nat → List (Except TransportError κ) → Connecting κ
  | _, [] => ⟨[], .error (.cannotOpen address none)⟩
  | number, .ok line :: _ => ⟨[number], .ok line⟩
  | number, .error error :: remaining =>
    if timesOut error ∧ remaining ≠ [] then
      (tryWhileTimedOut address (number + 1) remaining).after number
    else ⟨[number], .error (report address error)⟩

/-- Tries the next candidate, which has the given number, and those that remain until one can be
reached, given what an attempt at each of them comes to. Of the failures the last one is
reported. -/
def tryUntilReached (address : Address) :
    Nat → Except TransportError κ → List (Except TransportError κ) → Connecting κ
  | number, .ok line, _ => ⟨[number], .ok line⟩
  | number, .error error, [] => ⟨[number], .error (report address error)⟩
  | number, .error _, next :: remaining =>
    (tryUntilReached address (number + 1) next remaining).after number

/-- Connects to a candidate of an address, if it is known which ones there are, moving on while
candidates time out: `tryWhileTimedOut` from `0`. -/
def connectWhileTimedOut (address : Address) :
    Except SystemError (List (Except TransportError κ)) → Connecting κ
  | .error source => ⟨[], .error (.cannotOpen address (some source))⟩
  | .ok candidates => tryWhileTimedOut address 0 candidates

/-- Connects to a candidate of an address, if it is known which ones there are, moving on until one
can be reached: `tryUntilReached` from `0`. -/
def connectUntilReached (address : Address) :
    Except SystemError (List (Except TransportError κ)) → Connecting κ
  | .error source => ⟨[], .error (.cannotOpen address (some source))⟩
  | .ok [] => ⟨[], .error (.cannotOpen address none)⟩
  | .ok (next :: remaining) => tryUntilReached address 0 next remaining

@[simp] theorem Connecting.attempts_after (number : Nat) (connecting : Connecting κ) :
    (connecting.after number).attempts = number :: connecting.attempts := rfl

@[simp] theorem Connecting.result_after (number : Nat) (connecting : Connecting κ) :
    (connecting.after number).result = connecting.result := rfl

end

end DocumentCursor.Stream
