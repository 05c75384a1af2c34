import DocumentCursor.Stream.Error

/-! # Completions

An operation that does not wait for its result reports it later, to a completion, which takes one
result at most and is gone after that. If nobody is left who could report a result, the one who
waits for it learns that.

Main definitions:

* `Delivery` is what became of a completion;
* `Delivery.calls`, `Delivery.outcome` and `Delivery.wait` are what a callback, an asynchronous and
  a blocking wait get of it;
* `blockOn` starts an operation and waits for its result.
-/

namespace DocumentCursor.Stream

/-- A result, where one was delivered before the completion was given up, and `none` otherwise. -/
abbrev Delivery (α : Type) := Option (Except TransportError α)

/-- Why a thread of the runtime must not wait. -/
def blockingInsideRuntime : TransportError :=
  .unsupported "blocking adapter" "blocking (inside runtime)"

/-- How a completion is shown to people. -/
def completionDescription : String := "Completion \x7b .. \x7d"

namespace Delivery

variable {α : Type}

/-- The results that a callback is called with. -/
def calls (delivery : Delivery α) : List (Except TransportError α) := delivery.toList

/-- The result for the one who waits; `.completionDropped` if none is delivered. -/
def outcome (delivery : Delivery α) : Except TransportError α :=
  delivery.getD (.error .completionDropped)

/-- The result for a thread that does nothing else in the meantime, which no thread inside the
runtime may do: it gets `blockingInsideRuntime`. -/
def wait (insideRuntime : Bool) (delivery : Delivery α) : Except TransportError α :=
  if insideRuntime then .error blockingInsideRuntime else outcome delivery

end Delivery

/-- Starts an operation and waits for its result; the result comes with the number of starts, which
is `0` inside the runtime. -/
def blockOn {α : Type} (insideRuntime : Bool) (start : Unit → Delivery α) :
    Except TransportError α × Nat :=
  if insideRuntime then (.error blockingInsideRuntime, 0) else (Delivery.outcome (start ()), 1)

end DocumentCursor.Stream
