import DocumentCursor.Text.Numeral

/-! # Signed numerals

Whole numbers between two bounds: decimal ASCII digits after at most one sign. A text that is
refused is refused for the first reason that shows from the left, so that a number may be too large
although something that is no digit follows.

Main definitions:

* `Integer.read` and `IntegerError.message`.
-/

namespace DocumentCursor.Text

/-- Why a text is no number. -/
inductive IntegerError where
  | empty
  | invalidDigit
  | tooLarge
  | tooSmall
  deriving DecidableEq, Repr

/-- The text that reports an error. -/
def IntegerError.message : IntegerError → String
  | empty => "cannot parse integer from empty string"
  | invalidDigit => "invalid digit found in string"
  | tooLarge => "number too large to fit in target type"
  | tooSmall => "number too small to fit in target type"

namespace Integer

/-- Continues a magnitude that must not exceed a bound. -/
def magnitudeFrom (bound : Nat) (exceeded : IntegerError) (value : Nat) :
    List Char → Except IntegerError Nat
  | [] => .ok value
  | c :: rest =>
    match Numeral.digit? 10 c with
    | none => .error .invalidDigit
    | some digit =>
      let value := value * 10 + digit
      if value ≤ bound then magnitudeFrom bound exceeded value rest else .error exceeded

/-- A non-empty run of digits. -/
def magnitude (bound : Nat) (exceeded : IntegerError) : List Char → Except IntegerError Nat
  | [] => .error .invalidDigit
  | digits => magnitudeFrom bound exceeded 0 digits

/-- Reads a number of 64 bits. -/
def read : List Char → Except IntegerError Int
  | [] => .error .empty
  | '-' :: digits => return -(← magnitude Int64.minValue.toInt.natAbs .tooSmall digits : Int)
  | '+' :: digits => return ← magnitude Int64.maxValue.toInt.natAbs .tooLarge digits
  | digits => return ← magnitude Int64.maxValue.toInt.natAbs .tooLarge digits

end Integer

end DocumentCursor.Text
