/-! # Unsigned numerals

The numerals that ports, sizes and times are written with: decimal ASCII digits after at most one
plus sign, without blanks, separators or a minus sign, whose value does not exceed a bound.

Main definitions:

* `Numeral.digits?` reads a non-empty run of digits in a base;
* `Numeral.read?` reads a bounded numeral.
-/

namespace DocumentCursor.Text.Numeral

/-- The value of a character as a digit in the given base of at most sixteen. -/
def digit? (base : Nat) (c : Char) : Option Nat :=
  let value :=
    if '0' ≤ c ∧ c ≤ '9' then c.toNat - '0'.toNat
    else if 'a' ≤ c ∧ c ≤ 'f' then c.toNat - 'a'.toNat + 10
    else if 'A' ≤ c ∧ c ≤ 'F' then c.toNat - 'A'.toNat + 10
    else base
  if value < base then some value else none

/-- Continues a numeral whose digits so far have the given value. -/
def digitsFrom? (base : Nat) (value : Nat) : List Char → Option Nat
  | [] => some value
  | c :: rest => (digit? base c).bind fun d => digitsFrom? base (value * base + d) rest

/-- The value of a non-empty run of digits. -/
def digits? (base : Nat) : List Char → Option Nat
  | [] => none
  | digits => digitsFrom? base 0 digits

/-- A text without its leading plus sign, if it has one. -/
def dropPlus : List Char → List Char
  | '+' :: rest => rest
  | text => text

/-- The value of a decimal numeral that does not exceed `bound`. -/
def read? (bound : Nat) (text : List Char) : Option Nat :=
  (digits? 10 (dropPlus text)).filter (· ≤ bound)

end DocumentCursor.Text.Numeral
