/-! # Arithmetic modulo a number

Anything that can be combined with itself is combined many times in few steps: twice as often is one
step more. Powers modulo a number are numbers combined by multiplication, and what is inverse modulo
a prime is a power.

Main definitions:

* `repeated`;
* `Remainder.sub`, `Remainder.power` and `Remainder.inverse`.
-/

namespace DocumentCursor

/-- Something combined with itself `n` times, by halving `n`. The operation should be associative,
with `unit` as its unit. -/
def repeated {α : Type} (op : α → α → α) (unit a : α) (n : Nat) : α :=
  if n = 0 then unit
  else
    let half := repeated op unit a (n / 2)
    let twice := op half half
    if n % 2 = 1 then op twice a else twice
termination_by n
decreasing_by omega

namespace Remainder

/-- The difference of two numbers modulo `modulus`, the second of which is at most `modulus`:
`a + (modulus - b)`, so that nothing is cut off at zero. -/
def sub (modulus a b : Nat) : Nat := (a + (modulus - b)) % modulus

/-- A power, `a ^ n` modulo `modulus`, by repeated squaring. -/
def power (modulus a n : Nat) : Nat := repeated (fun x y => x * y % modulus) (1 % modulus) a n

/-- What gives 1 when it is multiplied by a number, if the modulus is a prime and does not divide
it: `a ^ (modulus - 2)`. -/
def inverse (modulus a : Nat) : Nat := power modulus a (modulus - 2)

end Remainder

end DocumentCursor
