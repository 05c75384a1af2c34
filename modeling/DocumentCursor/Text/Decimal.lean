import DocumentCursor.Text.Numeral
import DocumentCursor.Text.Split

/-! # Decimal text of binary floating-point numbers

A finite double is a whole number times a power of two, and reading a decimal yields it exactly when
the decimal lies between the midpoints to its neighbours (the midpoints included when its
significand is even). Its text has the fewest significant digits of any decimal that reads back as
it, and of those the nearest to it; of two that are equally near the last digit is even. It is
written with a fractional part, unless it is so small or large that it is written with an exponent.

All arithmetic is on natural numbers: a magnitude is kept as `numerator / denominator`.

Main definitions:

* `Decimal.Interval.ofBits` are the decimals that read back as a double;
* `Decimal.shortest` finds the digits;
* `Decimal.text` writes them, and `Decimal.plainText` writes them without an exponent;
* `Decimal.read?` reads a decimal.
-/

namespace DocumentCursor.Text.Decimal

/-- A magnitude with the ends of the interval that reads back as it, over one denominator. -/
structure Interval where
  low : Nat
  value : Nat
  high : Nat
  denominator : Nat
  /-- Whether the ends read back as the magnitude too. -/
  closed : Bool
  deriving Repr

namespace Interval

/-- The interval of the finite double with the given bits, whose sign is not looked at. -/
def ofBits (bits : UInt64) : Interval :=
  let exponent := ((bits >>> 52) &&& 0x7ff).toNat
  let fraction := (bits &&& 0xfffffffffffff).toNat
  let significand := if exponent = 0 then fraction else fraction + 0x10000000000000
  -- the magnitude is `significand * 2 ^ (scale - 1075)`
  let scale := max exponent 1
  -- below a power of two the neighbour is only half as far
  let below := if fraction = 0 ∧ 1 < exponent then 1 else 2
  let up := 1 <<< (scale - 1075)
  { low := (4 * significand - below) * up
    value := 4 * significand * up
    high := (4 * significand + 2) * up
    denominator := 4 <<< (1075 - scale)
    closed := significand % 2 = 0 }

/-- Whether `digits * 10 ^ power` reads back as the magnitude. -/
def holds (i : Interval) (digits : Nat) (power : Int) : Bool :=
  let candidate := digits * Nat.pow 10 power.toNat * i.denominator
  let unit := Nat.pow 10 (-power).toNat
  if i.closed then i.low * unit ≤ candidate && candidate ≤ i.high * unit
  else i.low * unit < candidate && candidate < i.high * unit

/-- The multiples of a power of ten next to the magnitude, the nearer one first, or the even one. -/
def neighbours (i : Interval) (power : Int) : List Nat :=
  let whole := i.value * Nat.pow 10 (-power).toNat
  let step := i.denominator * Nat.pow 10 power.toNat
  let floor := whole / step
  let twice := 2 * (whole % step)
  if twice < step ∨ twice = step ∧ floor % 2 = 0 then [floor, floor + 1] else [floor + 1, floor]

/-- The place of the first significant digit: the largest `place` with `10 ^ place` at most the
magnitude, searched for downwards from `10 ^ 308`. -/
def leadingPlace (i : Interval) : Int :=
  let reaches := fun (place : Int) =>
    i.denominator * Nat.pow 10 place.toNat ≤ i.value * Nat.pow 10 (-place).toNat
  ((List.range 640).map fun (n : Nat) => 308 - (n : Int)).find? reaches |>.getD 0

end Interval

/-- The shortest digits that read back, as a number, with the power of ten that scales them. The
search begins left of the first digit, where the magnitude may round up to. -/
def shortest (i : Interval) : Nat × Int :=
  let place := i.leadingPlace
  let hit := (List.range 18).findSome? fun (count : Nat) =>
    let power := place + 1 - (count : Int)
    ((i.neighbours power).find? (i.holds · power)).map (·, power)
  hit.getD (0, 0)

/-- Digits times a power of ten, written without an exponent and with a fractional part. -/
def positional (digits : Nat) (power : Int) : List Char :=
  if 0 ≤ power then digitsText (digits * Nat.pow 10 power.toNat) ++ ['.', '0']
  else
    let places := (-power).toNat
    let whole := digits / Nat.pow 10 places
    let fraction := digitsText (digits % Nat.pow 10 places)
    digitsText whole ++ '.' :: List.replicate (places - fraction.length) '0' ++ fraction

/-- Digits times a power of ten, written with one digit before the point and an exponent. -/
def scientific (digits : Nat) (power : Int) : List Char :=
  let text := digitsText digits
  let exponent := power + text.length - 1
  let fraction := text.drop 1
  text.take 1 ++ (if fraction = [] then [] else '.' :: fraction) ++
    'e' :: (if exponent < 0 then '-' else '+') :: digitsText exponent.natAbs

/-- Digits times a power of ten. From a hundred-thousandth on and below ten to the sixteenth there
is no exponent. -/
def magnitudeText (digits : Nat) (power : Int) : List Char :=
  let exponent := power + (digitsText digits).length - 1
  if -5 ≤ exponent ∧ exponent < 16 then positional digits power else scientific digits power

/-- The text of a double, given by its bits. -/
def text (bits : UInt64) : String :=
  let negative := bits >>> 63 = 1
  let fraction := bits &&& 0xfffffffffffff
  let magnitude :=
    if (bits >>> 52) &&& 0x7ff = 0x7ff then if fraction = 0 then "inf" else "NaN"
    else if bits &&& 0x7fffffffffffffff = 0 then "0.0"
    else
      let (digits, power) := shortest (.ofBits bits)
      String.ofList (magnitudeText digits power)
  if negative ∧ magnitude ≠ "NaN" then "-" ++ magnitude else magnitude

/-- The text of a finite double without an exponent, given by its bits. -/
def plainText (bits : UInt64) : String :=
  let (digits, power) :=
    if bits &&& 0x7fffffffffffffff = 0 then (0, 0) else shortest (.ofBits bits)
  String.ofList ((if bits >>> 63 = 1 then ['-'] else []) ++ positional digits power)

/-! ## Reading -/

/-- The magnitudes that are read are below ten to this power, and those below ten to its negative
are zero. -/
def maxPlace : Int := 330

/-- The double that is nearest to `digits * 10 ^ power`, unless that is too large. -/
def nearest? (digits : Nat) (power : Int) : Option UInt64 :=
  let place := power + (digitsText digits).length
  if digits = 0 ∨ place < -maxPlace then some 0
  else if maxPlace < place then none
  else
    let value := Float.ofScientific digits (power < 0) power.natAbs
    if value.isFinite then some value.toBits else none

/-- Reads an exponent, with the letter in front of it; nothing is zero. -/
def exponent? : List Char → Option Int
  | [] => some 0
  | letter :: text =>
    if letter = 'e' ∨ letter = 'E' then
      match text with
      | '-' :: digits => (Numeral.digits? 10 digits).map fun n => -(n : Int)
      | text => (Numeral.digits? 10 (Numeral.dropPlus text)).map fun n => (n : Int)
    else none

/-- Reads a decimal as the bits of the nearest double: digits, which may have a point among them,
and an exponent, after at most one sign. What is too large for a double is none. -/
def read? (text : List Char) : Option UInt64 :=
  let negative := text.head? = some '-'
  let unsigned := if negative then text.drop 1 else Numeral.dropPlus text
  let whole := unsigned.takeWhile Char.isDigit
  let rest := unsigned.dropWhile Char.isDigit
  let behind := if rest.head? = some '.' then rest.drop 1 else []
  let fraction := behind.takeWhile Char.isDigit
  let last := if rest.head? = some '.' then behind.dropWhile Char.isDigit else rest
  do
    let digits ← Numeral.digits? 10 (whole ++ fraction)
    let power ← exponent? last
    let bits ← nearest? digits (power - fraction.length)
    return if negative then bits ||| 0x8000000000000000 else bits

end DocumentCursor.Text.Decimal
