import DocumentCursor.Arith.Remainder
import DocumentCursor.Tls.Digest
import DocumentCursor.Wire.LittleEndian

/-! # A twisted curve

The points with `y² - x² = 1 + d x² y²` over the numbers modulo `2²⁵⁵ - 19` are added by one rule
for all of them. A private key is 32 bytes; the first half of their digest, with the five bits at
its ends fixed, says how often the base point is taken. A point is written as `y`, with the last bit
of `x` in the place of the highest one.

Main definitions:

* `TwistedCurve.add` and `TwistedCurve.multiple`;
* `TwistedCurve.publicKey`.
-/

namespace DocumentCursor.Tls.TwistedCurve

open Remainder Wire

/-- The prime that numbers are taken modulo. -/
def modulus : Nat := (1 <<< 255) - 19

/-- A point. -/
structure Point where
  x : Nat
  y : Nat
  deriving DecidableEq, Repr

/-- The number `d` of the curve. -/
def constant : Nat := sub modulus 0 (121665 * inverse modulus 121666 % modulus)

/-- The sum of two points. -/
def add (p q : Point) : Point :=
  let product := constant * (p.x * q.x * p.y * q.y % modulus) % modulus
  { x := (p.x * q.y + p.y * q.x) * inverse modulus (1 + product) % modulus
    y := (p.y * q.y + p.x * q.x) * inverse modulus (sub modulus 1 product) % modulus }

/-- The point that changes nothing. -/
def zero : Point := ⟨0, 1⟩

/-- The base point: its `y` is 4/5, and of the two numbers `x` it has the even one. -/
def base : Point where
  x := (0x216936d3cd6e53fec0a4e231fdd6dc5c <<< 128) + 0x692cc7609525a7b2c9562d608f25d51a
  y := 4 * inverse modulus 5 % modulus

/-- The base point, taken so many times. -/
def multiple (n : Nat) : Point := repeated add zero base n

/-- The 32 bytes of a point. -/
def encode (p : Point) : List UInt8 := LittleEndian.digits 32 (p.y + ((p.x % 2) <<< 255))

/-- The number of bytes of a private key. -/
def privateKeySize : Nat := 32

/-- The number that a private key stands for: a multiple of eight between `2²⁵⁴` and `2²⁵⁵`. -/
def scalar (privateKey : List UInt8) : Nat :=
  let digest := LittleEndian.value ((Digest.sha512 privateKey).take 32)
  (1 <<< 254) + digest % (1 <<< 254) / 8 * 8

/-- The public key of a private key. -/
def publicKey (privateKey : List UInt8) : List UInt8 := encode (multiple (scalar privateKey))

end DocumentCursor.Tls.TwistedCurve
